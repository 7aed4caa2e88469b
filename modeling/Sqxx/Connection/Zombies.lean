import Sqxx.Connection.Handlers
import Sqxx.Framework.Runs
import Sqxx.Sqlite.Statements

/-!
# Hooks of handles that were closed

A closed handle with statements left keeps its hooks, while the table of the connection object goes
on to the next handle.  An object that the table deletes may still be named by a slot of the old
handle.
-/

namespace Sqxx
open Framework

inductive LifeEvent (F : Type)
  | openDb (answer : OpenAnswer)
  | close
  | prepare (stmt : Nat) (answer : PrepareAnswer)
  | step (stmt : Nat) (called : List HookKind)
  | destroyStatement (stmt : Nat)
  | set (kind : HookKind) (vinst : Int32) (fn : Option F) (faults : Faults)
  | clear (kind : HookKind)
  deriving DecidableEq, Repr

variable {S F : Type}

def sqlite3PrepareV2 (this stmt : Nat) (answer : PrepareAnswer) : Cxx (World S F) Int :=
  Prog.effect fun w =>
    match (w.conn this).handle, answer with
    | none, _ => (SQLITE_MISUSE, w)
    | some h, .compiled =>
      (SQLITE_OK, { w with statements := Function.update w.statements stmt (some h) })
    | some _, .blank => (SQLITE_OK, w)
    | some _, .failed rv => (rv, w)

/-- `connection::prepare`; the statement object is made from what was compiled. -/
def Connection.prepare (this stmt : Nat) (answer : PrepareAnswer) : Cxx (World S F) Unit := do
  let rv ← sqlite3PrepareV2 this stmt answer
  Cxx.checkOk rv

/-- `statement::~statement`, with `sqlite3_finalize`. -/
def destroyStatement (stmt : Nat) : Cxx (World S F) Unit :=
  Prog.perform fun w => { w with statements := Function.update w.statements stmt none }

/-- The library calls the hook of a slot.  The function of the wrapper goes to the object through
the pointer, so a deleted object is undefined behaviour; what the handler throws stays inside. -/
def callTrampoline [HookApi S] (h : Nat) (kind : HookKind) : Cxx (World S F) Unit := do
  let slot ← Prog.reading fun w => HookApi.slot w.sqlite h kind
  match slot with
  | .user hook => do
    let object ← Prog.reading fun w => w.objects.cell hook.data
    if object.isSome then pure () else Cxx.undefined
  | .empty | .builtin => pure ()

def callTrampolines [HookApi S] (h : Nat) : List HookKind → Cxx (World S F) Unit
  | [] => pure ()
  | kind :: kinds => do
    callTrampoline h kind
    callTrampolines h kinds

/-- `statement::step`, with the hooks that `sqlite3_step` calls on the way. -/
def stepStatement [HookApi S] (stmt : Nat) (called : List HookKind) : Cxx (World S F) Unit := do
  let handle ← Prog.reading fun w => w.statements stmt
  match handle with
  | some h => callTrampolines h called
  | none => Cxx.undefined

/-- The library can call hooks of the current handle and of those with statements left. -/
def World.InUse (w : World S F) (this h : Nat) : Prop :=
  w.held this = some h ∨ ∃ stmt, w.statements stmt = some h

namespace LifeEvent

/-- A new statement has a new number, and only statements that exist are used. -/
def Applies (w : World S F) : LifeEvent F → Prop
  | .prepare stmt _ => w.statements stmt = none
  | .step stmt _ | .destroyStatement stmt => w.statements stmt ≠ none
  | _ => True

instance (w : World S F) : DecidablePred (Applies w)
  | .prepare stmt _ => inferInstanceAs (Decidable (w.statements stmt = none))
  | .step stmt _ | .destroyStatement stmt => inferInstanceAs (Decidable (w.statements stmt ≠ none))
  | .openDb _ | .close | .set _ _ _ _ | .clear _ => isTrue trivial

variable [HookApi S] (this : Nat)

def op : LifeEvent F → Cxx (World S F) Unit
  | .openDb answer => Connection.openDb this answer
  | .close => Connection.close this
  | .prepare stmt answer => Connection.prepare this stmt answer
  | .step stmt called => stepStatement stmt called
  | .destroyStatement stmt => Sqxx.destroyStatement stmt
  | .set kind vinst fn faults => setterOf this kind vinst fn faults
  | .clear kind => clearerOf this kind

def exec (w : World S F) (e : LifeEvent F) : World S F :=
  if e.Applies w then (e.op this w).final else w

/-- Of the handles in use, only the current one has a hook of the user's for `kind`. -/
def OnlyCurrent (w : World S F) (kind : HookKind) : Prop :=
  ∀ h hook, w.InUse this h → HookApi.slot w.sqlite h kind = .user hook → w.held this = some h

/-- The handler is registered and there is no table to own it. -/
def LosesTable (w : World S F) (kind : HookKind) (vinst : Int32) (faults : Faults) : Prop :=
  faults.table = true ∧ (w.conn this).callbacks = none ∧ (w.held this).isSome ∧ Active kind vinst

/-- What is deleted is named by no slot that can be called. -/
def Spares (w : World S F) : LifeEvent F → Prop
  | .set kind vinst (some _) faults =>
    faults.object = none → OnlyCurrent this w kind ∧ ¬ LosesTable this w kind vinst faults
  | .set kind _ none _ => OnlyCurrent this w kind
  | .clear kind => OnlyCurrent this w kind
  | _ => True

end LifeEvent

section Slots

variable [HookApi S]

/-- Whatever hooks the library calls through a handle in use, no function of the wrapper is given a
deleted object. -/
def CallsSafe (this : Nat) (w : World S F) : Prop :=
  ∀ h called, w.InUse this h → (callTrampolines h called w).outcome = .ok ()

private theorem callTrampoline_run (h : Nat) (kind : HookKind) (w : World S F) :
    callTrampoline h kind w =
      ⟨match HookApi.slot w.sqlite h kind with
        | .user hook => if w.objects.Live hook.data then .ok () else .error .undefined
        | .empty | .builtin => .ok (), w, []⟩ := by
  rw [callTrampoline]
  rcases hslot : HookApi.slot w.sqlite h kind with _ | hook | _
  · simp [hslot]
  · by_cases hlive : (w.objects.cell hook.data).isSome
    · simp [hslot, Heap.Live, hlive]
    · simp [hslot, Heap.Live, hlive]
  · simp [hslot]

private theorem callTrampolines_final (h : Nat) (called : List HookKind) (w : World S F) :
    (callTrampolines h called w).final = w := by
  induction called with
  | nil => rfl
  | cons kind kinds ih =>
    rw [callTrampolines, Prog.bind_run, callTrampoline_run]
    rcases (match HookApi.slot w.sqlite h kind with
      | .user hook => if w.objects.Live hook.data then .ok () else .error .undefined
      | .empty | .builtin => .ok () : Except Raised Unit) with e | _
    · rfl
    · exact ih

theorem stepStatement_final (stmt : Nat) (called : List HookKind) (w : World S F) :
    (stepStatement stmt called w).final = w := by
  rw [stepStatement, Prog.bind_run, Prog.reading_run, Exec.andThen_ok, Exec.prepend_final]
  rcases w.statements stmt with _ | h
  · rfl
  · exact callTrampolines_final h called w

theorem callsSafe_iff (this : Nat) (w : World S F) :
    CallsSafe this w ↔ HooksLive (w.InUse this) w.sqlite w.objects := by
  constructor
  · intro hsafe h kind hook huse hslot
    by_contra hdead
    have hok := hsafe h [kind] huse
    rw [callTrampolines, Prog.bind_run, callTrampoline_run, hslot] at hok
    simp [hdead] at hok
  · intro hlive h called huse
    induction called with
    | nil => rfl
    | cons kind kinds ih =>
      have hok : callTrampoline h kind w = ⟨.ok (), w, []⟩ := by
        rw [callTrampoline_run]
        rcases hslot : HookApi.slot w.sqlite h kind with _ | hook | _
        · rfl
        · simp [hlive h kind hook huse hslot]
        · rfl
      rw [callTrampolines, Prog.bind_run, hok]
      exact ih

/-- The invariant: a hook that can be called has the object that the table owns for its kind, and
handles not opened yet have no hooks of the user's. -/
structure HooksFollow (this : Nat) (w : World S F) : Prop where
  owned : w.objects.Held (w.callback this)
  entry : ∀ h kind hook, w.InUse this h → HookApi.slot w.sqlite h kind = .user hook →
    w.callback this kind = some hook.data
  fresh : ∀ h kind hook, w.handles.next ≤ h → HookApi.slot w.sqlite h kind ≠ .user hook
  known : ∀ h, w.InUse this h → h < w.handles.next

namespace HooksFollow

variable {shared : Bool} {this : Nat} {w v : World S F}

theorem init {sqlite : S} (hfresh : NoUserHooks sqlite) (this : Nat) :
    HooksFollow this (World.oneConnection sqlite this : World S F) where
  owned := by
    apply Heap.Held.init
    intro kind
    simp [World.callback, World.oneConnection, Connection.construct]
  entry h kind hook _ hslot := by
    exact (hfresh h kind hook hslot).elim
  fresh h kind hook _ := hfresh h kind hook
  known h huse := by
    rcases huse with hheld | ⟨stmt, hstmt⟩
    · have hnone : (World.oneConnection sqlite this : World S F).held this = none := by
        rw [World.oneConnection]
        exact (congrFun (held_setConn _ this _) this).trans (Function.update_self _ _ _)
      cases hnone.symm.trans hheld
    · cases hstmt

theorem hooksLive (hw : HooksFollow this w) : HooksLive (w.InUse this) w.sqlite w.objects := by
  intro h kind hook huse hslot
  exact hw.owned.live kind hook.data (hw.entry h kind hook huse hslot)

private theorem of_inUse (hw : HooksFollow this w) (hsqlite : v.sqlite = w.sqlite)
    (hobjects : v.objects = w.objects) (hcallback : v.callback this = w.callback this)
    (hnext : w.handles.next ≤ v.handles.next)
    (huse : ∀ h, v.InUse this h → w.InUse this h ∨ w.handles.next = h ∧ h < v.handles.next) :
    HooksFollow this v where
  owned := by
    rw [hobjects, hcallback]
    exact hw.owned
  entry h kind hook hin hslot := by
    rw [hsqlite] at hslot
    rcases huse h hin with hin | ⟨rfl, -⟩
    · rw [hcallback]
      exact hw.entry h kind hook hin hslot
    · exact (hw.fresh _ kind hook (Nat.le_refl _) hslot).elim
  fresh h kind hook hle := by
    rw [hsqlite]
    exact hw.fresh h kind hook (Nat.le_trans hnext hle)
  known h hin := by
    rcases huse h hin with hin | ⟨-, hlt⟩
    · exact Nat.lt_of_lt_of_le (hw.known h hin) hnext
    · exact hlt

theorem setHandle (hw : HooksFollow this w) {handles : Heap Unit} {handle : Option Nat}
    (hnext : w.handles.next ≤ handles.next)
    (hhandle : ∀ h, handle = some h → w.handles.next = h ∧ h < handles.next) :
    HooksFollow this ({ w with handles := handles }.setHandle this handle) := by
  let v := { w with handles := handles }.setHandle this handle
  have hheld : v.held this = handle := by
    rw [held_setHandle, Function.update_self]
  apply hw.of_inUse (v := v) rfl rfl (callback_setHandle _ this _) hnext
  intro h huse
  rcases huse with hh | hstmt
  · exact Or.inr (hhandle h (hheld.symm.trans hh))
  · exact Or.inl (Or.inr hstmt)

theorem openDb (hw : HooksFollow this w) (answer : OpenAnswer) :
    HooksFollow this (Connection.openDb this answer w).final := by
  rcases Connection.openDb_cases this answer w with hstored | hnull | hclosed
  · rw [hstored]
    apply hw.setHandle (Nat.le_succ _)
    intro h hh
    obtain rfl := Option.some.inj hh
    exact ⟨rfl, Nat.lt_succ_self _⟩
  · rw [hnull]
    exact hw.setHandle (Nat.le_refl _) fun _ hh => by cases hh
  · rw [hclosed]
    exact hw.setHandle (Nat.le_succ _) fun _ hh => by cases hh

theorem close (hw : HooksFollow this w) : HooksFollow this (Connection.close this w).final := by
  rw [(Connection.close_ends this w).final]
  apply hw.setHandle
  · exact Nat.le_of_eq (Heap.freeAll_next _ _).symm
  · intro h hh
    cases hh

theorem statements (hw : HooksFollow this w) {statements : Nat → Option Nat}
    (hstmts : ∀ stmt h, statements stmt = some h → w.InUse this h) :
    HooksFollow this { w with statements := statements } := by
  apply hw.of_inUse (v := { w with statements := statements }) rfl rfl rfl (Nat.le_refl _)
  intro h huse
  rcases huse with hheld | ⟨stmt, hstmt⟩
  · exact Or.inl (Or.inl hheld)
  · exact Or.inl (hstmts stmt h hstmt)

theorem prepare (hw : HooksFollow this w) (stmt : Nat) (answer : PrepareAnswer) :
    HooksFollow this (Connection.prepare this stmt answer w).final := by
  have hfinal : (Connection.prepare this stmt answer w).final = w ∨
      ∃ h, w.held this = some h ∧ (Connection.prepare this stmt answer w).final =
        { w with statements := Function.update w.statements stmt (some h) } := by
    rw [Connection.prepare, Prog.bind_run, sqlite3PrepareV2, Prog.effect_run, Exec.andThen_ok,
      Exec.prepend_final, Cxx.checkOk_run]
    rcases hheld : w.held this with _ | h
    · simp [conn_handle, hheld]
    · cases answer <;> simp [conn_handle, hheld]
  rcases hfinal with hfinal | ⟨h, hheld, hfinal⟩
  · rw [hfinal]
    exact hw
  · rw [hfinal]
    apply hw.statements
    intro stmt' h' hstmt
    by_cases hsame : stmt' = stmt
    · subst hsame
      rw [Function.update_self] at hstmt
      exact Or.inl (hheld.trans hstmt)
    · rw [Function.update_of_ne hsame] at hstmt
      exact Or.inr ⟨stmt', hstmt⟩

theorem destroyStatement (hw : HooksFollow this w) (stmt : Nat) :
    HooksFollow this (Sqxx.destroyStatement stmt w).final := by
  apply hw.statements
  intro stmt' h hstmt
  exact Or.inr ⟨stmt', (Heap.of_update_none hstmt).2⟩

/-- The slot of `kind` of the current handle, if there is one, has become `slot`, and no slot has a
new hook of the user's otherwise. -/
structure CurrentSlotBecomes (this : Nat) (kind : HookKind) (slot : Slot) (w : World S F) (s' : S) :
    Prop where
  here : ∀ h, w.held this = some h → HookApi.slot s' h kind = slot
  user : ∀ h other hook, ¬ (w.held this = some h ∧ other = kind) →
    HookApi.slot s' h other = .user hook → HookApi.slot w.sqlite h other = .user hook
  otherHandles : ∀ h other, w.held this ≠ some h →
    HookApi.slot s' h other = HookApi.slot w.sqlite h other

omit [HookApi S] in
private theorem sqlite_called_none (hnone : w.held this = none) (f : Nat → S → S) :
    (w.called this f).sqlite = w.sqlite := by
  rw [← conn_handle] at hnone
  simp [World.called, hnone]

theorem CurrentSlotBecomes.of_slotBecomes {kind : HookKind} {slot : Slot} {i : Nat} {s' : S}
    (hheld : w.held this = some i) (hs : SlotBecomes shared i kind slot w.sqlite s') :
    CurrentSlotBecomes this kind slot w s' where
  here h hh := by
    obtain rfl := Option.some.inj (hheld.symm.trans hh)
    exact hs.here
  user h other hook hne := by
    apply hs.user
    intro heq
    obtain ⟨rfl, rfl⟩ := Prod.mk.inj heq
    exact hne ⟨hheld, rfl⟩
  otherHandles h other hne := by
    apply hs.elsewhere
    rintro ⟨rfl, -⟩
    exact hne hheld

private theorem called_becomes {kind : HookKind} {slot : Slot} {f : Nat → S → S}
    (hf : ∀ h s, SlotBecomes shared h kind slot s (f h s)) (w : World S F) (this : Nat) :
    CurrentSlotBecomes this kind slot w (w.called this f).sqlite := by
  rcases hheld : w.held this with _ | i
  · rw [sqlite_called_none hheld]
    refine ⟨fun h hh => ?_, fun _ _ _ _ huser => huser, fun _ _ _ => rfl⟩
    cases hheld.symm.trans hh
  · rw [sqlite_called hheld]
    exact .of_slotBecomes hheld (hf i w.sqlite)

omit [HookApi S] in
private theorem inUse_same (hsame : SameHandles w v) (h : Nat) :
    v.InUse this h ↔ w.InUse this h := by
  rw [World.InUse, World.InUse, hsame.held, hsame.statements]

theorem next (hw : HooksFollow this w) {kind : HookKind} {slot : Slot} {entry : Option Nat}
    (hs : CurrentSlotBecomes this kind slot w v.sqlite) (hsame : SameHandles w v)
    (hentry : v.callback this = Function.update (w.callback this) kind entry)
    (howned : v.objects.Held (v.callback this)) (honly : LifeEvent.OnlyCurrent this w kind)
    (hslot : ∀ h hook, w.held this = some h → slot = .user hook → entry = some hook.data) :
    HooksFollow this v := by
  refine ⟨howned, ?_, ?_, ?_⟩
  · intro h other hook huse huser
    rw [inUse_same hsame] at huse
    rw [hentry]
    by_cases hhere : w.held this = some h ∧ other = kind
    · obtain ⟨hheld, rfl⟩ := hhere
      rw [Function.update_self]
      exact hslot h hook hheld ((hs.here h hheld).symm.trans huser)
    · have huser := hs.user h other hook hhere huser
      have hne : other ≠ kind := by
        rintro rfl
        exact hhere ⟨honly h hook huse huser, rfl⟩
      rw [Function.update_of_ne hne]
      exact hw.entry h other hook huse huser
  · intro h other hook hle huser
    rw [hsame.handles] at hle
    have hne : w.held this ≠ some h := by
      intro hheld
      have hlt := hw.known h (Or.inl hheld)
      omega
    exact hw.fresh h other hook hle (hs.user h other hook (fun hhere => hne hhere.1) huser)
  · intro h huse
    rw [hsame.handles]
    exact hw.known h ((inUse_same hsame h).mp huse)

theorem not_callsSafe (hw : HooksFollow this w) {kind : HookKind} {slot : Slot}
    {objects : Heap (HandlerObject F)} (hs : CurrentSlotBecomes this kind slot w v.sqlite)
    (hsame : SameHandles w v) (hfreed : v.objects = objects.freeAll (w.callback this kind).toList)
    (hmiss : ¬ LifeEvent.OnlyCurrent this w kind) : ¬ CallsSafe this v := by
  intro hsafe
  apply hmiss
  intro h hook huse huser
  by_contra hother
  have hkept : HookApi.slot v.sqlite h kind = .user hook := by
    rw [hs.otherHandles h kind hother]
    exact huser
  have hlive := (callsSafe_iff this v).mp hsafe h kind hook ((inUse_same hsame h).mpr huse) hkept
  rw [hfreed, Heap.live_freeAll] at hlive
  exact hlive.1 (Option.mem_toList.mpr (hw.entry h kind hook huse huser))

private theorem clearerOf_spec (laws : HookLaws shared S) (hw : HooksFollow this w)
    (kind : HookKind) :
    (LifeEvent.OnlyCurrent this w kind → HooksFollow this (clearerOf this kind w).final) ∧
      (¬ LifeEvent.OnlyCurrent this w kind → ¬ CallsSafe this (clearerOf this kind w).final) := by
  let v := (w.called this (registerOf 0 kind none)).reset this kind
  have hfinal : (clearerOf this kind w).final = v := by
    have hthrough : Prog.Through (fun _ => True)
        (Connection.clearHandler this kind (registerOf 0 kind)) w (.ok ()) v :=
      Connection.clearHandler_through trivial (fun _ => trivial) trivial
    rw [clearerOf_eq, hthrough.final]
  have hs : CurrentSlotBecomes this kind .empty w v.sqlite := by
    rw [sqlite_reset]
    exact called_becomes (registerOf_none laws kind) w this
  have hsame : SameHandles w v := by
    have hcalled : SameHandles w (w.called this (registerOf 0 kind none)) := ⟨rfl, rfl, rfl⟩
    exact hcalled.trans (sameHandles_reset _ this kind)
  have hentry : v.callback this = Function.update (w.callback this) kind none :=
    callback_reset _ this kind
  have hfreed : v.objects = w.objects.freeAll (w.callback this kind).toList :=
    objects_reset _ this kind
  rw [hfinal]
  constructor
  · intro honly
    apply hw.next hs hsame hentry _ honly
    · intro h hook _ heq
      cases heq
    · rw [hfreed, hentry]
      exact hw.owned.release kind
  · intro hmiss
    exact hw.not_callsSafe hs hsame hfreed hmiss

private theorem setHandler_spec (laws : HookLaws shared S) (hw : HooksFollow this w)
    (kind : HookKind) (vinst : Int32) (f : F) {faults : Faults} (hobject : faults.object = none)
    (htable : (w.conn this).callbacks.isSome ∨ faults.table = false) :
    (LifeEvent.OnlyCurrent this w kind →
        HooksFollow this (setterOf this kind vinst (some f) faults w).final) ∧
      (¬ LifeEvent.OnlyCurrent this w kind →
        ¬ CallsSafe this (setterOf this kind vinst (some f) faults w).final) := by
  let object := objectOf this f kind
  let v := w.afterSet this kind (registerOf vinst kind) (trampolineOf kind) object
  have hfinal : (setterOf this kind vinst (some f) faults w).final = v := by
    have hthrough : Prog.Through (fun _ => True) (Connection.setHandler this kind
        (registerOf vinst kind) (trampolineOf kind) object faults) w (.ok ()) v :=
      Connection.setHandler_through hobject htable trivial trivial trivial trivial trivial
    rw [setterOf_some, hthrough.final]
  have hs : CurrentSlotBecomes this kind (slotAfterSet kind vinst w.objects.next) w v.sqlite := by
    rw [sqlite_afterSet]
    exact called_becomes (registerOf_some laws vinst kind w.objects.next) w this
  have hsame : SameHandles w v := sameHandles_afterSet w this kind _ _ object
  have hentry : v.callback this = Function.update (w.callback this) kind (some w.objects.next) :=
    callback_afterSet w this kind _ _ object
  have hfreed : v.objects = (w.objects.alloc object).freeAll (w.callback this kind).toList :=
    objects_afterSet w this kind _ _ object
  rw [hfinal]
  constructor
  · intro honly
    apply hw.next hs hsame hentry _ honly
    · intro h hook _ heq
      rw [data_of_slotAfterSet heq]
    · rw [hfreed, hentry]
      exact hw.owned.replace kind object
  · intro hmiss
    exact hw.not_callsSafe hs hsame hfreed hmiss

private theorem setHandler_no_table_spec (laws : HookLaws shared S) (hw : HooksFollow this w)
    (kind : HookKind) (vinst : Int32) (f : F) {faults : Faults} (hobject : faults.object = none)
    (htable : faults.table = true) (hnone : (w.conn this).callbacks = none) :
    (¬ LifeEvent.LosesTable this w kind vinst faults →
        HooksFollow this (setterOf this kind vinst (some f) faults w).final) ∧
      (LifeEvent.LosesTable this w kind vinst faults →
        ¬ CallsSafe this (setterOf this kind vinst (some f) faults w).final) := by
  let object := objectOf this f kind
  let v := { w.registered this (registerOf vinst kind) (trampolineOf kind) object with
    objects := (w.objects.alloc object).free w.objects.next }
  have hfinal : (setterOf this kind vinst (some f) faults w).final = v := by
    rw [setterOf_some]
    exact (Connection.setHandler_no_table hobject htable hnone).final
  have hs : CurrentSlotBecomes this kind (slotAfterSet kind vinst w.objects.next) w v.sqlite :=
    called_becomes (registerOf_some laws vinst kind w.objects.next) w this
  have hsame : SameHandles w v := ⟨rfl, rfl, rfl⟩
  have hcallback : w.callback this = fun _ => none := by
    funext other
    simp [World.callback, hnone]
  have hentry : v.callback this = Function.update (w.callback this) kind none := by
    change w.callback this = _
    rw [hcallback]
    exact (Function.update_eq_self kind _).symm
  rw [hfinal]
  constructor
  · intro hkeeps
    apply hw.next hs hsame hentry
    · exact hw.owned.discard object
    · intro h hook huse huser
      have hentry := hw.entry h kind hook huse huser
      rw [hcallback] at hentry
      cases hentry
    · intro h hook hheld heq
      rw [slotAfterSet] at heq
      split at heq
      · case isTrue hactive =>
        exact (hkeeps ⟨htable, hnone, by rw [hheld]; rfl, hactive⟩).elim
      · cases heq
  · rintro ⟨-, -, hopen, hactive⟩ hsafe
    obtain ⟨h, hheld⟩ := Option.isSome_iff_exists.mp hopen
    have huser : HookApi.slot v.sqlite h kind = .user ⟨trampolineOf kind, w.objects.next⟩ :=
      (hs.here h hheld).trans (slotAfterSet_of_active hactive _)
    have hlive := (callsSafe_iff this v).mp hsafe h kind _ (Or.inl hheld) huser
    exact ((Heap.live_free _ _ _).mp hlive).1 rfl

theorem exec_hooksFollow (laws : HookLaws shared S) (hw : HooksFollow this w) (e : LifeEvent F)
    (hok : e.Spares this w) : HooksFollow this (e.exec this w) := by
  rw [LifeEvent.exec]
  split
  · cases e with
    | openDb answer => exact hw.openDb answer
    | close => exact hw.close
    | prepare stmt answer => exact hw.prepare stmt answer
    | step stmt called =>
      rw [LifeEvent.op, stepStatement_final]
      exact hw
    | destroyStatement stmt => exact hw.destroyStatement stmt
    | set kind vinst fn faults =>
      cases fn with
      | none =>
        rw [LifeEvent.op, setterOf_none]
        exact (hw.clearerOf_spec laws kind).1 hok
      | some f =>
        rcases hobject : faults.object with _ | e
        · obtain ⟨honly, hkeeps⟩ := hok hobject
          by_cases htable : (w.conn this).callbacks.isSome ∨ faults.table = false
          · exact (hw.setHandler_spec laws kind vinst f hobject htable).1 honly
          · simp only [not_or, Option.not_isSome_iff_eq_none, Bool.not_eq_false] at htable
            exact (hw.setHandler_no_table_spec laws kind vinst f hobject htable.2 htable.1).1 hkeeps
        · rw [LifeEvent.op, setterOf_some, (Connection.setHandler_no_object hobject).final]
          exact hw
    | clear kind => exact (hw.clearerOf_spec laws kind).1 hok
  · exact hw

theorem exec_not_callsSafe (laws : HookLaws shared S) (hw : HooksFollow this w) (e : LifeEvent F)
    (hno : ¬ e.Spares this w) : ¬ CallsSafe this (e.exec this w) := by
  cases e with
  | set kind vinst fn faults =>
    have happ : (LifeEvent.set kind vinst fn faults).Applies w := trivial
    rw [LifeEvent.exec, if_pos happ]
    cases fn with
    | none =>
      rw [LifeEvent.op, setterOf_none]
      exact (hw.clearerOf_spec laws kind).2 hno
    | some f =>
      simp only [LifeEvent.Spares, Classical.not_imp, not_and, not_not] at hno
      obtain ⟨hobject, hno⟩ := hno
      by_cases htable : (w.conn this).callbacks.isSome ∨ faults.table = false
      · apply (hw.setHandler_spec laws kind vinst f hobject htable).2
        intro honly
        obtain ⟨hfault, hnone, -⟩ := hno honly
        simp [hfault, hnone] at htable
      · simp only [not_or, Option.not_isSome_iff_eq_none, Bool.not_eq_false] at htable
        apply (hw.setHandler_no_table_spec laws kind vinst f hobject htable.2 htable.1).2
        apply hno
        intro h hook huse huser
        have hentry := hw.entry h kind hook huse huser
        simp [World.callback, htable.1] at hentry
  | clear kind =>
    have happ : (LifeEvent.clear kind : LifeEvent F).Applies w := trivial
    rw [LifeEvent.exec, if_pos happ]
    exact (hw.clearerOf_spec laws kind).2 hno
  | _ => exact (hno trivial).elim

end HooksFollow

/-- No hook reaches a deleted object in exactly the runs in which a handler is set or cleared only
while no other handle in use has a hook of the kind, and in which no handler is registered that the
table cannot be made for. -/
theorem hooks_live_iff {shared : Bool} (laws : HookLaws shared S) {sqlite : S}
    (hfresh : NoUserHooks sqlite) (this : Nat) (es : List (LifeEvent F)) :
    Always (LifeEvent.exec this) (CallsSafe this) (World.oneConnection sqlite this) es ↔
      StepsMeet (LifeEvent.exec this) (LifeEvent.Spares this) (World.oneConnection sqlite this)
        es :=
  always_iff_stepsMeet (fun w hw => (callsSafe_iff this w).mpr hw.hooksLive)
    (fun _ e hw hok => hw.exec_hooksFollow laws e hok)
    (fun _ e hw hno => hw.exec_not_callsSafe laws e hno)
    (HooksFollow.init hfresh this) es

end Slots

theorem hooks_live_iff_reopened :
    Always (LifeEvent.exec 0) (CallsSafe 0)
      (World.oneConnection SlotTable.fresh 0 : World (SlotTable true) Nat)
      [.openDb .ok, .set .commit 0 (some 1) .none, .close, .openDb .ok,
        .set .commit 0 (some 2) .none] := by
  apply (hooks_live_iff SlotTable.hookLaws SlotTable.noUserHooks 0 _).mpr
  have honly : ∀ (w : World (SlotTable true) Nat) (kind : HookKind),
      w.statements = (fun _ => none) → LifeEvent.OnlyCurrent 0 w kind := by
    intro w kind hnone h hook huse _
    rcases huse with hheld | ⟨stmt, hstmt⟩
    · exact hheld
    · rw [hnone] at hstmt
      cases hstmt
  exact ⟨trivial, fun _ => ⟨honly _ _ rfl, fun h => nomatch h.1⟩, trivial, trivial,
    fun _ => ⟨honly _ _ rfl, fun h => nomatch h.1⟩, trivial⟩

/-- The connection is closed with a statement left, opened again and given a new handler: stepping
the statement calls the hook of the closed handle with the deleted object. -/
theorem hook_of_closed_handle_stale :
    let es : List (LifeEvent Nat) :=
      [.openDb .ok, .set .commit 0 (some 1) .none, .prepare 0 .compiled, .close, .openDb .ok,
        .set .commit 0 (some 2) .none]
    let start : World (SlotTable true) Nat := World.oneConnection SlotTable.fresh 0
    let w := run (LifeEvent.exec 0) start es
    (stepStatement 0 [.commit] w).outcome = .error .undefined ∧
      ¬ Always (LifeEvent.exec 0) (CallsSafe 0) start es := by
  intro es start w
  have hstep : (callTrampolines 0 [.commit] w).outcome = .error .undefined := rfl
  refine ⟨rfl, fun halways => ?_⟩
  have hsafe := halways.last 0 [.commit] (Or.inr ⟨0, rfl⟩)
  cases hstep.symm.trans hsafe

end Sqxx
