import Sqxx.Connection.Handlers
import Sqxx.Connection.Handles

/-!
# Setting a handler that throws

A handler is registered with the library before there is a table to own its object.  When the table
cannot be allocated the object is deleted, while the slot keeps the pointer to it.
-/

namespace Sqxx
open Framework

/-- What a program does with its connections, as far as hooks are concerned. -/
inductive ConnectionEvent (F : Type)
  | handle (e : HandleEvent)
  | set (this : Nat) (kind : HookKind) (vinst : Int32) (fn : Option F) (faults : Faults)
  | clear (this : Nat) (kind : HookKind)
  | busyTimeout (this : Nat) (ms : Int32)
  | walAutocheckpoint (this : Nat) (frames : Int32)
  deriving DecidableEq, Repr

variable {S F : Type}

namespace ConnectionEvent

def Applies (w : World S F) : ConnectionEvent F → Prop
  | .handle e => e.Applies w
  | .set this _ _ _ _ | .clear this _ | .busyTimeout this _ | .walAutocheckpoint this _ =>
    w.Exists this

instance (w : World S F) : DecidablePred (Applies w)
  | .handle e => inferInstanceAs (Decidable (e.Applies w))
  | .set this _ _ _ _ | .clear this _ | .busyTimeout this _ | .walAutocheckpoint this _ =>
    inferInstanceAs (Decidable (w.Exists this))

variable [HookApi S]

def op : ConnectionEvent F → Cxx (World S F) Unit
  | .handle e => e.op
  | .set this kind vinst fn faults => setterOf this kind vinst fn faults
  | .clear this kind => clearerOf this kind
  | .busyTimeout this ms => Connection.busyTimeout this ms
  | .walAutocheckpoint this frames => Connection.walAutocheckpoint this frames

def exec (w : World S F) (e : ConnectionEvent F) : World S F :=
  if e.Applies w then (e.op w).final else w

end ConnectionEvent

section Slots

variable [HookApi S]

/-- All slots and all entries of tables are as in `w`, and no slot names an object that was deleted
since. -/
structure Untouched (w v : World S F) : Prop where
  slots : ∀ h kind, HookApi.slot v.sqlite h kind = HookApi.slot w.sqlite h kind
  entries : v.callback = w.callback
  undeleted : ∀ h kind hook, HookApi.slot v.sqlite h kind = .user hook →
    v.objects.frees hook.data = w.objects.frees hook.data

/-- If the setter throws, it has changed nothing. -/
def SetsAtomically (w : World S F) (this : Nat) (kind : HookKind) (vinst : Int32) (f : F)
    (faults : Faults) : Prop :=
  ∀ e, (setterOf this kind vinst (some f) faults w).outcome = .error (.exception e) →
    Untouched w (setterOf this kind vinst (some f) faults w).final

/-- The handler object is made and the table cannot be, and the registration between the two changes
the slot. -/
def RegistersInVain (w : World S F) (this h : Nat) (kind : HookKind) (vinst : Int32)
    (faults : Faults) : Prop :=
  faults.object = none ∧ faults.table = true ∧ (w.conn this).callbacks = none ∧
    (Active kind vinst ∨ HookApi.slot w.sqlite h kind ≠ .empty)

def NamesMade (w : World S F) : Prop :=
  ∀ h kind hook, HookApi.slot w.sqlite h kind = .user hook → hook.data < w.objects.next

private theorem namesMade_noConnections {sqlite : S} (hfresh : NoUserHooks sqlite) :
    NamesMade (World.noConnections sqlite : World S F) := by
  intro h kind hook hslot
  exact (hfresh h kind hook hslot).elim

variable {shared : Bool} {w v : World S F}

theorem NamesMade.next (hw : NamesMade w) (hnext : w.objects.next ≤ v.objects.next)
    (hslots : ∀ h kind hook, HookApi.slot v.sqlite h kind = .user hook →
      HookApi.slot w.sqlite h kind = .user hook ∨ hook.data < v.objects.next) : NamesMade v := by
  intro h kind hook hslot
  rcases hslots h kind hook hslot with hbefore | hmade
  · exact Nat.lt_of_lt_of_le (hw h kind hook hbefore) hnext
  · exact hmade

private theorem slot_called {this : Nat} {kind : HookKind} {slot : Slot} {f : Nat → S → S}
    (hf : ∀ i, w.held this = some i → SlotBecomes shared i kind slot w.sqlite (f i w.sqlite))
    {h : Nat} {other : HookKind} {hook : Hook}
    (huser : HookApi.slot (w.called this f).sqlite h other = .user hook) :
    HookApi.slot w.sqlite h other = .user hook ∨ slot = .user hook := by
  rcases hheld : w.held this with _ | i
  · rw [← conn_handle] at hheld
    simp only [World.called, hheld] at huser
    exact Or.inl huser
  · rw [sqlite_called hheld] at huser
    have hs := hf i hheld
    by_cases hsame : (h, other) = (i, kind)
    · obtain ⟨rfl, rfl⟩ := Prod.mk.inj hsame
      exact Or.inr (hs.here.symm.trans huser)
    · exact Or.inl (hs.user hsame huser)

private theorem NamesMade.silenced (hw : NamesMade w) {this : Nat} {kind : HookKind} {slot : Slot}
    {f : Nat → S → S}
    (hf : ∀ i, w.held this = some i → SlotBecomes shared i kind slot w.sqlite (f i w.sqlite))
    (hslot : ∀ hook, slot ≠ .user hook) : NamesMade ((w.called this f).reset this kind) := by
  have hnext : ((w.called this f).reset this kind).objects.next = w.objects.next := by
    rw [objects_reset, Heap.freeAll_next]
    rfl
  apply hw.next (Nat.le_of_eq hnext.symm)
  intro h other hook huser
  rw [sqlite_reset] at huser
  exact Or.inl ((slot_called hf huser).resolve_right (hslot hook))

theorem NamesMade.clear (laws : HookLaws shared S) (hw : NamesMade w) (this : Nat)
    (kind : HookKind) : NamesMade (clearerOf this kind w).final := by
  have hthrough : Prog.Through (fun _ => True)
      (Connection.clearHandler this kind (registerOf 0 kind)) w (.ok ())
      ((w.called this (registerOf 0 kind none)).reset this kind) :=
    Connection.clearHandler_through trivial (fun _ => trivial) trivial
  rw [clearerOf_eq, hthrough.final]
  apply hw.silenced fun i _ => registerOf_none laws kind i w.sqlite
  intro hook heq
  cases heq

theorem NamesMade.set (laws : HookLaws shared S) (hw : NamesMade w) (this : Nat) (kind : HookKind)
    (vinst : Int32) (f : F) (faults : Faults) :
    NamesMade (setterOf this kind vinst (some f) faults w).final := by
  let object := objectOf this f kind
  have hregistered : ∀ h other hook,
      HookApi.slot (w.registered this (registerOf vinst kind) (trampolineOf kind) object).sqlite h
        other = .user hook →
      HookApi.slot w.sqlite h other = .user hook ∨ hook.data < w.objects.next + 1 := by
    intro h other hook huser
    have hs := fun i => registerOf_some laws vinst kind w.objects.next i w.sqlite
    rcases slot_called (fun i _ => hs i) huser with hbefore | hnew
    · exact Or.inl hbefore
    · rw [data_of_slotAfterSet hnew]
      exact Or.inr (Nat.lt_succ_self _)
  rw [setterOf_some]
  rcases hobject : faults.object with _ | e
  · by_cases htable : (w.conn this).callbacks.isSome ∨ faults.table = false
    · have hthrough : Prog.Through (fun _ => True) (Connection.setHandler this kind
          (registerOf vinst kind) (trampolineOf kind) object faults) w (.ok ())
          (w.afterSet this kind (registerOf vinst kind) (trampolineOf kind) object) :=
        Connection.setHandler_through hobject htable trivial trivial trivial trivial trivial
      have hnext : (w.afterSet this kind (registerOf vinst kind) (trampolineOf kind)
          object).objects.next = w.objects.next + 1 := by
        rw [objects_afterSet, Heap.freeAll_next, Heap.alloc_next]
      rw [hthrough.final]
      apply hw.next (by omega)
      intro h other hook huser
      rw [sqlite_afterSet] at huser
      rw [hnext]
      exact hregistered h other hook huser
    · simp only [not_or, Option.not_isSome_iff_eq_none, Bool.not_eq_false] at htable
      rw [(Connection.setHandler_no_table hobject htable.2 htable.1).final]
      exact hw.next (Nat.le_succ _) hregistered
  · rw [(Connection.setHandler_no_object hobject).final]
    exact hw

private theorem NamesMade.checked (hw : NamesMade w) {this : Nat} {kind : HookKind}
    {f : Nat → S → Int × S} (hf : ∀ h s, (f h s).1 = SQLITE_OK ∧
      ∃ slot, (slot = .empty ∨ slot = .builtin) ∧ SlotBecomes shared h kind slot s (f h s).2) :
    NamesMade ((do
      callHookChecked this f
      Connection.resetCallback this kind : Cxx (World S F) Unit) w).final := by
  let g : Nat → S → S := fun h s => (f h s).2
  rcases hheld : w.held this with _ | i
  · have hmisuse : Prog.Ends (callHookChecked this f) w
        (.error (.exception (staticError SQLITE_MISUSE))) w := by
      rw [← conn_handle] at hheld
      constructor <;> simp [callHookChecked, World.calledForCode, hheld, Cxx.checkOk_run,
        show SQLITE_MISUSE ≠ SQLITE_OK by decide]
    rw [hmisuse.bind_error.final]
    exact hw
  · obtain ⟨hok, slot, hslot, hs⟩ := hf i w.sqlite
    have hcall : Prog.Through (fun _ => True) (callHookChecked this f) w (.ok ())
        (w.called this g) := Connection.callHookChecked_through hheld hok trivial
    have hreset : Prog.Through (fun _ => True) (Connection.resetCallback this kind)
        (w.called this g) (.ok ()) ((w.called this g).reset this kind) :=
      Connection.resetCallback_through (fun _ => trivial) trivial
    have hsilent : ∀ hook, slot ≠ .user hook := by
      intro hook heq
      rcases hslot with rfl | rfl <;> cases heq
    have hcalled : ∀ j, w.held this = some j →
        SlotBecomes shared j kind slot w.sqlite (g j w.sqlite) := by
      intro j hj
      obtain rfl := Option.some.inj (hheld.symm.trans hj)
      exact hs
    rw [(hcall.bind hreset).final]
    exact hw.silenced hcalled hsilent

end Slots

/-! ## Operations on the objects themselves -/

def World.hooksAndCount (w : World S F) : S × Nat := (w.sqlite, w.objects.next)

namespace Connection

private theorem sqlite3Close_keeps (handle : Option Nat) (rv : Int) :
    Prog.Keeps World.hooksAndCount (sqlite3Close handle rv : Cxx (World S F) Int) := by
  apply Prog.Keeps.effect
  intro w
  cases handle with
  | none => rfl
  | some h => by_cases hrv : rv = SQLITE_OK <;> simp [World.hooksAndCount, hrv]

private theorem close_keeps (this : Nat) :
    Prog.Keeps World.hooksAndCount (close this : Cxx (World S F) Unit) := by
  apply (Prog.Keeps.reading _).bind
  intro handle
  apply (sqlite3Close_keeps handle SQLITE_OK).bind
  intro _ w
  rfl

private theorem closeSync_keeps (this : Nat) (answer : Int) :
    Prog.Keeps World.hooksAndCount (closeSync this answer : Cxx (World S F) Unit) := by
  apply (Prog.Keeps.reading _).bind
  intro handle
  apply (sqlite3Close_keeps handle answer).bind
  intro rv
  by_cases hrv : rv ≠ SQLITE_OK
  · rw [if_pos hrv]
    exact Prog.Keeps.raise _
  · rw [if_neg hrv]
    exact fun w => rfl

private theorem closingIfOpen_keeps (this : Nat) (handle : Option Nat) {rest : Cxx (World S F) Unit}
    (hrest : Prog.Keeps World.hooksAndCount rest) :
    Prog.Keeps World.hooksAndCount (if handle.isSome then do close this; rest else rest) := by
  by_cases hsome : handle.isSome
  · rw [if_pos hsome]
    exact (close_keeps this).bind fun _ => hrest
  · rw [if_neg hsome]
    exact hrest

private theorem openDb_keeps (this : Nat) (answer : OpenAnswer) :
    Prog.Keeps World.hooksAndCount (openDb this answer : Cxx (World S F) Unit) := by
  apply Prog.Keeps.bind
  · apply Prog.Keeps.effect
    intro w
    cases answer with
    | ok => rfl
    | failed rv withHandle => cases withHandle <;> rfl
  · intro rv
    by_cases hrv : rv ≠ SQLITE_OK
    · rw [if_pos hrv]
      apply (Prog.Keeps.reading _).bind
      intro handle
      exact closingIfOpen_keeps this handle (Prog.Keeps.raise _)
    · rw [if_neg hrv]
      exact Prog.Keeps.pure ()

private theorem destroyCallbacks_keeps (callbacks : Option CallbackTable) :
    Prog.Keeps World.hooksAndCount (destroyCallbacks callbacks : Cxx (World S F) Unit) := by
  intro w
  simp [World.hooksAndCount, destroyCallbacks]

private theorem moveAssign_keeps (this other : Nat) :
    Prog.Keeps World.hooksAndCount (moveAssign this other : Cxx (World S F) Unit) := by
  apply Prog.Keeps.bind (fun w => rfl)
  intro _
  by_cases hself : this = other
  · rw [if_pos hself]
    exact Prog.Keeps.pure ()
  · rw [if_neg hself]
    apply (Prog.Keeps.reading _).bind
    intro old
    apply Prog.Keeps.bind (fun w => rfl)
    intro _
    exact destroyCallbacks_keeps old

private theorem destroy_keeps (this : Nat) :
    Prog.Keeps World.hooksAndCount (destroy this : Cxx (World S F) Unit) := by
  apply (Prog.Keeps.reading _).bind
  intro handle
  apply closingIfOpen_keeps this handle
  apply (Prog.Keeps.reading _).bind
  intro callbacks
  apply (destroyCallbacks_keeps callbacks).bind
  intro _ w
  rfl

end Connection

open Connection in
private theorem HandleEvent.op_keeps (e : HandleEvent) :
    Prog.Keeps World.hooksAndCount (e.op : Cxx (World S F) Unit) := by
  cases e with
  | construct this => exact fun w => rfl
  | openDb this answer => exact openDb_keeps this answer
  | close this => exact close_keeps this
  | closeSync this answer => exact closeSync_keeps this answer
  | moveConstruct this other => exact fun w => rfl
  | moveAssign this other => exact moveAssign_keeps this other
  | destroy this => exact destroy_keeps this

section Slots

variable [HookApi S] {shared : Bool} {w v : World S F}

private theorem NamesMade.of_hooksAndCount (hw : NamesMade w)
    (h : v.hooksAndCount = w.hooksAndCount) :
    NamesMade v := by
  obtain ⟨hsqlite, hnext⟩ := Prod.mk.inj h
  intro i kind hook hslot
  rw [hsqlite] at hslot
  rw [hnext]
  exact hw i kind hook hslot

private theorem exec_namesMade (laws : HookLaws shared S) (w : World S F) (e : ConnectionEvent F)
    (hw : NamesMade w) : NamesMade (e.exec w) := by
  rw [ConnectionEvent.exec]
  split
  · cases e with
    | handle e => exact hw.of_hooksAndCount (e.op_keeps w)
    | set this kind vinst fn faults =>
      cases fn with
      | some f => exact hw.set laws this kind vinst f faults
      | none =>
        rw [ConnectionEvent.op, setterOf_none]
        exact hw.clear laws this kind
    | clear this kind => exact hw.clear laws this kind
    | busyTimeout this ms => exact hw.checked (laws.busyTimeout ms)
    | walAutocheckpoint this frames => exact hw.checked (laws.walAutocheckpoint frames)
  · exact hw

private theorem namesMade_run (laws : HookLaws shared S) {sqlite : S}
    (hfresh : NoUserHooks sqlite) (es : List (ConnectionEvent F)) :
    NamesMade (run ConnectionEvent.exec (World.noConnections sqlite : World S F) es) :=
  (always_of_preserved (exec_namesMade laws) (namesMade_noConnections hfresh) es).last

/-! ## One call of a setter -/

section Setter

variable {this h : Nat} {kind : HookKind} {vinst : Int32} {f : F} {faults : Faults}

private theorem untouched_self (w : World S F) :
    Untouched w w := ⟨fun _ _ => rfl, rfl, fun _ _ _ _ => rfl⟩

private theorem setter_no_table (kind : HookKind) (vinst : Int32) (f : F)
    (hobject : faults.object = none)
    (htable : faults.table = true) (hnone : (w.conn this).callbacks = none) :
    ∃ v, Prog.Ends (setterOf this kind vinst (some f) faults) w (.error (.exception .badAlloc)) v ∧
      v.sqlite = (w.called this
        (registerOf vinst kind (some ⟨trampolineOf kind, w.objects.next⟩))).sqlite ∧
      v.callback = w.callback ∧
      v.objects = (w.objects.alloc (objectOf this f kind)).free w.objects.next := by
  rw [setterOf_some]
  exact ⟨_, Connection.setHandler_no_table hobject htable hnone, rfl, rfl, rfl⟩

private theorem not_atomic_of_registersInVain (laws : HookLaws shared S) (hw : NamesMade w)
    (hheld : w.held this = some h) (hvain : RegistersInVain w this h kind vinst faults) :
    ¬ SetsAtomically w this kind vinst f faults := by
  obtain ⟨hobject, htable, hnone, hchanges⟩ := hvain
  intro hatomic
  obtain ⟨v, hends, hsqlite, -⟩ := setter_no_table kind vinst f hobject htable hnone
  have hslots := (hatomic .badAlloc hends.outcome).slots h kind
  rw [hends.final, hsqlite, sqlite_called hheld,
    (registerOf_some laws vinst kind w.objects.next h w.sqlite).here] at hslots
  by_cases hactive : Active kind vinst
  · -- the slot names the object that was just made, which no slot did before
    rw [slotAfterSet_of_active hactive] at hslots
    exact Nat.lt_irrefl _ (hw h kind _ hslots.symm)
  · rw [slotAfterSet, if_neg hactive] at hslots
    exact hchanges.resolve_left hactive hslots.symm

private theorem atomic_of_not_registersInVain (laws : HookLaws shared S) (hw : NamesMade w)
    (hheld : w.held this = some h) (hno : ¬ RegistersInVain w this h kind vinst faults) :
    SetsAtomically w this kind vinst f faults := by
  intro e hthrows
  rcases hobject : faults.object with _ | e'
  · by_cases htable : (w.conn this).callbacks.isSome ∨ faults.table = false
    · have hthrough : Prog.Through (fun _ => True) (Connection.setHandler this kind
          (registerOf vinst kind) (trampolineOf kind) (objectOf this f kind) faults) w (.ok ())
          (w.afterSet this kind (registerOf vinst kind) (trampolineOf kind)
            (objectOf this f kind)) :=
        Connection.setHandler_through hobject htable trivial trivial trivial trivial trivial
      rw [setterOf_some, hthrough.outcome] at hthrows
      cases hthrows
    · simp only [not_or, Option.not_isSome_iff_eq_none, Bool.not_eq_false] at htable
      obtain ⟨hnone, htable⟩ := htable
      obtain ⟨hactive, hslot⟩ : ¬ Active kind vinst ∧ HookApi.slot w.sqlite h kind = .empty := by
        simpa [RegistersInVain, hobject, htable, hnone] using hno
      obtain ⟨v, hends, hsqlite, hentries, hobjects⟩ :=
        setter_no_table kind vinst f hobject htable hnone
      have hs := registerOf_some laws vinst kind w.objects.next h w.sqlite
      rw [slotAfterSet, if_neg hactive] at hs
      have hslots : ∀ i other, HookApi.slot v.sqlite i other = HookApi.slot w.sqlite i other := by
        intro i other
        rw [hsqlite, sqlite_called hheld]
        by_cases hsame : (i, other) = (h, kind)
        · obtain ⟨rfl, rfl⟩ := Prod.mk.inj hsame
          exact hs.here.trans hslot.symm
        · apply hs.elsewhere
          rintro ⟨rfl, rfl | hcancels⟩
          · exact hsame rfl
          · obtain rfl := kind_of_not_active hactive
            cases hcancels
      rw [hends.final]
      refine ⟨hslots, hentries, ?_⟩
      intro i other hook huser
      rw [hslots] at huser
      have hne : hook.data ≠ w.objects.next := Nat.ne_of_lt (hw i other hook huser)
      simp [hobjects, Heap.free, Heap.alloc, hne]
  · rw [setterOf_some, (Connection.setHandler_no_object hobject).final]
    exact untouched_self w

end Setter

/-- In every state that any operations on any connections lead to: a setter that throws has changed
no slot and no table, unless the callback table is what cannot be allocated and the registration
that precedes it has changed the slot. -/
theorem setHandler_atomic_iff (laws : HookLaws shared S) {sqlite : S}
    (hfresh : NoUserHooks sqlite) (es : List (ConnectionEvent F))
    {this h : Nat} (kind : HookKind) (vinst : Int32) (f : F) (faults : Faults) :
    let w := run ConnectionEvent.exec (World.noConnections sqlite) es
    w.held this = some h →
      (SetsAtomically w this kind vinst f faults ↔
        ¬ RegistersInVain w this h kind vinst faults) := by
  intro w hheld
  have hw : NamesMade w := namesMade_run laws hfresh es
  constructor
  · intro hatomic hvain
    exact not_atomic_of_registersInVain laws hw hheld hvain hatomic
  · exact atomic_of_not_registersInVain laws hw hheld

end Slots

/-- A second handler is set on a connection that has a table already. -/
theorem setHandler_atomic_iff_second :
    let w : World (SlotTable true) Nat :=
      run ConnectionEvent.exec (World.noConnections SlotTable.fresh)
      [.handle (.construct 0), .handle (.openDb 0 .ok), .set 0 .commit 0 (some 1) .none]
    SetsAtomically w 0 .busy 0 2 ⟨none, true⟩ ↔ ¬ RegistersInVain w 0 0 .busy 0 ⟨none, true⟩ :=
  setHandler_atomic_iff SlotTable.hookLaws SlotTable.noUserHooks _ .busy 0 2 ⟨none, true⟩ rfl

/-- The first handler of a connection, and no memory for the table: the commit hook is registered
with the object that the unwinding deletes. -/
theorem setHandler_leaves_deleted_object :
    let w : World (SlotTable true) Nat :=
      run ConnectionEvent.exec (World.noConnections SlotTable.fresh)
      [.handle (.construct 0), .handle (.openDb 0 .ok)]
    let r := setterOf 0 .commit 0 (some 1) ⟨none, true⟩ w
    r.outcome = .error (.exception .badAlloc) ∧
      HookApi.slot r.final.sqlite 0 .commit = .user ⟨.sqxxCallCommitHandler, 0⟩ ∧
      r.final.objects.frees 0 = 1 ∧ ¬ SetsAtomically w 0 .commit 0 1 ⟨none, true⟩ := by
  intro w r
  have hthrows : r.outcome = .error (.exception .badAlloc) := rfl
  have hslot : HookApi.slot r.final.sqlite 0 .commit = .user ⟨.sqxxCallCommitHandler, 0⟩ := rfl
  refine ⟨hthrows, hslot, rfl, fun hatomic => ?_⟩
  have hsame := (hatomic .badAlloc hthrows).slots 0 .commit
  cases hslot.symm.trans hsame

end Sqxx
