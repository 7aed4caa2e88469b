import Sqxx.Connection.Handlers
import Sqxx.Framework.Runs

/-!
# The registered handlers

On one open connection the slot of every kind follows the last operation on the kind, and the
object a slot names is the one the table owns.
-/

namespace Sqxx
open Framework

inductive HandlerEvent (F : Type)
  | set (kind : HookKind) (vinst : Int32) (fn : Option F)
  | clear (kind : HookKind)
  | busyTimeout (ms : Int32)
  | walAutocheckpoint (frames : Int32)
  deriving DecidableEq, Repr

variable {S F : Type}

namespace HandlerEvent

def kind : HandlerEvent F → HookKind
  | .set kind _ _ => kind
  | .clear kind => kind
  | .busyTimeout _ => .busy
  | .walAutocheckpoint _ => .wal

def op [HookApi S] (this : Nat) : HandlerEvent F → Cxx (World S F) Unit
  | .set kind vinst fn => setterOf this kind vinst fn .none
  | .clear kind => clearerOf this kind
  | .busyTimeout ms => Connection.busyTimeout this ms
  | .walAutocheckpoint frames => Connection.walAutocheckpoint this frames

def exec [HookApi S] (this : Nat) (w : World S F) (e : HandlerEvent F) : World S F :=
  (op this e w).final

/-- The function that is called for the kind afterwards, if any. -/
def leaves : HandlerEvent F → Option F
  | .set kind vinst fn => if Active kind vinst then fn else none
  | _ => none

/-- `left` is left for `kind`, and nothing for the kind that it cancels. -/
def leaving (shared : Bool) (last : HookKind → Option F) (kind : HookKind) (left : Option F) :
    HookKind → Option F :=
  Function.update (fun other => if kind.cancels shared other then none else last other) kind left

theorem leaving_some {shared : Bool} {last : HookKind → Option F} {kind other : HookKind}
    {left : Option F} {f : F} (h : leaving shared last kind left other = some f) :
    other = kind ∧ left = some f ∨ last other = some f := by
  by_cases hother : other = kind
  · subst hother
    rw [leaving, Function.update_self] at h
    exact Or.inl ⟨rfl, h⟩
  · rw [leaving, Function.update_of_ne hother] at h
    split at h
    · cases h
    · exact Or.inr h

def note (shared : Bool) (last : HookKind → Option F) (e : HandlerEvent F) :
    HookKind → Option F :=
  leaving shared last e.kind e.leaves

/-- The function that the operations have left for each kind. -/
def lastSet (shared : Bool) (es : List (HandlerEvent F)) : HookKind → Option F :=
  run (note shared) (fun _ => none) es

/-- Where no kind cancels another, this is what the last operation on the kind has left. -/
theorem note_independent (last : HookKind → Option F) (e : HandlerEvent F) :
    note false last e = Function.update last e.kind e.leaves := by
  simp [note, leaving]

end HandlerEvent

section Slots

variable [HookApi S] {shared : Bool}

/-- Each slot calls the last function set for its kind, through the object that the table owns, or
it calls nothing of the user's. -/
structure LastWriterWins (this h : Nat) (last : HookKind → Option F) (w : World S F) : Prop where
  calls : ∀ kind f, last kind = some f → ∃ cb,
    HookApi.slot w.sqlite h kind = .user ⟨trampolineOf kind, cb⟩ ∧
      w.callback this kind = some cb ∧ w.objects.cell cb = some (objectOf this f kind)
  silent : ∀ kind, last kind = none → ∀ hook, HookApi.slot w.sqlite h kind ≠ .user hook

/-- No slot of the handle names a deleted object, and the other kinds are as in `w`, but for the
slot of one that is cancelled. -/
structure Undisturbed (shared : Bool) (this h : Nat) (kind : HookKind) (w v : World S F) :
    Prop where
  live : HooksLive (· = h) v.sqlite v.objects
  slots : ∀ other, other ≠ kind → kind.cancels shared other = false →
    HookApi.slot v.sqlite h other = HookApi.slot w.sqlite h other
  entries : ∀ other, other ≠ kind → v.callback this other = w.callback this other

theorem Undisturbed.of_slotBecomes {this h : Nat} {kind : HookKind} {slot : Slot} {w v : World S F}
    (hs : SlotBecomes shared h kind slot w.sqlite v.sqlite)
    (hlive : HooksLive (· = h) v.sqlite v.objects)
    (hentries : ∀ other, other ≠ kind → v.callback this other = w.callback this other) :
    Undisturbed shared this h kind w v where
  live := hlive
  slots _ hne hkept := hs.other hne hkept
  entries := hentries

/-- The invariant: what the table owns is alive, each object owned once. -/
structure Registered (this h : Nat) (last : HookKind → Option F) (w : World S F) : Prop
    extends LastWriterWins this h last w where
  handle : w.held this = some h
  owned : w.objects.Held (w.callback this)

namespace Registered

variable {this h : Nat} {last : HookKind → Option F} {w : World S F}

theorem init {sqlite : S} (hfresh : NoUserHooks sqlite) (this : Nat) :
    ∃ h, Registered this h (fun _ => none) (World.opened sqlite this : World S F) := by
  refine ⟨0, ⟨?_, ?_⟩, ?_, ?_⟩
  · intro kind f hf
    cases hf
  · intro kind _ hook hslot
    exact (hfresh 0 kind hook hslot).elim
  · rw [World.opened, Connection.openDb_final]
    rw [held_setHandle]
    exact Function.update_self _ _ _
  · rw [World.opened, Connection.openDb_final, callback_setHandle]
    apply Heap.Held.init
    intro kind
    simp [World.callback, World.conn, World.oneConnection, Connection.construct, World.setConn]

theorem entry (hw : Registered this h last w) {kind : HookKind} {hook : Hook}
    (hslot : HookApi.slot w.sqlite h kind = .user hook) :
    w.callback this kind = some hook.data := by
  rcases hlast : last kind with _ | f
  · exact (hw.silent kind hlast hook hslot).elim
  · obtain ⟨cb, hcb, hentry, -⟩ := hw.calls kind f hlast
    rw [hcb] at hslot
    cases hslot
    exact hentry

theorem hooksLive (hw : Registered this h last w) : HooksLive (· = h) w.sqlite w.objects := by
  intro h' kind hook hused hslot
  subst hused
  exact hw.owned.live kind hook.data (hw.entry hslot)

private theorem other_notMem (hw : Registered this h last w) {kind other : HookKind}
    (hne : other ≠ kind)
    {cb : Nat} (hcb : w.callback this other = some cb) : cb ∉ (w.callback this kind).toList :=
  fun hmem => hne (hw.owned.inj other kind cb hcb (Option.mem_toList.mp hmem))

private theorem hooksLive_freeAll (hw : Registered this h last w) {kind : HookKind} {slot : Slot}
    {s' : S} {objects : Heap (HandlerObject F)} (hs : SlotBecomes shared h kind slot w.sqlite s')
    (hslot : ∀ hook, slot = .user hook → hook.data ∉ (w.callback this kind).toList)
    (hlive : HooksLive (· = h) s' objects) :
    HooksLive (· = h) s' (objects.freeAll (w.callback this kind).toList) := by
  apply hlive.freeAll
  intro h' other hook hused huser
  subst hused
  by_cases hne : other = kind
  · subst hne
    exact hslot hook (hs.here.symm.trans huser)
  · have hbefore := hs.user (fun heq => hne (Prod.mk.inj heq).2) huser
    exact hw.other_notMem hne (hw.entry hbefore)

theorem next (hw : Registered this h last w) {kind : HookKind} {slot : Slot} {entry : Option Nat}
    {left : Option F} {v : World S F} (hs : SlotBecomes shared h kind slot w.sqlite v.sqlite)
    (hentry : v.callback this = Function.update (w.callback this) kind entry)
    (hheld : v.held = w.held) (howned : v.objects.Held (v.callback this))
    (hcells : ∀ other cb, other ≠ kind → w.callback this other = some cb →
      v.objects.cell cb = w.objects.cell cb)
    (hcalls : ∀ f, left = some f → ∃ cb, slot = .user ⟨trampolineOf kind, cb⟩ ∧
      entry = some cb ∧ v.objects.cell cb = some (objectOf this f kind))
    (hsilent : left = none → ∀ hook, slot ≠ .user hook) :
    Registered this h (HandlerEvent.leaving shared last kind left) v := by
  refine ⟨⟨?_, ?_⟩, ?_, howned⟩
  · intro other f hf
    by_cases hne : other = kind
    · subst hne
      rw [HandlerEvent.leaving, Function.update_self] at hf
      obtain ⟨cb, hcb, hown, hcell⟩ := hcalls f hf
      refine ⟨cb, hs.here.trans hcb, ?_, hcell⟩
      rw [hentry, Function.update_self, hown]
    · rw [HandlerEvent.leaving, Function.update_of_ne hne] at hf
      split at hf
      · cases hf
      · case isFalse hkept =>
        obtain ⟨cb, hcb, hown, hcell⟩ := hw.calls other f hf
        have hsame := hs.other hne (Bool.not_eq_true _ ▸ hkept)
        refine ⟨cb, hsame.trans hcb, ?_, (hcells other cb hne hown).trans hcell⟩
        rw [hentry, Function.update_of_ne hne, hown]
  · intro other hnone hook huser
    by_cases hne : other = kind
    · subst hne
      rw [HandlerEvent.leaving, Function.update_self] at hnone
      exact hsilent hnone hook (hs.here.symm.trans huser)
    · rw [HandlerEvent.leaving, Function.update_of_ne hne] at hnone
      have hbefore := hs.user (fun heq => hne (Prod.mk.inj heq).2) huser
      split at hnone
      · case isTrue hcancels => cases (hs.cancelled other hcancels).symm.trans huser
      · exact hw.silent other hnone hook hbefore
  · rw [hheld]
    exact hw.handle

section Silence

variable (hw : Registered this h last w) {kind : HookKind} {slot : Slot} {f : Nat → S → S}
  (hslot : ∀ hook, slot ≠ .user hook) (hs : SlotBecomes shared h kind slot w.sqlite (f h w.sqlite))

include hw hs in
private theorem slotBecomes_called :
    SlotBecomes shared h kind slot w.sqlite (w.called this f).sqlite := by
  rw [sqlite_called hw.handle]
  exact hs

include hw hslot hs in
private theorem hooksLive_called : HooksLive (· = h) (w.called this f).sqlite w.objects := by
  apply hw.hooksLive.slotBecomes (hw.slotBecomes_called hs)
  intro hook heq
  exact (hslot hook heq).elim

include hw hslot hs in
private theorem called_undisturbed : Undisturbed shared this h kind w (w.called this f) :=
  .of_slotBecomes (hw.slotBecomes_called hs) (hw.hooksLive_called hslot hs) fun _ _ => rfl

include hw hslot hs in
private theorem reset_undisturbed :
    Undisturbed shared this h kind w ((w.called this f).reset this kind) := by
  have hcalled := hw.slotBecomes_called hs
  have hlive := hw.hooksLive_called hslot hs
  have hreset := sqlite_reset (w.called this f) this kind
  apply Undisturbed.of_slotBecomes (hreset ▸ hcalled)
  · rw [hreset, objects_reset]
    exact hw.hooksLive_freeAll hcalled (fun hook heq => (hslot hook heq).elim) hlive
  · intro other hne
    rw [callback_reset, Function.update_of_ne hne]
    rfl

include hw hslot hs in
private theorem reset_registered :
    Registered this h (HandlerEvent.leaving shared last kind none)
      ((w.called this f).reset this kind) := by
  have hcalled := hw.slotBecomes_called hs
  rw [← sqlite_reset (w.called this f) this kind] at hcalled
  apply hw.next hcalled (callback_reset _ this kind) (sameHandles_reset _ this kind).held
  · rw [objects_reset, callback_reset]
    exact hw.owned.release kind
  · intro other cb hne hcb
    rw [objects_reset]
    exact Heap.freeAll_cell_of_notMem _ (hw.other_notMem hne hcb)
  · intro g hg
    cases hg
  · intro _
    exact hslot

include hw hslot hs in
private theorem resetCallback_undisturbed :
    Prog.Through (Undisturbed shared this h kind w) (Connection.resetCallback this kind)
      (w.called this f) (.ok ()) ((w.called this f).reset this kind) := by
  apply Connection.resetCallback_through
  · intro hsome
    apply Undisturbed.of_slotBecomes (v := (w.called this f).setCallback this kind none)
      (hw.slotBecomes_called hs) (hw.hooksLive_called hslot hs)
    intro other hne
    rw [callback_setCallback hsome, Function.update_of_ne hne]
    rfl
  · exact hw.reset_undisturbed hslot hs

end Silence

section Set

variable (laws : HookLaws shared S) (hw : Registered this h last w) (kind : HookKind)
  (vinst : Int32) (f : F)

include hw in
private theorem next_notMem : w.objects.next ∉ (w.callback this kind).toList := by
  intro hmem
  exact hw.owned.ne_next (Option.mem_toList.mp hmem) rfl

include laws hw in
private theorem slotBecomes_registered :
    SlotBecomes shared h kind (slotAfterSet kind vinst w.objects.next) w.sqlite
      (w.registered this (registerOf vinst kind) (trampolineOf kind)
        (objectOf this f kind)).sqlite := by
  have hsqlite : (w.registered this (registerOf vinst kind) (trampolineOf kind)
      (objectOf this f kind)).sqlite =
      registerOf vinst kind (some ⟨trampolineOf kind, w.objects.next⟩) h w.sqlite :=
    sqlite_called hw.handle _
  rw [hsqlite]
  exact registerOf_some laws vinst kind w.objects.next h w.sqlite

include laws hw in
private theorem hooksLive_registered :
    HooksLive (· = h)
      (w.registered this (registerOf vinst kind) (trampolineOf kind) (objectOf this f kind)).sqlite
      (w.objects.alloc (objectOf this f kind)) := by
  have halloc := hw.hooksLive.alloc (objectOf this f kind)
  apply halloc.slotBecomes (hw.slotBecomes_registered laws kind vinst f)
  intro hook heq
  rw [data_of_slotAfterSet heq]
  exact (Heap.live_alloc _ _ _).mpr (Or.inl rfl)

include laws hw in
private theorem afterSet_undisturbed :
    Undisturbed shared this h kind w
      (w.afterSet this kind (registerOf vinst kind) (trampolineOf kind)
        (objectOf this f kind)) := by
  have hs := hw.slotBecomes_registered laws kind vinst f
  have hlive := hw.hooksLive_registered laws kind vinst f
  have hsqlite := sqlite_afterSet w this kind (registerOf vinst kind) (trampolineOf kind)
    (objectOf this f kind)
  apply Undisturbed.of_slotBecomes (hsqlite ▸ hs)
  · rw [hsqlite, objects_afterSet]
    apply hw.hooksLive_freeAll hs _ hlive
    intro hook heq
    rw [data_of_slotAfterSet heq]
    exact hw.next_notMem kind
  · intro other hne
    rw [callback_afterSet, Function.update_of_ne hne]

include laws hw in
private theorem afterSet_registered :
    Registered this h
      (HandlerEvent.leaving shared last kind (if Active kind vinst then some f else none))
      (w.afterSet this kind (registerOf vinst kind) (trampolineOf kind)
        (objectOf this f kind)) := by
  have hs := hw.slotBecomes_registered laws kind vinst f
  have hsqlite := sqlite_afterSet w this kind (registerOf vinst kind) (trampolineOf kind)
    (objectOf this f kind)
  have hfresh := hw.next_notMem kind
  apply hw.next (hsqlite ▸ hs) (callback_afterSet w this kind _ _ _)
    (sameHandles_afterSet w this kind _ _ _).held
  · rw [objects_afterSet, callback_afterSet]
    exact hw.owned.replace kind (objectOf this f kind)
  · intro other cb hne hcb
    rw [objects_afterSet, Heap.freeAll_cell_of_notMem _ (hw.other_notMem hne hcb),
      Heap.alloc_cell_of_ne _ _ (hw.owned.ne_next hcb)]
  · intro g hg
    by_cases hactive : Active kind vinst
    · rw [if_pos hactive] at hg
      obtain rfl := Option.some.inj hg
      refine ⟨w.objects.next, slotAfterSet_of_active hactive _, rfl, ?_⟩
      rw [objects_afterSet, Heap.freeAll_cell_of_notMem _ hfresh, Heap.alloc_cell_self]
    · rw [if_neg hactive] at hg
      cases hg
  · intro hnone hook heq
    by_cases hactive : Active kind vinst
    · rw [if_pos hactive] at hnone
      cases hnone
    · rw [slotAfterSet, if_neg hactive] at heq
      cases heq

include laws hw in
/-- A function that is not empty is set: the new object is registered before the old one goes. -/
theorem setHandler_undisturbed :
    Prog.Through (Undisturbed shared this h kind w)
      (Connection.setHandler this kind (registerOf vinst kind) (trampolineOf kind)
        (objectOf this f kind) .none) w (.ok ())
      (w.afterSet this kind (registerOf vinst kind) (trampolineOf kind)
        (objectOf this f kind)) := by
  let registered := w.registered this (registerOf vinst kind) (trampolineOf kind)
    (objectOf this f kind)
  let ready := registered.withTable this
  have hs := hw.slotBecomes_registered laws kind vinst f
  have hlive := hw.hooksLive_registered laws kind vinst f
  have hready : ready.sqlite = registered.sqlite := sqlite_withTable registered this
  have hcallback : ready.callback this = w.callback this := callback_withTable registered this
  have hobjects : ready.objects = w.objects.alloc (objectOf this f kind) :=
    objects_withTable registered this
  have hliveReady : HooksLive (· = h) ready.sqlite ready.objects := by
    rw [hready, hobjects]
    exact hlive
  apply Connection.setHandler_through rfl (Or.inr rfl)
  · exact ⟨hw.hooksLive.alloc _, fun _ _ _ => rfl, fun _ _ => rfl⟩
  · exact .of_slotBecomes hs hlive fun _ _ => rfl
  · exact .of_slotBecomes (hready ▸ hs) hliveReady fun other _ => congrFun hcallback other
  · apply Undisturbed.of_slotBecomes (v := ready.setCallback this kind (some w.objects.next))
      (hready ▸ hs) hliveReady
    intro other hne
    rw [callback_setCallback (callbacks_withTable registered this), Function.update_of_ne hne]
    exact congrFun hcallback other
  · exact hw.afterSet_undisturbed laws kind vinst f

end Set

private theorem clearerOf_undisturbed (laws : HookLaws shared S) (hw : Registered this h last w)
    (kind : HookKind) :
    ∃ t, Prog.Through (Undisturbed shared this h kind w) (clearerOf this kind) w (.ok ()) t ∧
      Undisturbed shared this h kind w t ∧
      Registered this h (HandlerEvent.leaving shared last kind none) t := by
  have hs := registerOf_none laws kind h w.sqlite
  have hslot : ∀ hook, Slot.empty ≠ .user hook := by
    intro hook heq
    cases heq
  have hcalled := hw.called_undisturbed hslot hs
  rw [clearerOf_eq]
  exact ⟨_, (Prog.Through.perform hcalled).bind (hw.resetCallback_undisturbed hslot hs),
    hw.reset_undisturbed hslot hs, hw.reset_registered hslot hs⟩

private theorem checked_undisturbed (hw : Registered this h last w) {kind : HookKind} {slot : Slot}
    {f : Nat → S → Int × S} (hslot : slot = .empty ∨ slot = .builtin)
    (hok : (f h w.sqlite).1 = SQLITE_OK)
    (hs : SlotBecomes shared h kind slot w.sqlite (f h w.sqlite).2) :
    ∃ t, Prog.Through (Undisturbed shared this h kind w)
        (do callHookChecked this f; Connection.resetCallback this kind) w (.ok ()) t ∧
      Undisturbed shared this h kind w t ∧
      Registered this h (HandlerEvent.leaving shared last kind none) t := by
  let g : Nat → S → S := fun h s => (f h s).2
  have hg : SlotBecomes shared h kind slot w.sqlite (g h w.sqlite) := hs
  have hnot : ∀ hook, slot ≠ .user hook := by
    intro hook heq
    rcases hslot with rfl | rfl <;> cases heq
  have hcall := Connection.callHookChecked_through hw.handle hok (hw.called_undisturbed hnot hg)
  exact ⟨_, hcall.bind (hw.resetCallback_undisturbed hnot hg), hw.reset_undisturbed hnot hg,
    hw.reset_registered hnot hg⟩

/-- Every operation returns, disturbs no other kind, and leaves what it says. -/
theorem op_through (laws : HookLaws shared S) (hw : Registered this h last w) (e : HandlerEvent F) :
    ∃ t, Prog.Through (Undisturbed shared this h e.kind w) (e.op this) w (.ok ()) t ∧
      Undisturbed shared this h e.kind w t ∧ Registered this h (e.note shared last) t := by
  cases e with
  | set kind vinst fn =>
    cases fn with
    | some f =>
      rw [HandlerEvent.op, setterOf_some]
      exact ⟨_, hw.setHandler_undisturbed laws kind vinst f,
        hw.afterSet_undisturbed laws kind vinst f, hw.afterSet_registered laws kind vinst f⟩
    | none =>
      have hleaves : (HandlerEvent.set kind vinst (none : Option F)).leaves = none := ite_self none
      rw [HandlerEvent.op, setterOf_none, HandlerEvent.note, hleaves]
      exact hw.clearerOf_undisturbed laws kind
  | clear kind => exact hw.clearerOf_undisturbed laws kind
  | busyTimeout ms =>
    obtain ⟨hok, slot, hslot, hs⟩ := laws.busyTimeout ms h w.sqlite
    exact hw.checked_undisturbed hslot hok hs
  | walAutocheckpoint frames =>
    obtain ⟨hok, slot, hslot, hs⟩ := laws.walAutocheckpoint frames h w.sqlite
    exact hw.checked_undisturbed hslot hok hs

theorem run_exec (laws : HookLaws shared S) (hw : Registered this h last w)
    (es : List (HandlerEvent F)) :
    Registered this h (run (HandlerEvent.note shared) last es)
      (run (HandlerEvent.exec this) w es) := by
  induction es generalizing last w with
  | nil => exact hw
  | cons e es ih =>
    obtain ⟨t, hthrough, -, ht⟩ := hw.op_through laws e
    apply ih
    rw [HandlerEvent.exec, hthrough.final]
    exact ht

end Registered

/-- After any operations on one open connection every slot is as the last operation on its kind has
left it.  The next operation returns, and at every instant of it no slot names a deleted object and
the other kinds are as they were. -/
theorem handlers_lastWriterWins (laws : HookLaws shared S) {sqlite : S}
    (hfresh : NoUserHooks sqlite) (this : Nat) (es : List (HandlerEvent F)) :
    let w := run (HandlerEvent.exec this) (World.opened sqlite this) es
    ∃ h, w.held this = some h ∧ LastWriterWins this h (HandlerEvent.lastSet shared es) w ∧
      HooksLive (· = h) w.sqlite w.objects ∧
      ∀ e : HandlerEvent F, (e.op this w).outcome = .ok () ∧
        Undisturbed shared this h e.kind w (e.op this w).final ∧
        ∀ v ∈ (e.op this w).visited, Undisturbed shared this h e.kind w v := by
  intro w
  obtain ⟨h, hinit⟩ := Registered.init (F := F) hfresh this
  have hw : Registered this h (HandlerEvent.lastSet shared es) w := hinit.run_exec laws es
  refine ⟨h, hw.handle, hw.toLastWriterWins, hw.hooksLive, ?_⟩
  intro e
  obtain ⟨t, hthrough, hlast, -⟩ := hw.op_through laws e
  rw [← hthrough.final] at hlast
  exact ⟨hthrough.outcome, hlast, hthrough.instants⟩

end Slots

theorem handlers_lastWriterWins_replaced :
    let es : List (HandlerEvent Nat) :=
      [.set .commit 0 (some 1), .set .busy 0 (some 2), .set .commit 0 (some 3), .busyTimeout 100]
    let w : World (SlotTable false) Nat :=
      run (HandlerEvent.exec 0) (World.opened SlotTable.fresh 0) es
    ∃ h cb, w.held 0 = some h ∧
      HookApi.slot w.sqlite h .commit = .user ⟨.sqxxCallCommitHandler, cb⟩ ∧
      w.objects.cell cb = some (.function 3) ∧
      ∀ hook, HookApi.slot w.sqlite h .busy ≠ .user hook := by
  intro es w
  obtain ⟨h, hheld, hlast, -⟩ :=
    handlers_lastWriterWins SlotTable.hookLaws SlotTable.noUserHooks 0 es
  obtain ⟨cb, hslot, -, hcell⟩ := hlast.calls .commit 3 rfl
  exact ⟨h, cb, hheld, hslot, hcell, hlast.silent .busy rfl⟩

/-- A progress handler is set with no instructions between its calls: the last operation has set a
function, which the table owns, and the slot is empty. -/
theorem progressHandler_not_registered :
    let es : List (HandlerEvent Unit) := [.set .progress 0 (some ())]
    let w : World (SlotTable false) Unit :=
      run (HandlerEvent.exec 0) (World.opened SlotTable.fresh 0) es
    w.held 0 = some 0 ∧ w.callback 0 .progress = some 0 ∧
      HookApi.slot w.sqlite 0 .progress = .empty ∧
      ¬ LastWriterWins 0 0 (fun kind => if kind = .progress then some () else none) w := by
  intro es w
  have hempty : HookApi.slot w.sqlite 0 .progress = .empty := rfl
  refine ⟨rfl, rfl, hempty, fun hlast => ?_⟩
  obtain ⟨cb, hslot, -⟩ := hlast.calls .progress () rfl
  rw [hempty] at hslot
  cases hslot

end Sqxx
