import Sqxx.Error

/-!
# Hook slots

For every connection handle the library has one slot for each kind of hook, with a function and the
pointer it is called with.
-/

namespace Sqxx

inductive HookKind
  | commit
  | rollback
  | update
  | trace
  | profile
  | authorize
  | busy
  | progress
  | wal
  | collation
  deriving DecidableEq, Repr

/-- The C functions of the wrapper that the library calls for a hook. -/
inductive Trampoline
  | sqxxCallCommitHandler
  | sqxxCallRollbackHandler
  | sqxxCallUpdateHandler
  | sqxxCallTraceHandler
  | sqxxCallProfileHandler
  | sqxxCallAuthorizeHandler
  | sqxxCallBusyHandler
  | sqxxCallProgressHandler
  | sqxxCallWalHandler
  | sqxxCallCollationHandler
  deriving DecidableEq, Repr

structure Hook where
  fn : Trampoline
  data : Nat
  deriving DecidableEq, Repr

/-- `builtin` is a function of the library's own. -/
inductive Slot
  | empty
  | user (hook : Hook)
  | builtin
  deriving DecidableEq, Repr

def Slot.ofHook : Option Hook → Slot
  | some hook => .user hook
  | none => .empty

/-- The registration functions of the library; a missing hook stands for null arguments. `slot`
tells what is registered. -/
class HookApi (S : Type) where
  slot : S → Nat → HookKind → Slot
  commitHook : Option Hook → Nat → S → S
  rollbackHook : Option Hook → Nat → S → S
  updateHook : Option Hook → Nat → S → S
  trace : Option Hook → Nat → S → S
  profile : Option Hook → Nat → S → S
  setAuthorizer : Option Hook → Nat → S → S
  busyHandler : Option Hook → Nat → S → S
  progressHandler : Int32 → Option Hook → Nat → S → S
  walHook : Option Hook → Nat → S → S
  collationNeeded : Option Hook → Nat → S → S
  busyTimeout : Int32 → Nat → S → Int × S
  walAutocheckpoint : Int32 → Nat → S → Int × S

/-- In a library where trace and profile hooks are `shared`, a call for one of the two kinds removes
the hook of the other. -/
def HookKind.cancels (shared : Bool) : HookKind → HookKind → Bool
  | .trace, .profile => shared
  | .profile, .trace => shared
  | _, _ => false

@[simp] theorem HookKind.cancels_false (kind other : HookKind) :
    kind.cancels false other = false := by
  cases kind <;> cases other <;> rfl

@[simp] theorem HookKind.cancels_self (shared : Bool) (kind : HookKind) :
    kind.cancels shared kind = false := by
  cases kind <;> rfl

structure SlotBecomes {S : Type} [HookApi S] (shared : Bool) (h : Nat) (kind : HookKind)
    (slot : Slot) (s s' : S) : Prop where
  here : HookApi.slot s' h kind = slot
  cancelled : ∀ other, kind.cancels shared other = true → HookApi.slot s' h other = .empty
  elsewhere : ∀ h' other, ¬ (h' = h ∧ (other = kind ∨ kind.cancels shared other = true)) →
    HookApi.slot s' h' other = HookApi.slot s h' other

namespace SlotBecomes

variable {S : Type} [HookApi S] {shared : Bool} {h : Nat} {kind : HookKind} {slot : Slot} {s s' : S}

theorem other (hs : SlotBecomes shared h kind slot s s') {other : HookKind} (hne : other ≠ kind)
    (hkept : kind.cancels shared other = false) :
    HookApi.slot s' h other = HookApi.slot s h other := by
  apply hs.elsewhere
  rintro ⟨-, heq | hcancels⟩
  · exact hne heq
  · rw [hkept] at hcancels
    cases hcancels

/-- A user's hook in another slot was there before. -/
theorem user (hs : SlotBecomes shared h kind slot s s') {h' : Nat} {other : HookKind}
    {hook : Hook} (hne : (h', other) ≠ (h, kind)) (huser : HookApi.slot s' h' other = .user hook) :
    HookApi.slot s h' other = .user hook := by
  rw [← hs.elsewhere h' other, huser]
  rintro ⟨rfl, rfl | hcancels⟩
  · exact hne rfl
  · cases (hs.cancelled other hcancels).symm.trans huser

end SlotBecomes

/-- `f` puts the hook it is given into the slot of `kind`. -/
def Registers {S : Type} [HookApi S] (shared : Bool) (kind : HookKind)
    (f : Option Hook → Nat → S → S) : Prop :=
  ∀ hook h s, SlotBecomes shared h kind (Slot.ofHook hook) s (f hook h s)

/-- A progress handler with fewer than one instruction between calls is none; the two convenience
functions replace the hook by one of the library's or by none. -/
structure HookLaws (shared : Bool) (S : Type) [HookApi S] : Prop where
  commitHook : Registers (S := S) shared .commit HookApi.commitHook
  rollbackHook : Registers (S := S) shared .rollback HookApi.rollbackHook
  updateHook : Registers (S := S) shared .update HookApi.updateHook
  trace : Registers (S := S) shared .trace HookApi.trace
  profile : Registers (S := S) shared .profile HookApi.profile
  setAuthorizer : Registers (S := S) shared .authorize HookApi.setAuthorizer
  busyHandler : Registers (S := S) shared .busy HookApi.busyHandler
  progressHandler : ∀ (n : Int32) hook h (s : S),
    SlotBecomes shared h .progress (if 1 ≤ n then Slot.ofHook hook else .empty) s
      (HookApi.progressHandler n hook h s)
  walHook : Registers (S := S) shared .wal HookApi.walHook
  collationNeeded : Registers (S := S) shared .collation HookApi.collationNeeded
  busyTimeout : ∀ (ms : Int32) h (s : S), (HookApi.busyTimeout ms h s).1 = SQLITE_OK ∧
    ∃ slot, (slot = .empty ∨ slot = .builtin) ∧
      SlotBecomes shared h .busy slot s (HookApi.busyTimeout ms h s).2
  walAutocheckpoint : ∀ (frames : Int32) h (s : S),
    (HookApi.walAutocheckpoint frames h s).1 = SQLITE_OK ∧
    ∃ slot, (slot = .empty ∨ slot = .builtin) ∧
      SlotBecomes shared h .wal slot s (HookApi.walAutocheckpoint frames h s).2

/-- No slot has a hook of the user's; a new handle has one of the library's own for the log. -/
def NoUserHooks {S : Type} [HookApi S] (s : S) : Prop :=
  ∀ h kind hook, HookApi.slot s h kind ≠ .user hook

/-- A library that is nothing but its slots. -/
structure SlotTable (shared : Bool) where
  slot : Nat → HookKind → Slot

namespace SlotTable

variable {shared : Bool}

def fresh : SlotTable shared := ⟨fun _ kind => if kind = .wal then .builtin else .empty⟩

def put (h : Nat) (kind : HookKind) (slot : Slot) (s : SlotTable shared) : SlotTable shared :=
  ⟨fun h' other =>
    if h' = h ∧ other = kind then slot
    else if h' = h ∧ kind.cancels shared other = true then .empty
    else s.slot h' other⟩

instance : HookApi (SlotTable shared) where
  slot s := s.slot
  commitHook hook h := put h .commit (Slot.ofHook hook)
  rollbackHook hook h := put h .rollback (Slot.ofHook hook)
  updateHook hook h := put h .update (Slot.ofHook hook)
  trace hook h := put h .trace (Slot.ofHook hook)
  profile hook h := put h .profile (Slot.ofHook hook)
  setAuthorizer hook h := put h .authorize (Slot.ofHook hook)
  busyHandler hook h := put h .busy (Slot.ofHook hook)
  progressHandler n hook h := put h .progress (if 1 ≤ n then Slot.ofHook hook else .empty)
  walHook hook h := put h .wal (Slot.ofHook hook)
  collationNeeded hook h := put h .collation (Slot.ofHook hook)
  busyTimeout ms h s := (SQLITE_OK, put h .busy (if 0 < ms then .builtin else .empty) s)
  walAutocheckpoint frames h s :=
    (SQLITE_OK, put h .wal (if 0 < frames then .builtin else .empty) s)

theorem noUserHooks : NoUserHooks (fresh : SlotTable shared) := by
  intro h kind hook hslot
  change (if kind = .wal then Slot.builtin else .empty) = _ at hslot
  split at hslot <;> cases hslot

private theorem put_slotBecomes (h : Nat) (kind : HookKind) (slot : Slot) (s : SlotTable shared) :
    SlotBecomes shared h kind slot s (put h kind slot s) where
  here := if_pos ⟨rfl, rfl⟩
  cancelled other hcancels := by
    have hne : other ≠ kind := by
      rintro rfl
      rw [HookKind.cancels_self] at hcancels
      cases hcancels
    exact (if_neg fun heq => hne heq.2).trans (if_pos ⟨rfl, hcancels⟩)
  elsewhere h' other hne :=
    (if_neg fun heq => hne ⟨heq.1, Or.inl heq.2⟩).trans
      (if_neg fun heq => hne ⟨heq.1, Or.inr heq.2⟩)

theorem hookLaws : HookLaws shared (SlotTable shared) where
  commitHook _ _ _ := put_slotBecomes _ _ _ _
  rollbackHook _ _ _ := put_slotBecomes _ _ _ _
  updateHook _ _ _ := put_slotBecomes _ _ _ _
  trace _ _ _ := put_slotBecomes _ _ _ _
  profile _ _ _ := put_slotBecomes _ _ _ _
  setAuthorizer _ _ _ := put_slotBecomes _ _ _ _
  busyHandler _ _ _ := put_slotBecomes _ _ _ _
  progressHandler _ _ _ _ := put_slotBecomes _ _ _ _
  walHook _ _ _ := put_slotBecomes _ _ _ _
  collationNeeded _ _ _ := put_slotBecomes _ _ _ _
  busyTimeout ms _ _ := by
    refine ⟨rfl, _, ?_, put_slotBecomes _ _ _ _⟩
    by_cases h : 0 < ms <;> simp [h]
  walAutocheckpoint frames _ _ := by
    refine ⟨rfl, _, ?_, put_slotBecomes _ _ _ _⟩
    by_cases h : 0 < frames <;> simp [h]

end SlotTable

end Sqxx
