import Sqxx.Connection.Handles

/-!
# No handle is lost

One connection object that is opened and closed in any order and destroyed at the end.  The library
writes a new handle through the member that holds the old one, so a handle is kept track of only
while `open` finds the member null.
-/

namespace Sqxx
open Framework

/-- The operations on the one object, with the library's answers. -/
inductive OpenCloseEvent
  | openDb (answer : OpenAnswer)
  | close
  | closeSync (answer : Int)
  deriving DecidableEq, Repr

variable {S F : Type}

namespace OpenCloseEvent

def op (this : Nat) : OpenCloseEvent → Cxx (World S F) Unit
  | .openDb answer => Connection.openDb this answer
  | .close => Connection.close this
  | .closeSync answer => Connection.closeSync this answer

def exec (this : Nat) (w : World S F) (e : OpenCloseEvent) : World S F := (e.op this w).final

/-- `open` is called only on a connection that is not open. -/
def OpensClosed (this : Nat) (w : World S F) : OpenCloseEvent → Prop
  | .openDb _ => w.held this = none
  | .close | .closeSync _ => True

/-- A throw leaves a database that was open before open, and with its owner. -/
def KeepsOnThrow (this : Nat) (w : World S F) (e : OpenCloseEvent) : Prop :=
  ∀ r, (e.op this w).outcome = .error r → ∀ h, w.held this = some h →
    w.handles.Live h → (e.exec this w).held this = some h ∧ (e.exec this w).handles.Live h

end OpenCloseEvent

/-- Every handle produced and not closed yet is the one stored in the object. -/
def HandleKept (this : Nat) (w : World S F) : Prop :=
  ∀ h, h < w.handles.next → w.handles.frees h = 0 → w.held this = some h

/-- Every handle produced has been passed to a successful closing call. -/
def AllClosed (w : World S F) : Prop := ∀ h, h < w.handles.next → 1 ≤ w.handles.frees h

/-- Only the one object exists, and the handles alive are what it holds. -/
structure HoldsAll (this : Nat) (w : World S F) : Prop where
  owned : w.handles.Owned w.held
  only : ∀ other h, w.held other = some h → other = this

theorem HoldsAll.kept {this : Nat} {w : World S F} (hw : HoldsAll this w) : HandleKept this w := by
  intro h hlt hfrees
  have hlive : w.handles.Live h := by
    by_contra hdead
    have honce := hw.owned.sound.dead h hlt hdead
    omega
  obtain ⟨other, hother⟩ := hw.owned.all h hlive
  have heq := hw.only other h hother
  rw [heq] at hother
  exact hother

private theorem holdsAll_oneConnection (sqlite : S) (this : Nat) :
    HoldsAll this (World.oneConnection sqlite this : World S F) := by
  have hnone : ∀ other, (World.oneConnection sqlite this : World S F).held other = none := by
    intro other
    rw [World.oneConnection, Connection.construct, Prog.perform_run, held_setConn]
    by_cases heq : other = this
    · rw [heq, Function.update_self]
    · rw [Function.update_of_ne heq]
      rfl
  constructor
  · exact Heap.Owned.init _ hnone
  · intro other h hother
    rw [hnone other] at hother
    cases hother

private theorem only_update {this : Nat} {w : World S F} (hw : HoldsAll this w)
    (handle : Option Nat)
    (other h : Nat) (hother : Function.update w.held this handle other = some h) :
    other = this := by
  by_cases heq : other = this
  · exact heq
  · rw [Function.update_of_ne heq] at hother
    exact hw.only other h hother

private theorem close_holdsAll {this : Nat} {w : World S F} (hw : HoldsAll this w) :
    HoldsAll this (Connection.close this w).final := by
  rw [(Connection.close_ends this w).final]
  constructor
  · rw [held_setHandle]
    exact hw.owned.release this
  · rw [held_setHandle]
    exact only_update hw none

private theorem openDb_holdsAll {this : Nat} {w : World S F} (hw : HoldsAll this w)
    (hclosed : w.held this = none) (answer : OpenAnswer) :
    HoldsAll this (Connection.openDb this answer w).final := by
  have hsame : Function.update w.held this none = w.held := by
    rw [← hclosed, Function.update_eq_self]
  rcases Connection.openDb_cases this answer w with hstored | hnull | hclosed
  · rw [hstored]
    constructor
    · rw [held_setHandle]
      exact hw.owned.take hclosed ()
    · rw [held_setHandle]
      exact only_update hw _
  · rw [hnull]
    constructor
    · change w.handles.Owned (w.setHandle this none).held
      rw [held_setHandle, hsame]
      exact hw.owned
    · rw [held_setHandle]
      exact only_update hw none
  · rw [hclosed]
    constructor
    · rw [held_setHandle]
      change ((w.handles.alloc ()).free w.handles.next).Owned (Function.update w.held this none)
      rw [hsame]
      exact hw.owned.discard ()
    · rw [held_setHandle]
      exact only_update hw none

private theorem exec_holdsAll {this : Nat} {w : World S F} (hw : HoldsAll this w)
    (e : OpenCloseEvent) (hok : e.OpensClosed this w) : HoldsAll this (e.exec this w) := by
  cases e with
  | openDb answer => exact openDb_holdsAll hw hok answer
  | close => exact close_holdsAll hw
  | closeSync answer =>
    rw [OpenCloseEvent.exec, OpenCloseEvent.op, Connection.closeSync_final]
    by_cases hclosed : answer = SQLITE_OK ∨ w.held this = none
    · rw [if_pos hclosed]
      exact close_holdsAll hw
    · rw [if_neg hclosed]
      exact hw

private theorem closeSync_throws {this : Nat} {answer : Int} {w : World S F} {r : Raised}
    (hthrow : (Connection.closeSync this answer w).outcome = .error r) :
    (Connection.closeSync this answer w).final = w := by
  rw [Connection.closeSync_final, if_neg]
  intro hclosed
  rcases h : w.held this with _ | i
  · simp [Connection.closeSync, sqlite3Close, conn_handle, h] at hthrow
  · have hok : answer = SQLITE_OK := hclosed.resolve_right (by simp [h])
    simp [Connection.closeSync, sqlite3Close, conn_handle, h, hok] at hthrow

private theorem keepsOnThrow_of_opensClosed {this : Nat} {w : World S F} (e : OpenCloseEvent)
    (hok : e.OpensClosed this w) : e.KeepsOnThrow this w := by
  intro r hthrow h hheld hlive
  cases e with
  | openDb answer =>
    have hnone : w.held this = none := hok
    rw [hnone] at hheld
    cases hheld
  | close =>
    rw [OpenCloseEvent.op, (Connection.close_ends this w).outcome] at hthrow
    cases hthrow
  | closeSync answer =>
    rw [OpenCloseEvent.exec, OpenCloseEvent.op, closeSync_throws hthrow]
    exact ⟨hheld, hlive⟩

private theorem open_again_loses {this : Nat} {w : World S F} (hw : HoldsAll this w)
    (e : OpenCloseEvent) (hno : ¬ e.OpensClosed this w) : ¬ HandleKept this (e.exec this w) := by
  intro hkept
  cases e with
  | openDb answer =>
    obtain ⟨h, hheld⟩ := Option.ne_none_iff_exists'.mp hno
    have hlive := hw.owned.live this h hheld
    have hlt := hw.owned.sound.lt_next hlive
    have hfrees := hw.owned.sound.live h hlive
    have hne : h ≠ w.handles.next := hw.owned.ne_next hheld
    have hlost := hkept h
    rw [OpenCloseEvent.exec, OpenCloseEvent.op] at hlost
    rcases Connection.openDb_cases this answer w with hfinal | hfinal | hfinal
    · rw [hfinal] at hlost
      have hstored := hlost (Nat.lt_succ_of_lt hlt) hfrees
      rw [held_setHandle, Function.update_self] at hstored
      exact hne (Option.some.inj hstored).symm
    · rw [hfinal] at hlost
      have hstored := hlost hlt hfrees
      rw [held_setHandle, Function.update_self] at hstored
      cases hstored
    · rw [hfinal] at hlost
      have hother : ((w.handles.alloc ()).free w.handles.next).frees h = 0 := by
        simpa [Heap.free, Heap.alloc, hne] using hfrees
      have hstored := hlost (Nat.lt_succ_of_lt hlt) hother
      rw [held_setHandle, Function.update_self] at hstored
      cases hstored
  | close => exact hno trivial
  | closeSync answer => exact hno trivial

private theorem destroy_allClosed {this : Nat} {w : World S F} (hw : HoldsAll this w) :
    AllClosed (Connection.destroy this w).final := by
  obtain ⟨hhandles, -⟩ := Connection.destroy_handles this w
  intro h hlt
  rw [hhandles] at hlt ⊢
  rw [Heap.freeAll_next] at hlt
  have hnodup : (w.held this).toList.Nodup := by
    cases w.held this <;> simp
  have hmem : ∀ i, i ∈ (w.held this).toList ↔ ∃ other, w.held other = some i := by
    intro i
    rw [Option.mem_toList]
    constructor
    · intro hi
      exact ⟨this, hi⟩
    · intro hi
      obtain ⟨other, hother⟩ := hi
      have heq := hw.only other i hother
      rw [heq] at hother
      exact hother
  have honce := hw.owned.freeAll_frees hnodup hmem hlt
  omega

/-- No handle is lost, a throw keeps the open database and destruction closes what is left, in
exactly the executions that never open an open connection. -/
theorem handle_kept_iff (sqlite : S) (this : Nat) (es : List OpenCloseEvent) :
    (Always (OpenCloseEvent.exec this) (HandleKept this)
          (World.oneConnection sqlite this : World S F) es ∧
        StepsMeet (OpenCloseEvent.exec this) (OpenCloseEvent.KeepsOnThrow this)
          (World.oneConnection sqlite this : World S F) es ∧
        AllClosed (Connection.destroy this (run (OpenCloseEvent.exec this)
          (World.oneConnection sqlite this : World S F) es)).final) ↔
      StepsMeet (OpenCloseEvent.exec this) (OpenCloseEvent.OpensClosed this)
        (World.oneConnection sqlite this : World S F) es := by
  have hinit : HoldsAll this (World.oneConnection sqlite this : World S F) :=
    holdsAll_oneConnection sqlite this
  have hstep : ∀ (w : World S F) (e : OpenCloseEvent), HoldsAll this w →
      e.OpensClosed this w → HoldsAll this (e.exec this w) :=
    fun _ e hw hok => exec_holdsAll hw e hok
  constructor
  · intro h
    refine (always_iff_stepsMeet (fun _ hw => HoldsAll.kept hw) hstep ?_ hinit es).mp h.1
    intro w e hw hno
    exact open_again_loses hw e hno
  · intro hok
    have hall := always_of_stepsMeet hstep hinit hok
    refine ⟨hall.imp fun _ hw => hw.kept, ?_, destroy_allClosed hall.last⟩
    exact hok.imp fun _ e h => keepsOnThrow_of_opensClosed e h

/-- A second `open` on an open connection: the first handle is alive, not stored, and still not
closed when the object is gone. -/
theorem handle_lost_by_second_open :
    let es : List OpenCloseEvent := [.openDb .ok, .openDb .ok]
    let w : World Unit Unit := run (OpenCloseEvent.exec 0) (World.oneConnection () 0) es
    ¬ HandleKept 0 w ∧ ¬ AllClosed (Connection.destroy 0 w).final := by
  intro es w
  constructor
  · intro hkept
    exact absurd (hkept 0 (by decide) (by decide)) (by decide)
  · intro hclosed
    exact absurd (hclosed 0 (by decide)) (by decide)

end Sqxx
