import Sqxx.Connection.Object
import Sqxx.Framework.Runs

/-!
# Who closes a handle

The handle of a connection is a raw pointer.  Every closing operation of an object closes what the
pointer names, so a handle is closed once only while one object names it.
-/

namespace Sqxx
open Framework

inductive HandleEvent
  | construct (this : Nat)
  | openDb (this : Nat) (answer : OpenAnswer)
  | close (this : Nat)
  | closeSync (this : Nat) (answer : Int)
  | moveConstruct (this other : Nat)
  | moveAssign (this other : Nat)
  | destroy (this : Nat)
  deriving DecidableEq, Repr

variable {S F : Type}

namespace World

def Exists (w : World S F) (this : Nat) : Prop := (w.conns this).isSome

instance (w : World S F) (this : Nat) : Decidable (w.Exists this) :=
  inferInstanceAs (Decidable ((w.conns this).isSome = true))

end World

namespace HandleEvent

/-- The objects an event needs exist, and the one it makes does not. -/
def Applies (w : World S F) : HandleEvent → Prop
  | .construct this => ¬ w.Exists this
  | .openDb this _ | .close this | .closeSync this _ | .destroy this => w.Exists this
  | .moveConstruct this other => ¬ w.Exists this ∧ w.Exists other
  | .moveAssign this other => w.Exists this ∧ w.Exists other

instance (w : World S F) : DecidablePred (Applies w)
  | .construct this => inferInstanceAs (Decidable (¬ w.Exists this))
  | .openDb this _ | .close this | .closeSync this _ | .destroy this =>
    inferInstanceAs (Decidable (w.Exists this))
  | .moveConstruct this other => inferInstanceAs (Decidable (¬ w.Exists this ∧ w.Exists other))
  | .moveAssign this other => inferInstanceAs (Decidable (w.Exists this ∧ w.Exists other))

def op : HandleEvent → Cxx (World S F) Unit
  | .construct this => Connection.construct this
  | .openDb this answer => Connection.openDb this answer
  | .close this => Connection.close this
  | .closeSync this answer => Connection.closeSync this answer
  | .moveConstruct this other => Connection.moveConstruct this other
  | .moveAssign this other => Connection.moveAssign this other
  | .destroy this => Connection.destroy this

/-- An operation on objects that are not there is no operation of a program. -/
def exec (w : World S F) (e : HandleEvent) : World S F :=
  if e.Applies w then (op e w).final else w

/-- No object takes a handle over from another one. -/
def MovesNoHandle (w : World S F) (e : HandleEvent) : Prop :=
  e.Applies w → match e with
    | .moveConstruct _ other => w.held other = none
    | .moveAssign this other => this ≠ other → w.held other = none
    | _ => True

end HandleEvent

/-- No handle was closed twice, no object names a closed handle, no two objects name the same. -/
structure HandlesProper (w : World S F) : Prop where
  once : ∀ h, w.handles.frees h ≤ 1
  notClosed : ∀ this h, w.held this = some h → w.handles.frees h = 0
  single : ∀ this other h, w.held this = some h → w.held other = some h → this = other

private theorem handlesProper_of_held {w : World S F} (hw : w.handles.Held w.held) :
    HandlesProper w where
  once := hw.sound.frees_le_one
  notClosed this h hh := hw.sound.live h (hw.live this h hh)
  single := hw.inj

private theorem held_noConnections (sqlite : S) :
    (World.noConnections sqlite : World S F).handles.Held
      (World.noConnections sqlite : World S F).held := by
  apply Heap.Held.init
  intro this
  rfl

private theorem openDb_held (w : World S F) (hw : w.handles.Held w.held) (this : Nat)
    (answer : OpenAnswer) :
    (Connection.openDb this answer w).final.handles.Held
      (Connection.openDb this answer w).final.held := by
  rcases Connection.openDb_cases this answer w with hstored | hnull | hclosed
  · rw [hstored, held_setHandle]
    exact hw.take this ()
  · rw [hnull, held_setHandle]
    exact hw.forget this
  · rw [hclosed, held_setHandle]
    exact (hw.discard ()).forget this

private theorem exec_held (w : World S F) (e : HandleEvent) (hw : w.handles.Held w.held)
    (hok : e.MovesNoHandle w) : (e.exec w).handles.Held (e.exec w).held := by
  rw [HandleEvent.exec]
  by_cases happ : e.Applies w
  · rw [if_pos happ]
    cases e with
    | construct this =>
      change w.handles.Held (w.setConn this ⟨none, none⟩).held
      rw [held_setConn]
      exact hw.forget this
    | openDb this answer => exact openDb_held w hw this answer
    | close this =>
      rw [HandleEvent.op, (Connection.close_ends this w).final, held_setHandle]
      exact hw.release this
    | closeSync this answer =>
      rw [HandleEvent.op, Connection.closeSync_final]
      by_cases hclosed : answer = SQLITE_OK ∨ w.held this = none
      · rw [if_pos hclosed, (Connection.close_ends this w).final, held_setHandle]
        exact hw.release this
      · rw [if_neg hclosed]
        exact hw
    | moveConstruct this other =>
      have hnone : w.held other = none := hok happ
      obtain ⟨hhandles, hheld⟩ := Connection.moveConstruct_handles this other w
      rw [HandleEvent.op, hhandles, hheld, hnone]
      exact hw.forget this
    | moveAssign this other =>
      obtain ⟨hhandles, hheld⟩ := Connection.moveAssign_handles this other w
      rw [HandleEvent.op, hhandles, hheld]
      by_cases hself : this = other
      · rw [hself, Function.update_eq_self]
        exact hw
      · have hnone : w.held other = none := hok happ hself
        rw [hnone]
        exact hw.forget this
    | destroy this =>
      obtain ⟨hhandles, hheld⟩ := Connection.destroy_handles this w
      rw [HandleEvent.op, hhandles, hheld]
      exact hw.release this
  · rw [if_neg happ]
    exact hw

private theorem exec_not_proper (w : World S F) (e : HandleEvent) (hok : ¬ e.MovesNoHandle w) :
    ¬ HandlesProper (e.exec w) := by
  intro hproper
  apply hok
  intro happ
  rw [HandleEvent.exec, if_pos happ] at hproper
  cases e with
  | moveConstruct this other =>
    have hne : other ≠ this := by
      rintro rfl
      exact happ.1 happ.2
    rcases hother : w.held other with _ | h
    · exact hother
    · obtain ⟨-, hheld⟩ := Connection.moveConstruct_handles this other w
      refine (hne (hproper.single other this h ?_ ?_)).elim
      · rw [HandleEvent.op, hheld, Function.update_of_ne hne, hother]
      · rw [HandleEvent.op, hheld, Function.update_self, hother]
  | moveAssign this other =>
    intro hself
    rcases hother : w.held other with _ | h
    · rfl
    · obtain ⟨-, hheld⟩ := Connection.moveAssign_handles this other w
      refine (hself (hproper.single this other h ?_ ?_)).elim
      · rw [HandleEvent.op, hheld, Function.update_self, hother]
      · rw [HandleEvent.op, hheld, Function.update_of_ne (Ne.symm hself), hother]
  | _ => trivial

/-- Handles are closed once and never used afterwards in exactly the executions in which no object
takes a handle over from another one. -/
theorem handles_proper_iff (sqlite : S) (es : List HandleEvent) :
    Always HandleEvent.exec HandlesProper (World.noConnections sqlite : World S F) es ↔
      StepsMeet HandleEvent.exec HandleEvent.MovesNoHandle
        (World.noConnections sqlite : World S F) es :=
  always_iff_stepsMeet (fun _ hw => handlesProper_of_held hw)
    (fun w e hw hok => exec_held w e hw hok) (fun w e _ hno => exec_not_proper w e hno)
    (held_noConnections sqlite) es

/-- A connection is opened and another one built from it by a move: both are destroyed and the
handle is closed twice. -/
theorem handle_closed_twice_after_move :
    let es : List HandleEvent :=
      [.construct 0, .openDb 0 .ok, .moveConstruct 1 0, .destroy 1, .destroy 0]
    (run HandleEvent.exec (World.noConnections () : World Unit Unit) es).handles.frees 0 = 2 ∧
      ¬ Always HandleEvent.exec HandlesProper (World.noConnections () : World Unit Unit) es := by
  intro es
  have htwice : (run HandleEvent.exec (World.noConnections () : World Unit Unit) es).handles.frees 0
      = 2 := rfl
  refine ⟨htwice, fun halways => ?_⟩
  have honce := halways.last.once 0
  rw [htwice] at honce
  omega

end Sqxx
