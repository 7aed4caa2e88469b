import Sqxx.Sqlite.Statements

/-!
# Statement objects

The members of `sqxx::statement` and the operations that execute it, with the row iterator.  The
state of the `sqlite3_stmt` behind `handle` is kept next to the members, together with the calls
made on it, newest first.
-/

namespace Sqxx
open Framework

/-- A call that moves the cursor, with the code it returned. -/
inductive CursorCall
  | step (rv : Int)
  | reset (rv : Int)
  deriving DecidableEq, Repr

abbrev ColIndexTable := Bytes → Option Int

structure Statement (T : Type) where
  handle : T
  completed : Bool
  colIndexTableBuilt : Bool
  colIndexTable : ColIndexTable
  calls : List CursorCall

/-- The cursor is on a result row: the most recent `sqlite3_step` since the last reset returned
`SQLITE_ROW`. -/
def OnRow : List CursorCall → Prop
  | .step rv :: _ => rv = SQLITE_ROW
  | _ => False

instance : DecidablePred OnRow
  | [] => isFalse id
  | .reset _ :: _ => isFalse id
  | .step rv :: _ => inferInstanceAs (Decidable (rv = SQLITE_ROW))

namespace Statement

variable {T : Type}

def prepared (handle : T) : Statement T := ⟨handle, true, false, fun _ => none, []⟩

section Execution

variable [StepApi T]

def sqlite3Step : Cxx (Statement T) Int :=
  Prog.effect fun st =>
    let (rv, handle) := StepApi.step st.handle
    (rv, { st with handle := handle, calls := .step rv :: st.calls })

def step : Cxx (Statement T) Unit := do
  let rv ← sqlite3Step
  if rv = SQLITE_ROW then
    Prog.perform fun st => { st with completed := false }
  else if rv = SQLITE_DONE then
    Prog.perform fun st => { st with completed := true }
  else
    Cxx.throw (staticError rv)

def run : Cxx (Statement T) Unit := step

def query : Cxx (Statement T) Unit := run

def nextRow : Cxx (Statement T) Unit := step

/-- The code of `sqlite3_reset` is looked at and ignored. -/
def reset : Cxx (Statement T) Unit := do
  let _rv ← Prog.effect fun st =>
    let (rv, handle) := StepApi.reset st.handle
    (rv, { st with handle := handle, calls := .reset rv :: st.calls })
  Prog.perform fun st => { st with colIndexTable := fun _ => none }
  Prog.perform fun st => { st with colIndexTableBuilt := false }

def clearBindings : Cxx (Statement T) Unit := do
  let rv ← Prog.effect fun st =>
    let (rv, handle) := StepApi.clearBindings st.handle
    (rv, { st with handle := handle })
  Cxx.checkOk rv

end Execution

def done (st : Statement T) : Bool := st.completed

def operatorBool (st : Statement T) : Bool := !st.completed

end Statement

/-- The member `statement *s` of a row iterator. -/
inductive StatementPtr
  | null
  | this
  deriving DecidableEq, Repr

/-- As a `size_t`, `rowidx` would wrap after `2 ^ 64` steps, which no execution gets to. -/
structure RowIterator where
  s : StatementPtr
  rowidx : Nat
  deriving DecidableEq, Repr

namespace RowIterator

variable {T : Type}

def checkComplete (it : RowIterator) (st : Statement T) : RowIterator :=
  if it.s = .this ∧ st.completed then { it with s := .null } else it

def new (sArg : StatementPtr) (st : Statement T) : RowIterator :=
  checkComplete ⟨sArg, 0⟩ st

/-- `operator++`. It calls `step` through `s`, so an end iterator must not be incremented; a throw
leaves the iterator as it was. -/
def increment [StepApi T] (it : RowIterator) : Cxx (Statement T) RowIterator :=
  match it.s with
  | .null => Cxx.undefined
  | .this => do
    Statement.step
    let it ← Prog.reading (checkComplete it)
    pure { it with rowidx := it.rowidx + 1 }

def operatorEq (it other : RowIterator) : Bool := it.s = other.s

def operatorNe (it other : RowIterator) : Bool := !operatorEq it other

end RowIterator

namespace Statement

variable {T : Type}

/-- `begin()`; named so because `begin` is taken. -/
def beginIt (st : Statement T) : RowIterator := RowIterator.new .this st

def endIt (st : Statement T) : RowIterator := RowIterator.new .null st

theorem step_run [StepApi T] (st : Statement T) :
    (step st).outcome =
        (if (StepApi.step st.handle).1 = SQLITE_ROW ∨ (StepApi.step st.handle).1 = SQLITE_DONE
          then .ok () else .error (.exception (staticError (StepApi.step st.handle).1))) ∧
      (step st).final =
        { st with
          handle := (StepApi.step st.handle).2
          completed :=
            if (StepApi.step st.handle).1 = SQLITE_ROW then false
            else if (StepApi.step st.handle).1 = SQLITE_DONE then true else st.completed
          calls := .step (StepApi.step st.handle).1 :: st.calls } := by
  by_cases hrow : (StepApi.step st.handle).1 = SQLITE_ROW
  · simp [step, sqlite3Step, hrow]
  · by_cases hdone : (StepApi.step st.handle).1 = SQLITE_DONE
    · simp [step, sqlite3Step, hdone, SQLITE_ROW, SQLITE_DONE]
    · simp [step, sqlite3Step, hrow, hdone]

theorem reset_final [StepApi T] (st : Statement T) :
    (reset st).final =
      { st with
        handle := (StepApi.reset st.handle).2
        colIndexTable := fun _ => none
        colIndexTableBuilt := false
        calls := .reset (StepApi.reset st.handle).1 :: st.calls } := by
  simp [reset]

theorem clearBindings_final [StepApi T] (st : Statement T) :
    (clearBindings st).final = { st with handle := (StepApi.clearBindings st.handle).2 } := by
  simp [clearBindings, Cxx.checkOk_run]

theorem beginIt_ne_endIt (st : Statement T) :
    (beginIt st).operatorNe (endIt st) = !st.completed := by
  cases h : st.completed <;>
    simp [beginIt, endIt, RowIterator.new, RowIterator.checkComplete, RowIterator.operatorNe,
      RowIterator.operatorEq, h]

end Statement

end Sqxx
