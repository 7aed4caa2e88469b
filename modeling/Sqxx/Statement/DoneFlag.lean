import Sqxx.Framework.Runs
import Sqxx.Statement.Object

/-!
# The done flag

`completed` is a cached copy of the cursor's position.  The executions considered start at a freshly
prepared statement and take any order of the operations that move the cursor, through the
statement or through row iterators, with whatever codes the library answers.
-/

namespace Sqxx
open Framework

/-- A statement and the row iterators its user keeps. -/
structure Session (T : Type) where
  stmt : Statement T
  iters : List RowIterator

inductive SessionEvent
  | step
  | run
  | query
  | nextRow
  | beginIt
  | increment (i : Nat)
  | reset
  | clearBindings
  deriving DecidableEq, Repr

namespace Session

variable {T : Type}

def prepared (handle : T) : Session T := ⟨Statement.prepared handle, []⟩

variable [StepApi T]

/-- What a throw leaves behind is kept: the caller goes on with the same objects. An index without
an iterator is no call. -/
def exec (s : Session T) : SessionEvent → Session T
  | .step => { s with stmt := (Statement.step s.stmt).final }
  | .run => { s with stmt := (Statement.run s.stmt).final }
  | .query => { s with stmt := (Statement.query s.stmt).final }
  | .nextRow => { s with stmt := (Statement.nextRow s.stmt).final }
  | .beginIt => { s with iters := s.iters ++ [s.stmt.beginIt] }
  | .increment i =>
    match s.iters[i]? with
    | none => s
    | some it =>
      let r := it.increment s.stmt
      { stmt := r.final
        iters := match r.outcome with
          | .ok it' => s.iters.set i it'
          | .error _ => s.iters }
  | .reset => { s with stmt := (Statement.reset s.stmt).final }
  | .clearBindings => { s with stmt := (Statement.clearBindings s.stmt).final }

def Steps (s : Session T) : SessionEvent → Prop
  | .step | .run | .query | .nextRow => True
  | .increment i => ∃ it, s.iters[i]? = some it ∧ it.s = .this
  | .beginIt | .reset | .clearBindings => False

/-- All three ways to ask agree with the cursor. -/
def Truthful (s : Session T) : Prop :=
  (s.stmt.done = false ↔ OnRow s.stmt.calls) ∧
    (s.stmt.beginIt.operatorNe s.stmt.endIt = true ↔ OnRow s.stmt.calls) ∧
    (s.stmt.operatorBool = true ↔ OnRow s.stmt.calls)

/-- From a row the statement is not reset, and a step from a row answers a row or the end. -/
def LeavesRowByDone (s : Session T) (e : SessionEvent) : Prop :=
  OnRow s.stmt.calls →
    e ≠ .reset ∧
      (s.Steps e → (StepApi.step s.stmt.handle).1 = SQLITE_ROW ∨
        (StepApi.step s.stmt.handle).1 = SQLITE_DONE)

omit [StepApi T] in
theorem truthful_iff (s : Session T) :
    s.Truthful ↔ (s.stmt.completed = false ↔ OnRow s.stmt.calls) := by
  simp [Truthful, Statement.done, Statement.operatorBool, Statement.beginIt_ne_endIt]

theorem exec_stmt (s : Session T) (e : SessionEvent) :
    (s.exec e).stmt =
      match e with
      | .reset => (Statement.reset s.stmt).final
      | .clearBindings => (Statement.clearBindings s.stmt).final
      | .beginIt => s.stmt
      | .step | .run | .query | .nextRow => (Statement.step s.stmt).final
      | .increment i =>
        match s.iters[i]? with
        | some ⟨.this, _⟩ => (Statement.step s.stmt).final
        | _ => s.stmt := by
  cases e with
  | increment i =>
    rcases hit : s.iters[i]? with _ | ⟨ptr, n⟩
    · simp [exec, hit]
    · cases ptr with
      | null => simp [exec, hit, RowIterator.increment]
      | this =>
        simp only [exec, hit, RowIterator.increment, Prog.bind_run]
        rcases hrun : Statement.step s.stmt with ⟨outcome, final, visited⟩
        cases outcome <;> simp
  | _ => rfl

theorem exec_stmt_of_steps {s : Session T} {e : SessionEvent} (h : s.Steps e) :
    (s.exec e).stmt = (Statement.step s.stmt).final := by
  rw [exec_stmt]
  cases e with
  | increment i =>
    obtain ⟨⟨ptr, n⟩, hit, hptr⟩ := h
    cases hptr
    simp [hit]
  | beginIt => exact h.elim
  | reset => exact h.elim
  | clearBindings => exact h.elim
  | _ => rfl

private theorem exec_of_not_steps {s : Session T} {e : SessionEvent} (h : ¬ s.Steps e) :
    (s.exec e).stmt.completed = s.stmt.completed ∧
      (OnRow (s.exec e).stmt.calls ↔ OnRow s.stmt.calls ∧ e ≠ .reset) := by
  rw [exec_stmt]
  cases e with
  | reset => simp [Statement.reset_final, OnRow]
  | clearBindings => simp [Statement.clearBindings_final]
  | beginIt => simp
  | increment i =>
    rcases hit : s.iters[i]? with _ | ⟨ptr, n⟩
    · simp [hit]
    · cases ptr with
      | null => simp [hit]
      | this => exact (h ⟨⟨.this, n⟩, hit, rfl⟩).elim
  | _ => exact (h trivial).elim

/-- One step of the exact condition: from a truthful state, truth is kept exactly when a row is
left through the end of the result. -/
theorem truthful_exec_iff {s : Session T} (hs : s.Truthful) (e : SessionEvent) :
    (s.exec e).Truthful ↔ s.LeavesRowByDone e := by
  rw [truthful_iff] at hs ⊢
  by_cases hsteps : s.Steps e
  · have hne : e ≠ .reset := by
      rintro rfl
      exact hsteps
    rw [exec_stmt_of_steps hsteps, (Statement.step_run s.stmt).2]
    by_cases hrow : (StepApi.step s.stmt.handle).1 = SQLITE_ROW
    · simp [LeavesRowByDone, OnRow, hrow, hne]
    · by_cases hdone : (StepApi.step s.stmt.handle).1 = SQLITE_DONE
      · simp [LeavesRowByDone, OnRow, hdone, hne, SQLITE_ROW, SQLITE_DONE]
      · -- the failing step: the flag keeps its old value, the cursor is on no row
        have hold : (¬ s.stmt.completed = false) ↔ ¬ OnRow s.stmt.calls := not_congr hs
        simp only [LeavesRowByDone, OnRow, hrow, hdone, if_false, iff_false, hold, or_self, hne,
          hsteps, ne_eq, not_false_eq_true, true_and, forall_const, imp_false]
  · obtain ⟨hflag, hcursor⟩ := exec_of_not_steps hsteps
    rw [hflag, hcursor, hs]
    simp only [LeavesRowByDone, hsteps, false_imp_iff, and_true]
    tauto

end Session

/-- The flag tells the truth in every state of an execution exactly when no row is left by a reset
or a failing step. -/
theorem doneFlag_truthful_iff {T : Type} [StepApi T] (handle : T) (es : List SessionEvent) :
    Always Session.exec Session.Truthful (Session.prepared handle) es ↔
      StepsMeet Session.exec Session.LeavesRowByDone (Session.prepared handle) es := by
  refine always_iff_stepsMeet (fun s hs => hs)
    (fun s e hs hok => (Session.truthful_exec_iff hs e).mpr hok)
    (fun s e hs hno hafter => hno ((Session.truthful_exec_iff hs e).mp hafter)) ?_ es
  simp [Session.truthful_iff, Session.prepared, Statement.prepared, OnRow]

/-- A library that answers each step with the next code of a script, and then with the end. -/
abbrev Script := List Int

instance : StepApi Script where
  step
    | [] => (SQLITE_DONE, [])
    | rv :: rest => (rv, rest)
  reset script := (SQLITE_OK, script)
  clearBindings script := (SQLITE_OK, script)

/-- One row, then a reset: the statement is on no row and `done()` still says it is. -/
theorem doneFlag_stale_after_reset :
    ¬ (run Session.exec (Session.prepared ([SQLITE_ROW] : Script)) [.run, .reset]).Truthful := by
  rw [Session.truthful_iff]
  decide

end Sqxx
