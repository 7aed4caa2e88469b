import Sqxx.Framework.Loops
import Sqxx.Statement.Object

/-!
# Loops over the rows

The range-for loop over a statement and the `while` loop with `next_row()`.  The body of a loop
reads the statement and works on variables of its own.
-/

namespace Sqxx
open Framework

variable {T Row B : Type}

/-- Successive steps from `t` answer a row for each of `rows` in turn and then `last`, which is
`SQLITE_DONE` or an error. `current` is the row the library's statement is on. -/
def Answers [StepApi T] (current : T → Row) (last : Int) : T → List Row → Prop
  | t, [] => (StepApi.step t).1 = last ∧ last ≠ SQLITE_ROW
  | t, row :: rows => (StepApi.step t).1 = SQLITE_ROW ∧ current (StepApi.step t).2 = row ∧
      Answers current last (StepApi.step t).2 rows

structure RowLoop (T B : Type) where
  stmt : Statement T
  it : RowIterator
  user : B

namespace RowLoop

def notAtEnd (s : RowLoop T B) : Bool := s.it.operatorNe s.stmt.endIt

variable [StepApi T]

def increment : Cxx (RowLoop T B) Unit := do
  let it ← Prog.reading RowLoop.it
  let it ← Prog.zoom RowLoop.stmt (fun st s => { s with stmt := st }) it.increment
  Prog.perform fun s => { s with it := it }

def round (body : Nat → Statement T → B → B) : Cxx (RowLoop T B) Unit := do
  Prog.perform fun s => { s with user := body s.it.rowidx s.stmt s.user }
  increment

/-- The loop over `st` ends with `o` and leaves the variables in `t`. -/
def Ends (body : Nat → Statement T → B → B) (st : Statement T) (user : B) (o : Except Raised Unit)
    (t : RowLoop T B) : Prop :=
  LoopEnds notAtEnd (round body) ⟨st, st.beginIt, user⟩ o t

end RowLoop

namespace WhileRows

variable [StepApi T]

def round (body : Statement T → B → B) : Cxx (Statement T × B) Unit := do
  Prog.perform fun s => (s.1, body s.1 s.2)
  Prog.zoom Prod.fst (fun st s => (st, s.2)) Statement.nextRow

/-- `while (!st.done())` with that round ends with `o` in the state `t`. -/
def Ends (body : Statement T → B → B) (st : Statement T) (user : B) (o : Except Raised Unit)
    (t : Statement T × B) : Prop :=
  LoopEnds (fun s => !s.1.done) (round body) (st, user) o t

end WhileRows

section Steps

variable [StepApi T]

def nextRows : Nat → Cxx (Statement T) Unit
  | 0 => pure ()
  | k + 1 => do
    Statement.nextRow
    nextRows k

def executeTo (k : Nat) : Cxx (Statement T) Unit := do
  Statement.reset
  Statement.run
  nextRows k

def endOf (last : Int) : Except Raised Unit :=
  if last = SQLITE_DONE then .ok () else .error (.exception (staticError last))

/-- The cursor is on the first of `rows` and the others follow, or there is none left and the flag
says so. -/
def StandsAt (current : T → Row) (last : Int) (st : Statement T) : List Row → Prop
  | [] => st.completed = true
  | row :: rows => st.completed = false ∧ OnRow st.calls ∧ current st.handle = row ∧
      Answers current last st.handle rows

/-- The statement as it is on `m` rows one after the other. -/
def onRows : Nat → Statement T → List (Statement T)
  | 0, _ => []
  | m + 1, st => st :: onRows m (Statement.step st).final

variable {current : T → Row} {last : Int} {st : Statement T} {rows : List Row}

private theorem step_standsAt (h : Answers current last st.handle rows)
    (hmore : rows ≠ [] ∨ last = SQLITE_DONE) :
    Prog.Ends Statement.step st (.ok ()) (Statement.step st).final ∧
      StandsAt current last (Statement.step st).final rows := by
  obtain ⟨hout, hfin⟩ := Statement.step_run st
  cases rows with
  | nil =>
    have hdone : (StepApi.step st.handle).1 = SQLITE_DONE :=
      h.1.trans (hmore.resolve_left fun hne => hne rfl)
    refine ⟨⟨?_, rfl⟩, ?_⟩
    · rw [hout, if_pos (Or.inr hdone)]
    · rw [StandsAt, hfin, hdone]
      rfl
  | cons row rows =>
    obtain ⟨hrow, hcurrent, hrest⟩ := h
    refine ⟨⟨?_, rfl⟩, ?_⟩
    · rw [hout, if_pos (Or.inl hrow)]
    · rw [hfin]
      exact ⟨if_pos hrow, hrow, hcurrent, hrest⟩

private theorem step_throws (h : Answers current last st.handle []) (hlast : last ≠ SQLITE_DONE) :
    Prog.Ends Statement.step st (.error (.exception (staticError last)))
      (Statement.step st).final := by
  obtain ⟨hcode, hrow⟩ := h
  refine ⟨?_, rfl⟩
  rw [(Statement.step_run st).1, hcode, if_neg (not_or.mpr ⟨hrow, hlast⟩)]

private theorem step_cases (h : Answers current last st.handle rows) :
    (Prog.Ends Statement.step st (.ok ()) (Statement.step st).final ∧
        StandsAt current last (Statement.step st).final rows ∧
        (last = SQLITE_DONE ∨ rows ≠ [])) ∨
      (rows = [] ∧ last ≠ SQLITE_DONE ∧
        Prog.Ends Statement.step st (.error (.exception (staticError last)))
          (Statement.step st).final) := by
  by_cases hmore : rows ≠ [] ∨ last = SQLITE_DONE
  · obtain ⟨hstep, hstands⟩ := step_standsAt h hmore
    exact Or.inl ⟨hstep, hstands, hmore.symm⟩
  · obtain ⟨hnil, herror⟩ := not_or.mp hmore
    obtain rfl := not_not.mp hnil
    exact Or.inr ⟨rfl, herror, step_throws h herror⟩

private theorem onRows_of_standsAt (h : StandsAt current last st rows) :
    (onRows rows.length st).map (fun v => current v.handle) = rows ∧
      ∀ v ∈ onRows rows.length st, OnRow v.calls := by
  induction rows generalizing st with
  | nil => simp [onRows]
  | cons row rows ih =>
    obtain ⟨-, honRow, hcurrent, hrest⟩ := h
    rw [List.length_cons, onRows, List.map_cons, hcurrent]
    by_cases hmore : rows = []
    · subst hmore
      simp [onRows, honRow]
    · obtain ⟨hrows, hall⟩ := ih (step_standsAt hrest (Or.inl hmore)).2
      rw [hrows]
      refine ⟨rfl, ?_⟩
      rintro v (_ | ⟨_, hv⟩)
      · exact honRow
      · exact hall v hv

end Steps

/-! ## The range-for loop -/

section For

variable [StepApi T] {current : T → Row} {last : Int} {st t : Statement T} {rows : List Row}

theorem increment_ends (hstep : Prog.Ends Statement.step st (.ok ()) t) (i : Nat) (b : B) :
    Prog.Ends RowLoop.increment ⟨st, ⟨.this, i⟩, b⟩ (.ok ())
      ⟨t, ⟨if t.completed then .null else .this, i + 1⟩, b⟩ := by
  have hit : Prog.Ends (RowIterator.increment ⟨.this, i⟩) st
      (.ok ⟨if t.completed then .null else .this, i + 1⟩) t := by
    apply hstep.bind
    apply (Prog.Ends.reading _ t).bind
    have hcheck : RowIterator.checkComplete ⟨.this, i⟩ t =
        ⟨if t.completed then .null else .this, i⟩ := by
      cases hcompleted : t.completed <;> simp [RowIterator.checkComplete, hcompleted]
    rw [hcheck]
    exact Prog.Ends.pure _ t
  apply (Prog.Ends.reading _ _).bind
  apply (Prog.Ends.zoom hit).bind
  exact Prog.Ends.perform _ _

theorem increment_throws {e : Raised} (hstep : Prog.Ends Statement.step st (.error e) t) (i : Nat)
    (b : B) :
    Prog.Ends RowLoop.increment ⟨st, ⟨.this, i⟩, b⟩ (.error e) ⟨t, ⟨.this, i⟩, b⟩ := by
  have hit : Prog.Ends (RowIterator.increment ⟨.this, i⟩) st (.error e) t := hstep.bind_error
  apply (Prog.Ends.reading _ _).bind
  exact (Prog.Ends.zoom hit).bind_error

theorem round_ends {body : Nat → Statement T → B → B} {it : RowIterator} {b : B}
    {o : Except Raised Unit} {t : RowLoop T B}
    (h : Prog.Ends RowLoop.increment ⟨st, it, body it.rowidx st b⟩ o t) :
    Prog.Ends (RowLoop.round body) ⟨st, it, b⟩ o t :=
  (Prog.Ends.perform _ _).bind h

/-- The loop from the row it is on: the induction is on the rows that are left. -/
theorem forLoop_ends (h : StandsAt current last st rows) (hlast : last = SQLITE_DONE ∨ rows ≠ [])
    (body : Nat → Statement T → B → B) (i : Nat) (b : B) :
    ∃ t, LoopEnds RowLoop.notAtEnd (RowLoop.round body)
        ⟨st, ⟨if st.completed then .null else .this, i⟩, b⟩ (endOf last) t ∧
      t.user = ((onRows rows.length st).zipIdx i).foldl (fun b v => body v.2 v.1 b) b ∧
      (last = SQLITE_DONE → t.stmt.done = true) := by
  induction rows generalizing st i b with
  | nil =>
    have hdone : last = SQLITE_DONE := hlast.resolve_right fun hne => hne rfl
    have hcompleted : st.completed = true := h
    rw [endOf, if_pos hdone, hcompleted, if_pos rfl]
    exact ⟨_, LoopEnds.exit rfl, rfl, fun _ => hcompleted⟩
  | cons row rows ih =>
    obtain ⟨hcompleted, -, -, hrest⟩ := h
    rw [hcompleted]
    rcases step_cases hrest with ⟨hstep, hnext, hmore⟩ | ⟨rfl, herror, hstep⟩
    · obtain ⟨t, hloop, huser, hdone⟩ := ih hnext hmore (i + 1) (body i st b)
      have hround : Prog.Ends (RowLoop.round body) ⟨st, ⟨.this, i⟩, b⟩ (.ok ()) _ :=
        round_ends (increment_ends hstep i (body i st b))
      exact ⟨t, LoopEnds.next rfl hround hloop, huser, hdone⟩
    · -- the step after the last row throws, and the body has run for that row
      have hround : Prog.Ends (RowLoop.round body) ⟨st, ⟨.this, i⟩, b⟩
          (.error (.exception (staticError last))) _ :=
        round_ends (increment_throws hstep i (body i st b))
      rw [endOf, if_neg herror]
      exact ⟨_, LoopEnds.throws rfl hround, rfl, fun hdone => (herror hdone).elim⟩

end For

/-! ## The loop with `next_row()` -/

section While

variable [StepApi T] {current : T → Row} {last : Int} {st t : Statement T} {rows : List Row}

private theorem whileRound_ends {body : Statement T → B → B} {o : Except Raised Unit} (b : B)
    (hstep : Prog.Ends Statement.step st o t) :
    Prog.Ends (WhileRows.round body) (st, b) o (t, body st b) := by
  apply (Prog.Ends.perform _ _).bind
  exact Prog.Ends.zoom hstep

private theorem whileLoop_ends (h : StandsAt current last st rows)
    (hlast : last = SQLITE_DONE ∨ rows ≠ []) (body : Statement T → B → B) (b : B) :
    ∃ t, WhileRows.Ends body st b (endOf last) t ∧
      t.2 = (onRows rows.length st).foldl (fun b v => body v b) b ∧
      (last = SQLITE_DONE → t.1.done = true) := by
  induction rows generalizing st b with
  | nil =>
    have hdone : last = SQLITE_DONE := hlast.resolve_right fun hne => hne rfl
    have hcompleted : st.completed = true := h
    have hexit : (!st.done) = false := by
      rw [Statement.done, hcompleted]
      rfl
    rw [endOf, if_pos hdone]
    exact ⟨_, LoopEnds.exit hexit, rfl, fun _ => hcompleted⟩
  | cons row rows ih =>
    obtain ⟨hcompleted, -, -, hrest⟩ := h
    have hcond : (!st.done) = true := by
      rw [Statement.done, hcompleted]
      rfl
    rcases step_cases hrest with ⟨hstep, hnext, hmore⟩ | ⟨rfl, herror, hstep⟩
    · obtain ⟨t, hloop, huser, hdone⟩ := ih hnext hmore (body st b)
      exact ⟨t, LoopEnds.next hcond (whileRound_ends b hstep) hloop, huser, hdone⟩
    · rw [endOf, if_neg herror]
      exact ⟨_, LoopEnds.throws hcond (whileRound_ends b hstep), rfl,
        fun hdone => (herror hdone).elim⟩

end While

section Executions

variable [StepApi T] {current : T → Row} {last : Int} {st : Statement T} {rows : List Row}

private theorem nextRows_ends {k : Nat} (h : StandsAt current last st rows) (hk : k ≤ rows.length)
    (hlast : last = SQLITE_DONE ∨ k < rows.length) :
    ∃ t, Prog.Ends (nextRows k) st (.ok ()) t ∧ StandsAt current last t (rows.drop k) := by
  induction k generalizing st rows with
  | zero => exact ⟨st, Prog.Ends.pure () st, h⟩
  | succ k ih =>
    cases rows with
    | nil => cases hk
    | cons row rows =>
      rw [List.length_cons] at hk hlast
      have hmore : rows ≠ [] ∨ last = SQLITE_DONE := by
        rcases hlast with hdone | hlt
        · exact Or.inr hdone
        · refine Or.inl (List.ne_nil_of_length_pos ?_)
          omega
      obtain ⟨hstep, hnext⟩ := step_standsAt h.2.2.2 hmore
      obtain ⟨t, hends, ht⟩ := ih hnext (by omega) (hlast.imp_right (by omega))
      exact ⟨t, hstep.bind hends, ht⟩

private theorem executeTo_ends {k : Nat} (h : Answers current last (StepApi.reset st.handle).2 rows)
    (hrun : (Statement.run (Statement.reset st).final).outcome = .ok ()) (hk : k ≤ rows.length)
    (hlast : last = SQLITE_DONE ∨ k < rows.length) :
    ∃ t, Prog.Ends (executeTo k) st (.ok ()) t ∧ StandsAt current last t (rows.drop k) := by
  let fresh := (Statement.reset st).final
  have hfresh : Answers current last fresh.handle rows := by
    have hhandle : fresh.handle = (StepApi.reset st.handle).2 := by
      rw [show fresh = _ from Statement.reset_final st]
    rw [hhandle]
    exact h
  rcases step_cases hfresh with ⟨hstep, hstands, -⟩ | ⟨-, -, hthrows⟩
  · obtain ⟨t, hends, ht⟩ := nextRows_ends hstands hk hlast
    have hreset : Prog.Ends Statement.reset st (.ok ()) fresh := ⟨rfl, rfl⟩
    exact ⟨t, hreset.bind (hstep.bind hends), ht⟩
  · have hout : (Statement.run fresh).outcome = _ := hthrows.outcome
    cases hout.symm.trans hrun

end Executions

/-- Whatever the statement has been through, after `reset()`, a `run()` that does not throw and `k`
calls of `next_row()` both loops run their body on each of the rows from `k` on, in order and on
that row, the range-for loop with `i` counting from zero.  They end, with the flag set if SQLite
came to the end and with its error thrown if not. -/
theorem rows_iterated [StepApi T] {current : T → Row} {last : Int} {st : Statement T}
    {rows : List Row} (hanswers : Answers current last (StepApi.reset st.handle).2 rows)
    (hrun : (Statement.run (Statement.reset st).final).outcome = .ok ()) {k : Nat}
    (hk : k ≤ rows.length) (hlast : last = SQLITE_DONE ∨ k < rows.length) :
    ∃ (stₖ : Statement T) (seen : List (Statement T)),
      Prog.Ends (executeTo k) st (.ok ()) stₖ ∧
      seen.map (fun v => current v.handle) = rows.drop k ∧ (∀ v ∈ seen, OnRow v.calls) ∧
      (∀ (B : Type) (body : Nat → Statement T → B → B) (b : B),
        ∃ t, RowLoop.Ends body stₖ b (endOf last) t ∧
          t.user = seen.zipIdx.foldl (fun b v => body v.2 v.1 b) b ∧
          (last = SQLITE_DONE → t.stmt.done = true)) ∧
      ∀ (B : Type) (body : Statement T → B → B) (b : B),
        ∃ t, WhileRows.Ends body stₖ b (endOf last) t ∧
          t.2 = seen.foldl (fun b v => body v b) b ∧ (last = SQLITE_DONE → t.1.done = true) := by
  obtain ⟨stₖ, hends, hstands⟩ := executeTo_ends hanswers hrun hk hlast
  have hleft : last = SQLITE_DONE ∨ rows.drop k ≠ [] := by
    refine hlast.imp_right fun hlt => ?_
    rw [Ne, List.drop_eq_nil_iff]
    omega
  obtain ⟨hrows, hall⟩ := onRows_of_standsAt hstands
  refine ⟨stₖ, _, hends, hrows, hall, ?_, ?_⟩
  · intro B body b
    have hbegin : stₖ.beginIt = ⟨if stₖ.completed then .null else .this, 0⟩ := by
      cases hcompleted : stₖ.completed <;>
        simp [Statement.beginIt, RowIterator.new, RowIterator.checkComplete, hcompleted]
    have hloop := forLoop_ends hstands hleft body 0 b
    rw [← hbegin] at hloop
    exact hloop
  · intro B body b
    exact whileLoop_ends hstands hleft body b

/-- A query with the rows of a list as its result. -/
structure ListQuery where
  result : List Nat
  ahead : List Nat
  row : Option Nat

instance : StepApi ListQuery where
  step q :=
    match q.ahead with
    | [] => (SQLITE_DONE, { q with row := none })
    | row :: ahead => (SQLITE_ROW, { q with ahead := ahead, row := some row })
  reset q := (SQLITE_OK, { q with ahead := q.result, row := none })
  clearBindings q := (SQLITE_OK, q)

def threeRows : Statement ListQuery :=
  (Statement.run (Statement.prepared ⟨[7, 8, 9], [7, 8, 9], none⟩)).final

theorem rows_iterated_threeRows :
    ∃ (stₖ : Statement ListQuery) (seen : List (Statement ListQuery)),
      Prog.Ends (executeTo 1) threeRows (.ok ()) stₖ ∧
      seen.map (fun v => v.handle.row) = [some 8, some 9] ∧
      ∃ t, RowLoop.Ends (fun i _ sum => sum + i) stₖ 0 (.ok ()) t ∧
        t.user = seen.zipIdx.foldl (fun sum v => sum + v.2) 0 ∧ t.stmt.done = true := by
  have hanswers : Answers ListQuery.row SQLITE_DONE (StepApi.reset threeRows.handle).2
      [some 7, some 8, some 9] := ⟨rfl, rfl, rfl, rfl, rfl, rfl, rfl, by decide⟩
  have hk : 1 ≤ [some 7, some 8, some 9].length := by decide
  obtain ⟨stₖ, seen, hends, hrows, -, hfor, -⟩ := rows_iterated hanswers rfl hk (Or.inl rfl)
  obtain ⟨t, hloop, huser, hdone⟩ := hfor Nat (fun i _ sum => sum + i) 0
  exact ⟨stₖ, seen, hends, hrows, t, hloop, huser, hdone rfl⟩

end Sqxx
