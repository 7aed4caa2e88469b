import Sqxx.Statement.DoneFlag

/-!
# One execution, one pass over its rows

After `run()` the rows are walked through by iterators and by `next_row()`, in any mixture.  An
iterator looks at the done flag when it is made and after its own steps only, so it does not see
that another one has come to the end.
-/

namespace Sqxx
open Framework

/-- The number of the row the cursor is on, counted from 1, and 0 before the first step. -/
class RowApi (T : Type) where
  row : T → Nat

/-- The statement has a result of `n` rows. What a step does once it is over is left open. -/
structure ResultOf (T : Type) [StepApi T] [RowApi T] (n : Nat) : Prop where
  next : ∀ t : T, RowApi.row t < n →
    (StepApi.step t).1 = SQLITE_ROW ∧ RowApi.row (StepApi.step t).2 = RowApi.row t + 1
  finish : ∀ t : T, RowApi.row t = n → (StepApi.step t).1 = SQLITE_DONE

/-- The library's statement with a record of the rows it has delivered, newest first. -/
structure Recorded (T : Type) where
  state : T
  delivered : List Nat

instance {T : Type} [StepApi T] [RowApi T] : StepApi (Recorded T) where
  step t :=
    let (rv, state) := StepApi.step t.state
    (rv, ⟨state, if rv = SQLITE_ROW then RowApi.row state :: t.delivered else t.delivered⟩)
  reset t :=
    let (rv, state) := StepApi.reset t.state
    (rv, { t with state := state })
  clearBindings t :=
    let (rv, state) := StepApi.clearBindings t.state
    (rv, { t with state := state })

theorem RowIterator.ne_endIt_iff {T : Type} (it : RowIterator) (st : Statement T) :
    it.operatorNe st.endIt = true ↔ it.s = .this := by
  rcases it with ⟨ptr, rowidx⟩
  cases ptr <;>
    simp [RowIterator.operatorNe, RowIterator.operatorEq, Statement.endIt, RowIterator.new,
      RowIterator.checkComplete]

/-- The events that step the statement in a loop over its rows. -/
def SessionEvent.advances : SessionEvent → Bool
  | .increment _ | .nextRow => true
  | _ => false

namespace Session

section Permitted

variable {T : Type}

/-- A range-for loop is a `begin()` and increments while the iterator differs from `end()`. -/
def Permitted (s : Session T) : SessionEvent → Prop
  | .beginIt => True
  | .increment i => ∃ it, s.iters[i]? = some it ∧ it.operatorNe s.stmt.endIt = true
  | .nextRow => s.stmt.done = false
  | .step | .run | .query | .reset | .clearBindings => False

/-- An iterator is incremented before the end of the result only. -/
def IncrementsOnRow (s : Session T) : SessionEvent → Prop
  | .increment _ => s.stmt.done = false
  | _ => True

private theorem exec_of_advances [StepApi T] {s : Session T} {e : SessionEvent} (hp : s.Permitted e)
    (ha : e.advances = true) : (s.exec e).stmt = (Statement.step s.stmt).final := by
  cases e with
  | increment i =>
    obtain ⟨it, hit, hne⟩ := hp
    have hptr := (RowIterator.ne_endIt_iff it s.stmt).mp hne
    exact exec_stmt_of_steps ⟨it, hit, hptr⟩
  | nextRow => rfl
  | _ => cases ha

private theorem exec_of_not_advances [StepApi T] {s : Session T} {e : SessionEvent}
    (hp : s.Permitted e) (ha : e.advances = false) : (s.exec e).stmt = s.stmt := by
  cases e with
  | beginIt => rfl
  | increment i => cases ha
  | nextRow => cases ha
  | _ => exact hp.elim

private theorem done_of_advances {s : Session T} {e : SessionEvent} (hp : s.Permitted e)
    (hok : s.IncrementsOnRow e) (ha : e.advances = true) : s.stmt.done = false := by
  cases e with
  | increment i => exact hok
  | nextRow => exact hp
  | _ => cases ha

private theorem calls_length_run [StepApi T] (s : Session T) (es : List SessionEvent)
    (hp : StepsMeet exec Permitted s es) :
    (run exec s es).stmt.calls.length = s.stmt.calls.length + es.countP (·.advances) := by
  induction es generalizing s with
  | nil => simp
  | cons e es ih =>
    rw [run_cons, ih (s.exec e) hp.2]
    cases ha : e.advances with
    | true =>
      have hstmt := exec_of_advances hp.1 ha
      rw [hstmt, (Statement.step_run s.stmt).2]
      simp only [List.length_cons, List.countP_cons, ha, if_true]
      omega
    | false =>
      rw [exec_of_not_advances hp.1 ha]
      simp [ha]

end Permitted

variable {T : Type} [StepApi T] [RowApi T]

def started (state : T) : Session (Recorded T) := (prepared ⟨state, []⟩).exec .run

/-- No step after the end of the result, and no row delivered again. -/
structure ExecutedOnce (s : Session (Recorded T)) : Prop where
  noRestart : CursorCall.step SQLITE_DONE ∉ s.stmt.calls.tail
  rowsOnce : s.stmt.handle.delivered.Nodup

/-- Before the end of the result there was one call for each row. -/
structure BeforeEnd (n : Nat) (st : Statement (Recorded T)) : Prop where
  noEnd : CursorCall.step SQLITE_DONE ∉ st.calls
  count : st.calls.length = RowApi.row st.handle.state
  within : RowApi.row st.handle.state ≤ n
  below : ∀ r ∈ st.handle.delivered, r ≤ RowApi.row st.handle.state
  rowsOnce : st.handle.delivered.Nodup

/-- The end was found by one call after those for the rows. -/
structure AtEnd (n : Nat) (st : Statement (Recorded T)) : Prop where
  lastCall : ∃ before, st.calls = .step SQLITE_DONE :: before ∧
    CursorCall.step SQLITE_DONE ∉ before ∧ before.length = n
  rowsOnce : st.handle.delivered.Nodup

structure Sequential (n : Nat) (s : Session (Recorded T)) : Prop where
  beforeEnd : s.stmt.done = false → BeforeEnd n s.stmt
  atEnd : s.stmt.done = true → AtEnd n s.stmt

private theorem step_to_row {st : Statement (Recorded T)}
    (hrow : (StepApi.step st.handle.state).1 = SQLITE_ROW) :
    (Statement.step st).final =
      { st with
        handle := ⟨(StepApi.step st.handle.state).2,
          RowApi.row (StepApi.step st.handle.state).2 :: st.handle.delivered⟩
        completed := false
        calls := .step SQLITE_ROW :: st.calls } := by
  have hcode : (StepApi.step st.handle).1 = SQLITE_ROW := hrow
  rw [(Statement.step_run st).2, hcode, if_pos rfl]
  simp [StepApi.step, hrow]

private theorem step_to_end {st : Statement (Recorded T)}
    (hdone : (StepApi.step st.handle.state).1 = SQLITE_DONE) :
    (Statement.step st).final =
      { st with
        handle := ⟨(StepApi.step st.handle.state).2, st.handle.delivered⟩
        completed := true
        calls := .step SQLITE_DONE :: st.calls } := by
  have hcode : (StepApi.step st.handle).1 = SQLITE_DONE := hdone
  rw [(Statement.step_run st).2, hcode]
  simp [StepApi.step, hdone, SQLITE_ROW, SQLITE_DONE]

private theorem sequential_step {n : Nat} (hresult : ResultOf T n) {st : Statement (Recorded T)}
    (h : BeforeEnd n st) (iters : List RowIterator) :
    Sequential n ⟨(Statement.step st).final, iters⟩ := by
  have hcount := h.count
  rcases Nat.lt_or_eq_of_le h.within with hlt | heq
  · obtain ⟨hrow, hnext⟩ := hresult.next st.handle.state hlt
    rw [step_to_row hrow]
    refine ⟨fun _ => ⟨?_, ?_, ?_, ?_, ?_⟩, fun hend => ?_⟩
    · have hne : CursorCall.step SQLITE_DONE ≠ .step SQLITE_ROW := by decide
      exact List.not_mem_cons_of_ne_of_not_mem hne h.noEnd
    · change st.calls.length + 1 = RowApi.row (StepApi.step st.handle.state).2
      omega
    · change RowApi.row (StepApi.step st.handle.state).2 ≤ n
      omega
    · intro r hr
      change r ≤ RowApi.row (StepApi.step st.handle.state).2
      rcases List.mem_cons.mp hr with rfl | hr
      · exact le_refl _
      · have hold := h.below r hr
        omega
    · refine List.nodup_cons.mpr ⟨?_, h.rowsOnce⟩
      intro hmem
      have hold := h.below _ hmem
      omega
    · cases hend
  · rw [step_to_end (hresult.finish st.handle.state heq)]
    refine ⟨fun hrow => ?_, fun _ => ⟨⟨st.calls, rfl, h.noEnd, hcount.trans heq⟩, h.rowsOnce⟩⟩
    cases hrow

private theorem sequential_started {n : Nat} (hresult : ResultOf T n) {state : T}
    (hfresh : RowApi.row state = 0) : Sequential n (started state) := by
  have hbefore : BeforeEnd n (Statement.prepared (⟨state, []⟩ : Recorded T)) := by
    constructor
    · exact List.not_mem_nil
    · exact hfresh.symm
    · exact hfresh.le.trans (Nat.zero_le n)
    · intro r hr
      cases hr
    · exact List.nodup_nil
  exact sequential_step hresult hbefore []

omit [StepApi T] in
private theorem Sequential.executedOnce {n : Nat} {s : Session (Recorded T)} (h : Sequential n s) :
    s.ExecutedOnce := by
  cases hdone : s.stmt.done with
  | false =>
    have hbefore := h.beforeEnd hdone
    exact ⟨fun hmem => hbefore.noEnd (List.mem_of_mem_tail hmem), hbefore.rowsOnce⟩
  | true =>
    obtain ⟨⟨before, hcalls, hno, -⟩, hrows⟩ := h.atEnd hdone
    refine ⟨?_, hrows⟩
    rw [hcalls]
    exact hno

omit [StepApi T] in
private theorem Sequential.calls_le {n : Nat} {s : Session (Recorded T)} (h : Sequential n s) :
    s.stmt.calls.length ≤ n + 1 := by
  cases hdone : s.stmt.done with
  | false =>
    have hbefore := h.beforeEnd hdone
    have hcount := hbefore.count
    have hwithin := hbefore.within
    omega
  | true =>
    obtain ⟨⟨before, hcalls, -, hlen⟩, -⟩ := h.atEnd hdone
    rw [hcalls, List.length_cons, hlen]

private theorem sequential_exec {n : Nat} (hresult : ResultOf T n) (s : Session (Recorded T))
    (e : SessionEvent) (h : Sequential n s) (hp : s.Permitted e) (hok : s.IncrementsOnRow e) :
    Sequential n (s.exec e) := by
  cases ha : e.advances with
  | true =>
    have hbefore := h.beforeEnd (done_of_advances hp hok ha)
    have hstep := sequential_step hresult hbefore (s.exec e).iters
    rw [← exec_of_advances hp ha] at hstep
    exact hstep
  | false =>
    have hstmt := exec_of_not_advances hp ha
    constructor
    · rw [hstmt]
      exact h.beforeEnd
    · rw [hstmt]
      exact h.atEnd

private theorem restarts {n : Nat} (s : Session (Recorded T)) (e : SessionEvent)
    (h : Sequential n s)
    (hp : s.Permitted e) (hno : ¬ s.IncrementsOnRow e) : ¬ (s.exec e).ExecutedOnce := by
  intro honce
  have hadvances : e.advances = true := by
    cases e with
    | increment i => rfl
    | _ => exact (hno trivial).elim
  have hdone : s.stmt.done = true := by
    cases e with
    | increment i => exact eq_true_of_ne_false hno
    | _ => exact (hno trivial).elim
  obtain ⟨⟨before, hcalls, -⟩, -⟩ := h.atEnd hdone
  have hrestart := honce.noRestart
  rw [exec_of_advances hp hadvances, (Statement.step_run s.stmt).2] at hrestart
  apply hrestart
  change CursorCall.step SQLITE_DONE ∈ s.stmt.calls
  rw [hcalls]
  exact List.mem_cons_self

end Session

/-- After one `run()`, whatever the interleaving of loops and `next_row()`: the statement is
executed once and the loops make at most `n` rounds together, exactly when no iterator is
incremented after the end was reached. -/
theorem executed_once_iff {T : Type} [StepApi T] [RowApi T] {n : Nat} (hresult : ResultOf T n)
    (state : T) (hfresh : RowApi.row state = 0) (es : List SessionEvent)
    (hpermitted : StepsMeet Session.exec Session.Permitted (Session.started state) es) :
    (Always Session.exec Session.ExecutedOnce (Session.started state) es ∧
        es.countP (·.advances) ≤ n) ↔
      StepsMeet Session.exec Session.IncrementsOnRow (Session.started state) es := by
  have hstart := Session.sequential_started hresult hfresh
  have honce := always_iff_stepsMeet_of_allowed (fun s hs => Session.Sequential.executedOnce hs)
    (Session.sequential_exec hresult) Session.restarts hstart hpermitted
  constructor
  · intro h
    exact honce.mp h.1
  · intro hok
    refine ⟨honce.mpr hok, ?_⟩
    have hcalls := Session.calls_length_run (Session.started state) es hpermitted
    have hsequential := always_of_stepsMeet
      (fun s e hs hboth => Session.sequential_exec hresult s e hs hboth.1 hboth.2) hstart
      (hpermitted.and hok)
    have hbound := hsequential.last.calls_le
    have hfirst : (Session.started state).stmt.calls.length = 1 := by
      change (Statement.step (Statement.prepared (⟨state, []⟩ : Recorded T))).final.calls.length = 1
      rw [(Statement.step_run _).2]
      rfl
    omega

/-- The result has one row; a step after the last one starts again. -/
inductive OneRow
  | before
  | onRow

instance : StepApi OneRow where
  step
    | .before => (SQLITE_ROW, .onRow)
    | .onRow => (SQLITE_DONE, .before)
  reset _ := (SQLITE_OK, .before)
  clearBindings t := (SQLITE_OK, t)

instance : RowApi OneRow where
  row
    | .before => 0
    | .onRow => 1

private theorem resultOf_oneRow : ResultOf OneRow 1 := by
  constructor
  · intro t ht
    cases t with
    | before => exact ⟨rfl, rfl⟩
    | onRow => exact absurd ht (by decide)
  · intro t ht
    cases t with
    | before => cases ht
    | onRow => rfl

/-- A range-for loop over the row: `begin()` and one increment. -/
theorem executed_once_iff_oneRow :
    (Always Session.exec Session.ExecutedOnce (Session.started OneRow.before)
        [.beginIt, .increment 0] ∧ [.beginIt, .increment 0].countP SessionEvent.advances ≤ 1) ↔
      StepsMeet Session.exec Session.IncrementsOnRow (Session.started OneRow.before)
        [.beginIt, .increment 0] :=
  executed_once_iff resultOf_oneRow OneRow.before rfl _ ⟨trivial, ⟨_, rfl, by decide⟩, trivial⟩

/-- A loop over the one row whose body calls `next_row()`: its increment starts the statement again
and delivers the row again. -/
theorem executed_twice_by_loop :
    StepsMeet Session.exec Session.Permitted (Session.started OneRow.before)
        [.beginIt, .nextRow, .increment 0] ∧
      ¬ Always Session.exec Session.ExecutedOnce (Session.started OneRow.before)
        [.beginIt, .nextRow, .increment 0] := by
  refine ⟨⟨trivial, rfl, ⟨_, rfl, by decide⟩, trivial⟩, ?_⟩
  intro h
  have hrows := h.last.rowsOnce
  exact absurd hrows (by decide)

end Sqxx
