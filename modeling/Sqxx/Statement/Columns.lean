import Sqxx.Framework.Runs
import Sqxx.Statement.Object
import Mathlib.Logic.Function.Basic

/-!
# Column lookup by name

`col_index` translates names through a table that its first call after a reset builds.  The table is
a `std::map`, read with `operator[]`, which inserts what it does not find.
-/

namespace Sqxx
open Framework

namespace Statement

variable {T : Type}

def assignColIndex (name : Bytes) (i : Int) (st : Statement T) : Statement T :=
  { st with colIndexTable := Function.update st.colIndexTable name (some i) }

/-- `std::map::operator[]` on the table: a missing key is inserted with the value 0. -/
def colIndexTableAt (name : Bytes) (st : Statement T) : Int × Statement T :=
  match st.colIndexTable name with
  | some i => (i, st)
  | none => (0, assignColIndex name 0 st)

section Lookup

variable [ColumnNameApi T]

def colCount (st : Statement T) : Int32 := ColumnNameApi.columnCount st.handle

/-- `column::name()` of the column object at `idx`. -/
def columnName (idx : Nat) (st : Statement T) : Option CStr :=
  ColumnNameApi.columnName st.handle idx

/-- The loop of `col_index` from `i` on, with `remaining` rounds to go. A null name would be a null
pointer converted to `std::string`. -/
def fillColIndexTable : (remaining i : Nat) → Cxx (Statement T) Unit
  | 0, _ => pure ()
  | remaining + 1, i => do
    match ← Prog.reading (columnName i) with
    | none => Cxx.undefined
    | some name =>
      Prog.perform (assignColIndex name.bytes i)
      fillColIndexTable remaining (i + 1)

def colIndex (name : CStr) : Cxx (Statement T) Int := do
  if !(← Prog.reading (·.colIndexTableBuilt)) then
    let n ← Prog.reading colCount
    fillColIndexTable n.toNatClampNeg 0
    Prog.perform fun st => { st with colIndexTableBuilt := true }
  Prog.effect (colIndexTableAt name.bytes)

def colIndexStd (name : StdString) : Cxx (Statement T) Int := colIndex name.cStr

/-- `col(name)`: the column object is its index. -/
def col (name : CStr) : Cxx (Statement T) Int := colIndex name

/-- `val<V>(name)`, with `val` the accessor `val<V>(int)`, a `const` member. -/
def valByName {V : Type} (val : Int → Statement T → V) (name : CStr) : Cxx (Statement T) V := do
  let idx ← colIndex name
  Prog.reading (val idx)

end Lookup

end Statement

def lastIndex (name : Bytes) : List CStr → Nat → Option Int
  | [], _ => none
  | c :: cs, i =>
    match lastIndex name cs (i + 1) with
    | some j => some j
    | none => if c.bytes = name then some (i : Int) else none

private theorem lastIndex_sound {name : Bytes} {cols : List CStr} {i : Nat} {j : Int}
    (h : lastIndex name cols i = some j) :
    ∃ k : Nat, j = (i + k : Nat) ∧ ∃ hk : k < cols.length, cols[k].bytes = name := by
  induction cols generalizing i j with
  | nil => simp [lastIndex] at h
  | cons c cs ih =>
    rw [lastIndex] at h
    rcases htail : lastIndex name cs (i + 1) with _ | j'
    · rw [htail] at h
      by_cases hc : c.bytes = name
      · rw [if_pos hc] at h
        exact ⟨0, (Option.some.inj h).symm, by simp, hc⟩
      · simp [hc] at h
    · rw [htail] at h
      obtain ⟨k, hj, hk, hname⟩ := ih htail
      refine ⟨k + 1, ?_, by simpa using hk, by simpa using hname⟩
      rw [← Option.some.inj h, hj]
      congr 1
      omega

theorem lastIndex_eq_none_iff (name : Bytes) (cols : List CStr) (i : Nat) :
    lastIndex name cols i = none ↔ ∀ c ∈ cols, c.bytes ≠ name := by
  induction cols generalizing i with
  | nil => simp [lastIndex]
  | cons c cs ih =>
    rw [lastIndex, List.forall_mem_cons, ← ih (i + 1)]
    rcases lastIndex name cs (i + 1) with _ | j <;> by_cases hc : c.bytes = name <;> simp [hc]

namespace Statement

variable {T : Type} [ColumnNameApi T]

private theorem fillColIndexTable_run {cols : List CStr} (rest : List CStr) (i : Nat)
    (hrest : cols.drop i = rest) (st : Statement T) (hcols : ReportsColumns st.handle cols) :
    (fillColIndexTable rest.length i st).outcome = .ok () ∧
      (fillColIndexTable rest.length i st).final =
        { st with
          colIndexTable := fun name =>
            (lastIndex name rest i).or (st.colIndexTable name) } := by
  induction rest generalizing i st with
  | nil => simp [fillColIndexTable, lastIndex]
  | cons c rest ih =>
    have hlt : i < cols.length := by
      by_contra hge
      rw [List.drop_of_length_le (by omega)] at hrest
      exact absurd hrest (by simp)
    have hdrop := List.drop_eq_getElem_cons hlt
    rw [hrest] at hdrop
    obtain ⟨hc, htail⟩ := List.cons.inj hdrop
    have hname : columnName i st = some c := by
      rw [columnName, hcols.name i hlt, ← hc]
    obtain ⟨hout, hfin⟩ := ih (i + 1) htail.symm (assignColIndex c.bytes i st) hcols
    simp only [List.length_cons, fillColIndexTable, Prog.bind_run, Prog.reading_run, hname,
      Exec.andThen_ok, Prog.perform_run, Exec.prepend_outcome, Exec.prepend_final]
    refine ⟨hout, hfin.trans ?_⟩
    simp only [assignColIndex]
    congr 1
    funext name
    rw [lastIndex]
    by_cases hn : name = c.bytes
    · subst hn
      rcases lastIndex c.bytes rest (i + 1) with _ | j <;> simp
    · rcases lastIndex name rest (i + 1) with _ | j <;> simp [hn, Ne.symm hn]

/-- The table is unbuilt and empty, or holds the last position of every column name and nothing
but zeros under other names. -/
structure CacheSound (cols : List CStr) (st : Statement T) : Prop where
  unbuilt : st.colIndexTableBuilt = false → st.colIndexTable = fun _ => none
  built : st.colIndexTableBuilt = true → ∀ name,
    st.colIndexTable name = lastIndex name cols 0 ∨
      lastIndex name cols 0 = none ∧ st.colIndexTable name = some 0

omit [ColumnNameApi T] in
theorem cacheSound_prepared (cols : List CStr) (handle : T) :
    CacheSound cols (prepared handle) := by
  constructor <;> simp [prepared]

omit [ColumnNameApi T] in
theorem cacheSound_reset [StepApi T] (cols : List CStr) (st : Statement T) :
    CacheSound cols (reset st).final := by
  rw [reset_final]
  constructor <;> simp

omit [ColumnNameApi T] in
private theorem tableAt_sound {cols : List CStr} {st : Statement T} (name : Bytes)
    (hs : CacheSound cols st) (hb : st.colIndexTableBuilt = true) :
    (colIndexTableAt name st).1 = (lastIndex name cols 0).getD 0 ∧
      CacheSound cols (colIndexTableAt name st).2 := by
  unfold colIndexTableAt
  rcases hs.built hb name with heq | ⟨hnone, hzero⟩
  · rcases hlast : lastIndex name cols 0 with _ | j
    · rw [heq, hlast]
      refine ⟨rfl, ⟨fun hf => ?_, fun _ other => ?_⟩⟩
      · exact absurd (hb.symm.trans hf) (by simp)
      · by_cases hn : other = name
        · subst hn
          exact Or.inr ⟨hlast, by simp [assignColIndex]⟩
        · simpa [assignColIndex, hn] using hs.built hb other
    · rw [heq, hlast]
      exact ⟨rfl, hs⟩
  · rw [hzero, hnone]
    exact ⟨rfl, hs⟩

omit [ColumnNameApi T] in
private theorem tableAt_keeps (name : Bytes) (st : Statement T) :
    (colIndexTableAt name st).2.handle = st.handle ∧
      (colIndexTableAt name st).2.colIndexTableBuilt = st.colIndexTableBuilt := by
  unfold colIndexTableAt
  cases st.colIndexTable name with
  | some i => exact ⟨rfl, rfl⟩
  | none => exact ⟨rfl, rfl⟩

/-- A lookup returns: the last column of that name, and 0 without one, among the columns the table
was or is now built from. -/
theorem colIndex_run {cols : List CStr} {st : Statement T}
    (hcols : st.colIndexTableBuilt = false → ReportsColumns st.handle cols)
    (hs : CacheSound cols st) (name : CStr) :
    (colIndex name st).outcome = .ok ((lastIndex name.bytes cols 0).getD 0) ∧
      CacheSound cols (colIndex name st).final ∧
      (colIndex name st).final.handle = st.handle ∧
      (colIndex name st).final.colIndexTableBuilt = true := by
  cases hb : st.colIndexTableBuilt with
  | true =>
    obtain ⟨hval, hsound⟩ := tableAt_sound name.bytes hs hb
    obtain ⟨hhandle, hbuilt⟩ := tableAt_keeps name.bytes st
    rw [hb] at hbuilt
    have hrun : Prog.Ends (colIndex name) st (.ok (colIndexTableAt name.bytes st).1)
        (colIndexTableAt name.bytes st).2 := by
      constructor <;> simp [colIndex, hb]
    rw [hrun.outcome, hrun.final, hval]
    exact ⟨rfl, hsound, hhandle, hbuilt⟩
  | false =>
    have hreports := hcols hb
    have hcount : (colCount st).toNatClampNeg = cols.length := by
      rw [Int32.toNatClampNeg, colCount, hreports.count]
      exact Int.toNat_natCast _
    obtain ⟨hout, hfin⟩ := fillColIndexTable_run cols 0 rfl st hreports
    rcases hfill : fillColIndexTable cols.length 0 st with ⟨outcome, final, visited⟩
    rw [hfill] at hout hfin
    cases hout
    cases hfin
    let filled : Statement T :=
      { st with
        colIndexTable := fun name => (lastIndex name cols 0).or (st.colIndexTable name)
        colIndexTableBuilt := true }
    have hsoundFilled : CacheSound cols filled := by
      refine ⟨by simp [filled], fun _ n => Or.inl ?_⟩
      simp [filled, hs.unbuilt hb]
    obtain ⟨hval, hsound⟩ := tableAt_sound name.bytes hsoundFilled rfl
    obtain ⟨hhandle, hbuilt⟩ := tableAt_keeps name.bytes filled
    have hrun : Prog.Ends (colIndex name) st (.ok (colIndexTableAt name.bytes filled).1)
        (colIndexTableAt name.bytes filled).2 := by
      constructor <;> simp [colIndex, hb, hcount, hfill, filled]
    rw [hrun.outcome, hrun.final, hval]
    exact ⟨rfl, hsound, hhandle, hbuilt⟩

/-- What a lookup owes its caller: the position of a column of that name when there is one, and an
error when there is none. -/
def LookupMeets (cols : List CStr) (name : CStr) (answer : Except Raised Int) : Prop :=
  (name ∈ cols → ∃ i : Nat, answer = .ok (i : Int) ∧ ∃ h : i < cols.length, cols[i] = name) ∧
    (name ∉ cols → ∃ e, answer = .error (.exception e))

theorem lookupMeets_iff (cols : List CStr) (name : CStr) :
    LookupMeets cols name (.ok ((lastIndex name.bytes cols 0).getD 0)) ↔ name ∈ cols := by
  constructor
  · rintro ⟨_, habsent⟩
    by_contra hno
    obtain ⟨e, he⟩ := habsent hno
    cases he
  · intro hmem
    refine ⟨fun _ => ?_, fun hno => (hno hmem).elim⟩
    rcases hlast : lastIndex name.bytes cols 0 with _ | j
    · exact ((lastIndex_eq_none_iff _ _ _).mp hlast name hmem rfl).elim
    · obtain ⟨k, rfl, hk, hname⟩ := lastIndex_sound hlast
      exact ⟨0 + k, rfl, by simpa using hk, by simpa using CStr.ext_bytes hname⟩

end Statement

inductive LookupEvent (T V : Type)
  | colIndex (name : CStr)
  | colIndexStd (name : StdString)
  | col (name : CStr)
  | val (get : Int → Statement T → V) (name : CStr)
  | reset

namespace LookupEvent

variable {T V : Type} [StepApi T] [ColumnNameApi T]

def exec (st : Statement T) : LookupEvent T V → Statement T
  | .colIndex name => (Statement.colIndex name st).final
  | .colIndexStd name => (Statement.colIndexStd name st).final
  | .col name => (Statement.col name st).final
  | .val get name => (Statement.valByName get name st).final
  | .reset => (Statement.reset st).final

private theorem exec_cacheSound {cols : List CStr} (hcols : HasColumns T cols) (st : Statement T)
    (e : LookupEvent T V) (hs : Statement.CacheSound cols st) :
    Statement.CacheSound cols (exec st e) := by
  cases e with
  | colIndex name => exact (Statement.colIndex_run (fun _ => hcols.reports _) hs name).2.1
  | colIndexStd name =>
    exact (Statement.colIndex_run (fun _ => hcols.reports _) hs name.cStr).2.1
  | col name => exact (Statement.colIndex_run (fun _ => hcols.reports _) hs name).2.1
  | val get name =>
    have hrun := Statement.colIndex_run (fun _ => hcols.reports _) hs name
    rcases hidx : Statement.colIndex name st with ⟨outcome, final, visited⟩
    rw [hidx] at hrun
    obtain ⟨hout, hsound, -⟩ := hrun
    cases hout
    simpa [exec, Statement.valByName, hidx] using hsound
  | reset => exact Statement.cacheSound_reset cols st

end LookupEvent

/-- After any lookups and resets, a lookup gives the answer it gives on the fresh statement, and
that answer is right exactly for the names of columns. -/
theorem colIndex_meets_iff {T V : Type} [StepApi T] [ColumnNameApi T] {cols : List CStr}
    (hcols : HasColumns T cols) (handle : T) (es : List (LookupEvent T V)) (name : CStr) :
    let answer := fun st : Statement T => (Statement.colIndex name st).outcome
    let st := run LookupEvent.exec (Statement.prepared handle) es
    answer st = answer (Statement.prepared handle) ∧
      (Statement.LookupMeets cols name (answer st) ↔ name ∈ cols) := by
  intro answer st
  have hfresh := Statement.cacheSound_prepared cols handle
  have hreach : Statement.CacheSound cols st :=
    (always_of_preserved (LookupEvent.exec_cacheSound hcols) hfresh es).last
  have hanswer := (Statement.colIndex_run (fun _ => hcols.reports _) hreach name).1
  have hanswerFresh := (Statement.colIndex_run (fun _ => hcols.reports _) hfresh name).1
  refine ⟨hanswer.trans hanswerFresh.symm, ?_⟩
  rw [show answer st = _ from hanswer]
  exact Statement.lookupMeets_iff cols name

structure EmptyResult (cols : List CStr) where

instance (cols : List CStr) : StepApi (EmptyResult cols) where
  step t := (SQLITE_DONE, t)
  reset t := (SQLITE_OK, t)
  clearBindings t := (SQLITE_OK, t)

instance (cols : List CStr) : ColumnNameApi (EmptyResult cols) where
  columnCount _ := Int32.ofNat cols.length
  columnName _ i := cols[i]?

private theorem hasColumns_emptyResult {cols : List CStr} (h : cols.length < 2 ^ 31) :
    HasColumns (EmptyResult cols) cols := by
  constructor
  · intro t
    exact Int32.toInt_ofNat_of_lt h
  · intro t i hi
    exact List.getElem?_eq_getElem hi

def nameId : CStr := ⟨[105, 100], by decide, by decide⟩
def nameV : CStr := ⟨[118], by decide, by decide⟩

theorem colIndex_meets_iff_id :
    let st := run LookupEvent.exec (Statement.prepared (⟨⟩ : EmptyResult [nameId]))
      [@LookupEvent.val _ Unit (fun _ _ => ()) nameV, .reset, .col nameId]
    (Statement.colIndex nameId st).outcome =
        (Statement.colIndex nameId (Statement.prepared (⟨⟩ : EmptyResult [nameId]))).outcome ∧
      (Statement.LookupMeets [nameId] nameId (Statement.colIndex nameId st).outcome ↔
        nameId ∈ [nameId]) :=
  colIndex_meets_iff (hasColumns_emptyResult (by decide)) _ _ _

/-- The statement has the one column `id`; looking up `v` answers column 0 instead of an error. -/
theorem colIndex_absent_answers_zero :
    (Statement.colIndex nameV (Statement.prepared (⟨⟩ : EmptyResult [nameId]))).outcome = .ok 0 ∧
      ¬ Statement.LookupMeets [nameId] nameV
        (Statement.colIndex nameV (Statement.prepared (⟨⟩ : EmptyResult [nameId]))).outcome := by
  have hanswer : (Statement.colIndex nameV
      (Statement.prepared (⟨⟩ : EmptyResult [nameId]))).outcome = .ok 0 := rfl
  refine ⟨hanswer, ?_⟩
  rw [hanswer]
  rintro ⟨_, habsent⟩
  obtain ⟨e, he⟩ := habsent (by decide)
  cases he

end Sqxx
