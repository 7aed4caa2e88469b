import Sqxx.Connection.Exec
import Sqxx.Sqlite.SqlText

/-!
# What becomes of the SQL text

The way from a `std::string` to the library goes through `c_str()`, `strlen` and an `int`, and the
tail pointer of `sqlite3_prepare_v2` is not asked for.
-/

namespace Sqxx
open Framework

namespace Connection

variable {W St Row : Type} [text : SqlTextApi W St] [exec : ExecApi W Row]

/-- The `int` made of `std::strlen(sql)+1`. -/
def nByte (sql : CStr) : Int32 := (strlen sql + 1).toInt64.toInt32

/-- `prepare(const char*)`; the result stands for the `statement` by its handle. -/
def prepareText (sql : CStr) : Cxx W (Option St) := do
  let (rv, stmt) ← Prog.effect fun w => text.sqlite3PrepareV2 w sql (nByte sql)
  if rv ≠ SQLITE_OK then
    Cxx.throw (staticError rv)
  else
    pure stmt

def prepareString (sql : StdString) : Cxx W (Option St) := prepareText sql.cStr

/-- `statement::step` on a statement with this handle. -/
def stepHandle (handle : Option St) : Cxx W Unit := do
  let rv ← Prog.effect fun w => text.sqlite3Step w handle
  if rv = SQLITE_ROW then
    pure ()
  else if rv = SQLITE_DONE then
    pure ()
  else
    Cxx.throw (staticError rv)

def prepareAndStep (sql : StdString) : Cxx W (Option St) := do
  let st ← prepareString sql
  stepHandle st
  pure st

/-- `query(const char*)`: a throw of `run()` destroys the statement. -/
def queryText (sql : CStr) : Cxx W (Option St) := do
  let st ← prepareText sql
  Cxx.unwinding (stepHandle st) (Prog.perform fun w => text.sqlite3Finalize w st)
  pure st

def queryString (sql : StdString) : Cxx W (Option St) := queryText sql.cStr

def runString (sql : StdString) : Cxx W (Option St) := queryString sql

def execString (sql : StdString) : Cxx (W × Unit) Unit := Connection.exec sql.cStr

end Connection

variable {W St Row : Type} [text : SqlTextApi W St] [exec : ExecApi W Row]

/-- If it returned, `sql` was compiled as one statement, and this was executed: only white space and
comments follow it. -/
def KeepsStatement {α : Type} (x : Cxx W α) (w : W) (sql : StdString) : Prop :=
  ∀ a, (x w).outcome = .ok a → ∃ (stmt : St) (rest : Bytes),
    text.executed (x w).final = text.executed w ++ [text.sql stmt] ∧
      sql.bytes = text.sql stmt ++ rest ∧ Blank rest

/-- If it returned, all statements of `sql` were executed. -/
def KeepsStatements {α : Type} (x : Cxx (W × Unit) α) (w : W) (sql : StdString) : Prop :=
  ∀ a, (x (w, ())).outcome = .ok a → ∃ done rest : Bytes,
    text.executed (x (w, ())).final.1 = text.executed w ++ [done] ∧
      sql.bytes = done ++ rest ∧ Textless rest

/-- `sql` up to its first NUL byte. -/
def beforeNul (sql : StdString) : Bytes := sql.bytes.takeWhile (· ≠ 0)

/-- The first NUL byte and what stands behind it. -/
def behindNul (sql : StdString) : Bytes := sql.bytes.dropWhile (· ≠ 0)

/-- How many bytes fit a count that keeps `n + 1` modulo `2^32` and means all of them when it is
negative, that is `2^31` and more. -/
def counted (n : Nat) : Nat :=
  if (n + 1) % 2 ^ 32 < 2 ^ 31 then (n + 1) % 2 ^ 32 else n

/-- The bytes of `sql` that are compiled, and those before its first NUL byte that are not. -/
def compiledText (sql : StdString) : Bytes := (beforeNul sql).take (counted (beforeNul sql).length)

def cutOff (sql : StdString) : Bytes := (beforeNul sql).drop (counted (beforeNul sql).length)

/-- The library reads a statement in the first `used` bytes of `sql`, and its first step answers a
row or the end. -/
def AcceptsText (w : W) (sql : StdString) (stmt : St) (used : Nat) : Prop :=
  text.compile w (compiledText sql) = .statement stmt used ∧
    (text.firstStep w stmt = SQLITE_ROW ∨ text.firstStep w stmt = SQLITE_DONE)

/-- If the library accepts a statement of `used` bytes, the tail behind these, what the count cuts
off and what stands behind a NUL byte are white space and comments. -/
def NothingFollows (w : W) (sql : StdString) : Prop :=
  ∀ (stmt : St) used, AcceptsText w sql stmt used →
    Blank ((compiledText sql).drop used ++ cutOff sql ++ behindNul sql)

/-- If the library runs `sql` up to its first NUL byte, no text of a statement is behind. -/
def NothingBehindNul (w : W) (sql : StdString) : Prop :=
  (exec.produces w sql.cStr).2 = SQLITE_OK → Textless (behindNul sql)

omit text exec in
private theorem counted_of_lt {n : Nat} (h : n + 1 < 2 ^ 32) : n ≤ counted n := by
  rw [counted, Nat.mod_eq_of_lt h]
  split <;> omega

omit text exec in
/-- The count of bytes that `prepare` passes is the whole text, unless it takes 4 GiB. -/
theorem cutOff_of_lt {sql : StdString} (h : (beforeNul sql).length + 1 < 2 ^ 32) :
    cutOff sql = [] :=
  List.drop_eq_nil_of_le (counted_of_lt h)

omit text exec in
private theorem text_split (sql : StdString) :
    sql.bytes = compiledText sql ++ cutOff sql ++ behindNul sql := by
  rw [compiledText, cutOff, List.take_append_drop]
  exact List.takeWhile_append_dropWhile.symm

omit text exec in
private theorem nByte_eq (sql : CStr) :
    Connection.nByte sql = Int32.ofNat (sql.bytes.length + 1) := by
  rw [Connection.nByte, strlen, ← UInt64.ofNat_one, ← UInt64.ofNat_add, UInt64.toInt64_ofNat',
    Int64.toInt32_ofNat']

omit text exec in
private theorem textSeen_nByte (sql : StdString) :
    textSeen sql.cStr (Connection.nByte sql.cStr) = compiledText sql := by
  have hvalue : (Connection.nByte sql.cStr).toInt =
      Int.bmod ((beforeNul sql).length + 1 : Nat) (2 ^ 32) := by
    rw [nByte_eq]
    exact Int32.toInt_ofNat'
  have hneg : Connection.nByte sql.cStr < 0 ↔ (Connection.nByte sql.cStr).toInt < 0 :=
    Int32.lt_iff_toInt_lt
  have hbytes : sql.cStr.bytes = beforeNul sql := rfl
  rw [Int.bmod_def] at hvalue
  by_cases hsmall : ((beforeNul sql).length + 1) % 2 ^ 32 < 2 ^ 31
  · have hcount : (Connection.nByte sql.cStr).toInt.toNat =
        ((beforeNul sql).length + 1) % 2 ^ 32 := by omega
    have hnonneg : ¬ Connection.nByte sql.cStr < 0 := hneg.not.mpr (by omega)
    rw [textSeen, if_neg hnonneg, hcount, hbytes, compiledText, counted, if_pos hsmall]
  · have hnegative : Connection.nByte sql.cStr < 0 := hneg.mpr (by omega)
    rw [textSeen, if_pos hnegative, hbytes, compiledText, counted, if_neg hsmall,
      List.take_length]

private theorem sql_split (hlaws : SqlTextLaws W) {w : W} {sql : StdString} {stmt : St} {used : Nat}
    (hreading : text.compile w (compiledText sql) = .statement stmt used) :
    sql.bytes = text.sql stmt ++
      ((compiledText sql).drop used ++ cutOff sql ++ behindNul sql) := by
  have hsql := hlaws.used w _ stmt used hreading
  calc sql.bytes = compiledText sql ++ cutOff sql ++ behindNul sql := text_split sql
    _ = (compiledText sql).take used ++ (compiledText sql).drop used ++ cutOff sql ++
        behindNul sql := by rw [List.take_append_drop]
    _ = _ := by rw [hsql, List.append_assoc, List.append_assoc, List.append_assoc]

/-- `x` returns exactly when the library reads a statement and accepts it, and the statement is
executed then. -/
structure RunsStatement {α : Type} (x : Cxx W α) (w : W) (sql : StdString) : Prop where
  accepted : ∀ a, (x w).outcome = .ok a →
    ∃ (stmt : St) (used : Nat), AcceptsText w sql stmt used
  executes : ∀ (stmt : St) used, AcceptsText w sql stmt used →
    (∃ a, (x w).outcome = .ok a) ∧
      text.executed (x w).final = text.executed w ++ [text.sql stmt]

theorem keepsStatement_iff {α : Type} {x : Cxx W α} {w : W} {sql : StdString}
    (hlaws : SqlTextLaws W) (hx : RunsStatement x w sql) :
    KeepsStatement x w sql ↔ NothingFollows w sql := by
  constructor
  · intro hkeeps stmt used haccepts
    obtain ⟨⟨a, hok⟩, hexecuted⟩ := hx.executes stmt used haccepts
    obtain ⟨other, rest, hother, hsplit, hblank⟩ := hkeeps a hok
    rw [hexecuted] at hother
    have hsame : text.sql other = text.sql stmt := by simpa using hother.symm
    have hrest := hsplit.symm.trans (sql_split hlaws haccepts.1)
    rw [hsame] at hrest
    exact List.append_cancel_left hrest ▸ hblank
  · intro hnothing a hok
    obtain ⟨stmt, used, haccepts⟩ := hx.accepted a hok
    refine ⟨stmt, _, (hx.executes stmt used haccepts).2, sql_split hlaws haccepts.1, ?_⟩
    exact hnothing stmt used haccepts

namespace Connection

private theorem prepareText_ends (hlaws : SqlTextLaws W) (sql : StdString) (w : W) :
    Prog.Ends (prepareText sql.cStr) w
      (match text.compile w (compiledText sql) with
        | .failed rv => .error (.exception (staticError rv))
        | .blank => .ok none
        | .statement stmt _ => .ok (some stmt))
      (text.sqlite3PrepareV2 w sql.cStr (nByte sql.cStr)).2 := by
  have hanswer := (hlaws.prepare w sql.cStr (nByte sql.cStr)).1
  rw [textSeen_nByte] at hanswer
  rcases hreading : text.compile w (compiledText sql) with rv | _ | ⟨stmt, used⟩
  · have hrv := hlaws.failed w _ rv hreading
    rw [hreading] at hanswer
    constructor <;> simp [prepareText, hanswer, Compiled.answer, hrv]
  · rw [hreading] at hanswer
    constructor <;> simp [prepareText, hanswer, Compiled.answer]
  · rw [hreading] at hanswer
    constructor <;> simp [prepareText, hanswer, Compiled.answer]

private theorem stepHandle_ends (handle : Option St) (w : W) :
    Prog.Ends (stepHandle handle) w
      (if (text.sqlite3Step w handle).1 = SQLITE_ROW ∨ (text.sqlite3Step w handle).1 = SQLITE_DONE
        then .ok () else .error (.exception (staticError (text.sqlite3Step w handle).1)))
      (text.sqlite3Step w handle).2 := by
  by_cases hrow : (text.sqlite3Step w handle).1 = SQLITE_ROW
  · constructor <;> simp [stepHandle, hrow]
  · by_cases hdone : (text.sqlite3Step w handle).1 = SQLITE_DONE
    · constructor <;> simp [stepHandle, hdone, SQLITE_ROW, SQLITE_DONE]
    · constructor <;> simp [stepHandle, hrow, hdone]

private theorem runsStatement (hlaws : SqlTextLaws W) {ran : Option St → Cxx W Unit}
    (hreturns : ∀ st w t, Prog.Ends (stepHandle st) w (.ok ()) t →
      Prog.Ends (ran st) w (.ok ()) t)
    (hthrows : ∀ st w e t, Prog.Ends (stepHandle st) w (.error (.exception e)) t →
      ∃ t', Prog.Ends (ran st) w (.error (.exception e)) t')
    (w : W) (sql : StdString) :
    RunsStatement (do
      let st ← prepareText sql.cStr
      ran st
      pure st) w sql := by
  let x : Cxx W (Option St) := do
    let st ← prepareText sql.cStr
    ran st
    pure st
  let prepared := (text.sqlite3PrepareV2 w sql.cStr (nByte sql.cStr)).2
  have hprepare := prepareText_ends hlaws sql w
  -- a step that answers neither a row nor the end makes the whole throw
  have hthrow : ∀ st, Prog.Ends (prepareText sql.cStr) w (.ok st) prepared →
      ¬ ((text.sqlite3Step prepared st).1 = SQLITE_ROW ∨
        (text.sqlite3Step prepared st).1 = SQLITE_DONE) →
      ∃ e t, Prog.Ends x w (.error (.exception e)) t := by
    intro st hst hno
    have hstep := stepHandle_ends st prepared
    rw [if_neg hno] at hstep
    obtain ⟨t, hran⟩ := hthrows st prepared _ _ hstep
    exact ⟨_, t, hst.bind hran.bind_error⟩
  constructor
  · intro a hok
    rcases hreading : text.compile w (compiledText sql) with rv | _ | ⟨stmt, used⟩
    · rw [hreading] at hprepare
      have hfailed : Prog.Ends x w (.error (.exception (staticError rv))) prepared :=
        hprepare.bind_error
      cases hok.symm.trans hfailed.outcome
    · rw [hreading] at hprepare
      have hmisuse := hlaws.stepNull prepared
      obtain ⟨e, t, hends⟩ := hthrow none hprepare (by rw [hmisuse]; decide)
      cases hok.symm.trans hends.outcome
    · rw [hreading] at hprepare
      refine ⟨stmt, used, hreading, ?_⟩
      have hfirst := hlaws.firstStep w sql.cStr (nByte sql.cStr) stmt used
        (by rw [textSeen_nByte, hreading])
      rw [← hfirst]
      by_contra hno
      obtain ⟨e, t, hends⟩ := hthrow (some stmt) hprepare hno
      cases hok.symm.trans hends.outcome
  · rintro stmt used ⟨hreading, hsteps⟩
    rw [hreading] at hprepare
    have hstep := stepHandle_ends (some stmt) prepared
    rw [← hlaws.firstStep w sql.cStr (nByte sql.cStr) stmt used
      (by rw [textSeen_nByte, hreading])] at hsteps
    rw [if_pos hsteps] at hstep
    have hran := hreturns (some stmt) prepared _ hstep
    have hends : Prog.Ends x w (.ok (some stmt))
        (text.sqlite3Step prepared (some stmt)).2 := by
      apply hprepare.bind
      exact hran.bind (Prog.Ends.pure _ _)
    refine ⟨⟨some stmt, hends.outcome⟩, ?_⟩
    have hexecuted := hlaws.step prepared stmt hsteps
    rw [(hlaws.prepare w sql.cStr (nByte sql.cStr)).2] at hexecuted
    exact (congrArg text.executed hends.final).trans hexecuted

private theorem prepareAndStep_runs (hlaws : SqlTextLaws W) (w : W) (sql : StdString) :
    RunsStatement (prepareAndStep sql) w sql :=
  runsStatement hlaws (fun _ _ _ h => h) (fun _ _ _ t h => ⟨t, h⟩) w sql

private theorem queryString_runs (hlaws : SqlTextLaws W) (w : W) (sql : StdString) :
    RunsStatement (queryString sql) w sql :=
  runsStatement hlaws (fun _ _ _ h => Cxx.unwinding_ok h _)
    (fun _ _ _ t h => ⟨_, Cxx.unwinding_throw h (Prog.Ends.perform _ t)⟩) w sql

end Connection

private theorem execString_ends (hlaws : SqlTextLaws W) (hexec : ExecLaws W) (w : W)
    (sql : StdString) :
    ((exec.produces w sql.cStr).2 ≠ SQLITE_OK →
      ∃ r, (Connection.execString sql (w, ())).outcome = .error r) ∧
    ((exec.produces w sql.cStr).2 = SQLITE_OK →
      (Connection.execString sql (w, ())).outcome = .ok () ∧
        text.executed (Connection.execString sql (w, ())).final.1 =
          text.executed w ++ [sql.cStr.bytes]) := by
  let rv := (exec.produces w sql.cStr).2
  obtain ⟨errmsg, w', hcall, herrmsg⟩ := hexec.withoutCallback sql.cStr w ()
  constructor
  · intro hrv
    obtain ⟨hends, -⟩ := Connection.exec_ends hexec sql.cStr w ()
    simp only [ExecEnds, if_neg hrv] at hends
    obtain ⟨what, hthrow⟩ := hends
    exact ⟨_, hthrow⟩
  · intro hrv
    have hrun : Prog.Ends (Connection.execString sql) (w, ()) (.ok ()) (w', ()) := by
      apply hcall.bind
      change Prog.Ends (Connection.throwOnFailure (exec.produces w sql.cStr).2 errmsg) _ _ _
      rw [hrv]
      exact Prog.Ends.pure () _
    have hexecuted := hlaws.exec sql.cStr w () errmsg (by rw [hcall.outcome, hrv])
    rw [hcall.final] at hexecuted
    refine ⟨hrun.outcome, ?_⟩
    rw [hrun.final]
    exact hexecuted

theorem keepsStatements_iff (hlaws : SqlTextLaws W) (hexec : ExecLaws W) (w : W)
    (sql : StdString) :
    KeepsStatements (Connection.execString sql) w sql ↔ NothingBehindNul w sql := by
  obtain ⟨hthrows, hreturns⟩ := execString_ends hlaws hexec w sql
  have hsplit : sql.bytes = sql.cStr.bytes ++ behindNul sql :=
    List.takeWhile_append_dropWhile.symm
  constructor
  · intro hkeeps hrv
    obtain ⟨hok, hexecuted⟩ := hreturns hrv
    obtain ⟨done, rest, hdone, hdoneSplit, htextless⟩ := hkeeps () hok
    rw [hexecuted] at hdone
    have hsame : sql.cStr.bytes = done := by simpa using hdone
    rw [← hsame] at hdoneSplit
    exact List.append_cancel_left (hdoneSplit.symm.trans hsplit) ▸ htextless
  · intro hnothing a hok
    have hrv : (exec.produces w sql.cStr).2 = SQLITE_OK := by
      by_contra hno
      obtain ⟨r, hthrow⟩ := hthrows hno
      cases hok.symm.trans hthrow
    exact ⟨_, _, (hreturns hrv).2, hsplit, hnothing hrv⟩

open Connection in
/-- No text is dropped silently by `prepare` with a step, `query` and `run` exactly when only white
space and comments follow the statement that the library accepts, and by `exec` exactly when no
text stands behind a NUL byte. -/
theorem text_kept_iff (hlaws : SqlTextLaws W) (hexec : ExecLaws W) (w : W) (sql : StdString) :
    (KeepsStatement (prepareAndStep sql) w sql ↔ NothingFollows w sql) ∧
      (KeepsStatement (queryString sql) w sql ↔ NothingFollows w sql) ∧
      (KeepsStatement (runString sql) w sql ↔ NothingFollows w sql) ∧
      (KeepsStatements (execString sql) w sql ↔ NothingBehindNul w sql) := by
  refine ⟨?_, ?_, ?_, keepsStatements_iff hlaws hexec w sql⟩
  · exact keepsStatement_iff hlaws (prepareAndStep_runs hlaws w sql)
  · exact keepsStatement_iff hlaws (queryString_runs hlaws w sql)
  · exact keepsStatement_iff hlaws (queryString_runs hlaws w sql)

/-- A library for which a statement ends at a semicolon and every statement succeeds. -/
structure SemicolonText where
  executed : List Bytes
  deriving DecidableEq, Repr

instance : SqlTextApi SemicolonText Bytes where
  compile _ text :=
    if Blank text then .blank
    else .statement (text.take ((text.takeWhile (· ≠ 59)).length + 1))
      ((text.takeWhile (· ≠ 59)).length + 1)
  sql stmt := stmt
  firstStep _ _ := SQLITE_DONE
  executed w := w.executed
  sqlite3PrepareV2 w z nByte :=
    let seen := textSeen z nByte
    if Blank seen then ((SQLITE_OK, none), w)
    else ((SQLITE_OK, some (seen.take ((seen.takeWhile (· ≠ 59)).length + 1))), w)
  sqlite3Step w
    | none => (SQLITE_MISUSE, w)
    | some stmt => (SQLITE_DONE, ⟨w.executed ++ [stmt]⟩)
  sqlite3Finalize w _ := w

instance : ExecApi SemicolonText Unit where
  produces _ _ := ([], SQLITE_OK)
  sqlite3Exec z _ := do
    Prog.perform fun s => (⟨s.1.executed ++ [z.bytes]⟩, s.2)
    pure (SQLITE_OK, none)
  message _ _ := ""
  sqlite3Free w _ := w

theorem execLaws_semicolonText : ExecLaws SemicolonText where
  withoutCallback z w r := by
    refine ⟨none, ⟨w.executed ++ [z.bytes]⟩, ?_, ?_⟩
    · exact (Prog.Ends.perform _ (w, r)).bind (Prog.Ends.pure _ _)
    · intro hfailed
      exact absurd rfl hfailed
  withCallback z callback w r r' stopped h := by
    cases h
    refine ⟨none, ⟨w.executed ++ [z.bytes]⟩, ?_, ?_⟩
    · exact (Prog.Ends.perform _ (w, r)).bind (Prog.Ends.pure _ _)
    · intro hfailed
      exact absurd rfl hfailed

theorem sqlTextLaws_semicolonText : SqlTextLaws SemicolonText where
  used w text stmt used h := by
    by_cases hblank : Blank text
    · simp [SqlTextApi.compile, hblank] at h
    · simp only [SqlTextApi.compile, hblank, if_false, Compiled.statement.injEq] at h
      rw [← h.1, ← h.2]
      rfl
  failed w text rv h := by
    by_cases hblank : Blank text
    · simp [SqlTextApi.compile, hblank] at h
    · simp [SqlTextApi.compile, hblank] at h
  prepare w z nByte := by
    by_cases hblank : Blank (textSeen z nByte)
    · simp [SqlTextApi.sqlite3PrepareV2, SqlTextApi.compile, Compiled.answer, hblank]
    · simp [SqlTextApi.sqlite3PrepareV2, SqlTextApi.compile, Compiled.answer, hblank]
  firstStep _ _ _ _ _ _ := rfl
  stepNull _ := rfl
  step _ _ _ := rfl
  exec _ _ _ _ _ := rfl

def sqlBegin : StdString := ⟨[98, 101, 103, 105, 110, 59, 32], by decide⟩

def sqlBeginEnd : StdString := ⟨[98, 101, 103, 105, 110, 59, 101, 110, 100], by decide⟩

def sqlBeginNulEnd : StdString := ⟨[98, 101, 103, 105, 110, 0, 101, 110, 100], by decide⟩

open Connection in
theorem text_kept_iff_begin :
    KeepsStatement (queryString sqlBegin) (⟨[]⟩ : SemicolonText) sqlBegin ∧
      KeepsStatements (execString sqlBegin) (⟨[]⟩ : SemicolonText) sqlBegin := by
  obtain ⟨-, hquery, -, hexec⟩ :=
    text_kept_iff sqlTextLaws_semicolonText execLaws_semicolonText ⟨[]⟩ sqlBegin
  constructor
  · apply hquery.mpr
    rintro stmt used ⟨hcompiled, -⟩
    cases hcompiled
    decide
  · apply hexec.mpr
    intro _
    decide

open Connection in
/-- `query` runs `begin;` and says nothing about `end`, nor does `exec` when a NUL byte stands
between them. -/
theorem text_dropped_silently :
    ((queryString sqlBeginEnd (⟨[]⟩ : SemicolonText)).outcome.isOk = true ∧
        ¬ KeepsStatement (queryString sqlBeginEnd) (⟨[]⟩ : SemicolonText) sqlBeginEnd) ∧
      (execString sqlBeginNulEnd ((⟨[]⟩ : SemicolonText), ())).outcome.isOk = true ∧
      ¬ KeepsStatements (execString sqlBeginNulEnd) (⟨[]⟩ : SemicolonText) sqlBeginNulEnd := by
  refine ⟨⟨rfl, fun hkeeps => ?_⟩, rfl, fun hkeeps => ?_⟩
  · have hruns := queryString_runs sqlTextLaws_semicolonText ⟨[]⟩ sqlBeginEnd
    have hnothing := (keepsStatement_iff sqlTextLaws_semicolonText hruns).mp hkeeps
    exact absurd (hnothing _ _ ⟨rfl, Or.inr rfl⟩) (by decide)
  · have hnothing := (keepsStatements_iff sqlTextLaws_semicolonText execLaws_semicolonText ⟨[]⟩
      sqlBeginNulEnd).mp hkeeps
    exact absurd (hnothing rfl) (by decide)

end Sqxx
