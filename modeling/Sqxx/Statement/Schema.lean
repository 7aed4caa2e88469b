import Sqxx.Statement.Columns
import Sqxx.Statement.DoneFlag

/-!
# The lookup table under schema changes

A step that starts an execution may recompile the statement for a changed schema, and then its
columns are others.  The table of names is thrown away by `reset()` only.
-/

namespace Sqxx
open Framework

/-- `alter` is a change of the schema made through the connection. Nothing is assumed about when the
columns change. -/
class SchemaApi (T : Type) (Change : outParam Type) where
  columns : T → List CStr
  alter : Change → T → T

inductive SchemaEvent (Change : Type)
  | lookup (name : CStr)
  | lookupStd (name : StdString)
  | cursor (e : SessionEvent)
  | alter (change : Change)

/-- `builtFrom` are the columns there were at the first lookup since the last reset. -/
structure SchemaSession (T : Type) where
  session : Session T
  builtFrom : Option (List CStr)

namespace SchemaSession

variable {T Change : Type} [StepApi T] [ColumnNameApi T] [api : SchemaApi T Change]

def prepared (handle : T) : SchemaSession T := ⟨Session.prepared handle, none⟩

def columns (s : SchemaSession T) : List CStr := api.columns s.session.stmt.handle

def withStmt (s : SchemaSession T) (stmt : Statement T) (builtFrom : Option (List CStr)) :
    SchemaSession T :=
  ⟨{ s.session with stmt := stmt }, builtFrom⟩

def afterLookup (s : SchemaSession T) (name : CStr) : SchemaSession T :=
  s.withStmt (Statement.colIndex name s.session.stmt).final (some (s.builtFrom.getD s.columns))

def exec (s : SchemaSession T) : SchemaEvent Change → SchemaSession T
  | .lookup name => s.afterLookup name
  | .lookupStd name => s.afterLookup name.cStr
  | .cursor e => ⟨s.session.exec e, if e = .reset then none else s.builtFrom⟩
  | .alter change =>
    s.withStmt { s.session.stmt with handle := api.alter change s.session.stmt.handle } s.builtFrom

/-- Looking up the name of a current column answers the last column of that name. -/
def AnswersCurrent (s : SchemaSession T) (name : CStr) : Prop :=
  ∀ j, lastIndex name.bytes s.columns 0 = some j →
    (Statement.colIndex name s.session.stmt).outcome = .ok j

def LookupCurrent (s : SchemaSession T) : SchemaEvent Change → Prop
  | .lookup name => s.AnswersCurrent name
  | .lookupStd name =>
    ∀ j, lastIndex name.cStr.bytes s.columns 0 = some j →
      (Statement.colIndexStd name s.session.stmt).outcome = .ok j
  | .cursor _ | .alter _ => True

/-- A current column's name stands where it stood when the table was built; a name that was not
there then counts as column 0. -/
def NameStays (s : SchemaSession T) (name : CStr) : Prop :=
  ∀ built j, s.builtFrom = some built → lastIndex name.bytes s.columns 0 = some j →
    (lastIndex name.bytes built 0).getD 0 = j

def LookupUnmoved (s : SchemaSession T) : SchemaEvent Change → Prop
  | .lookup name => s.NameStays name
  | .lookupStd name => s.NameStays name.cStr
  | .cursor _ | .alter _ => True

/-- The table is what a lookup has built from the columns recorded, and unbuilt without any. -/
structure TableFrom (s : SchemaSession T) : Prop where
  built : s.session.stmt.colIndexTableBuilt = s.builtFrom.isSome
  sound : Statement.CacheSound (s.builtFrom.getD s.columns) s.session.stmt

omit [StepApi T] in
private theorem colIndex_of_tableFrom (hreports : ∀ t : T, ReportsColumns t (api.columns t))
    {s : SchemaSession T} (hs : s.TableFrom) (name : CStr) :
    (Statement.colIndex name s.session.stmt).outcome =
        .ok ((lastIndex name.bytes (s.builtFrom.getD s.columns) 0).getD 0) ∧
      (s.afterLookup name).TableFrom := by
  have hunbuilt : s.session.stmt.colIndexTableBuilt = false →
      ReportsColumns s.session.stmt.handle (s.builtFrom.getD s.columns) := by
    intro hbuilt
    rw [hs.built] at hbuilt
    rcases hfrom : s.builtFrom with _ | built
    · exact hreports _
    · rw [hfrom] at hbuilt
      cases hbuilt
  obtain ⟨hanswer, hsound, -, hbuilt⟩ := Statement.colIndex_run hunbuilt hs.sound name
  exact ⟨hanswer, hbuilt, hsound⟩

omit [StepApi T] in
theorem answersCurrent_iff (hreports : ∀ t : T, ReportsColumns t (api.columns t))
    {s : SchemaSession T} (hs : s.TableFrom) (name : CStr) :
    s.AnswersCurrent name ↔ s.NameStays name := by
  have hanswer := (colIndex_of_tableFrom hreports hs name).1
  rcases hfrom : s.builtFrom with _ | built
  · constructor
    · intro _ built j hbuilt
      rw [hfrom] at hbuilt
      cases hbuilt
    · intro _ j hj
      rw [hanswer, hfrom, Option.getD_none, hj]
      rfl
  · rw [hfrom, Option.getD_some] at hanswer
    constructor
    · intro hcurrent other j hother hj
      rw [hfrom] at hother
      cases hother
      have hok := hanswer.symm.trans (hcurrent j hj)
      exact Except.ok.inj hok
    · intro hstays j hj
      rw [hanswer, hstays built j hfrom hj]

omit [StepApi T] [ColumnNameApi T] in
private theorem tableFrom_of_sameTable {s : SchemaSession T} (hs : s.TableFrom)
    {session : Session T} (htable : session.stmt.colIndexTable = s.session.stmt.colIndexTable)
    (hbuilt : session.stmt.colIndexTableBuilt = s.session.stmt.colIndexTableBuilt) :
    TableFrom ⟨session, s.builtFrom⟩ := by
  refine ⟨hbuilt.trans hs.built, ?_, ?_⟩
  · intro hunbuilt
    rw [htable]
    exact hs.sound.unbuilt (hbuilt.symm.trans hunbuilt)
  · intro hyes name
    have hsound := hs.sound.built (hbuilt.symm.trans hyes) name
    rcases hfrom : s.builtFrom with _ | built
    · have hno := hs.built
      rw [hfrom, ← hbuilt, hyes] at hno
      cases hno
    · rw [hfrom] at hsound
      rw [htable]
      exact hsound

omit [ColumnNameApi T] in
private theorem cursor_table (session : Session T) (e : SessionEvent) (he : e ≠ .reset) :
    (session.exec e).stmt.colIndexTable = session.stmt.colIndexTable ∧
      (session.exec e).stmt.colIndexTableBuilt = session.stmt.colIndexTableBuilt := by
  have hstep : (Statement.step session.stmt).final.colIndexTable = session.stmt.colIndexTable ∧
      (Statement.step session.stmt).final.colIndexTableBuilt =
        session.stmt.colIndexTableBuilt := by
    rw [(Statement.step_run session.stmt).2]
    exact ⟨rfl, rfl⟩
  have hstmt := Session.exec_stmt session e
  cases e with
  | reset => exact absurd rfl he
  | clearBindings =>
    rw [hstmt, Statement.clearBindings_final]
    exact ⟨rfl, rfl⟩
  | beginIt => exact ⟨rfl, rfl⟩
  | increment i =>
    rcases hit : session.iters[i]? with _ | ⟨ptr, rowidx⟩
    · simp only [hit] at hstmt
      rw [hstmt]
      exact ⟨rfl, rfl⟩
    · cases ptr with
      | null =>
        simp only [hit] at hstmt
        rw [hstmt]
        exact ⟨rfl, rfl⟩
      | this =>
        simp only [hit] at hstmt
        rw [hstmt]
        exact hstep
  | _ => exact hstep

private theorem exec_tableFrom (hreports : ∀ t : T, ReportsColumns t (api.columns t))
    (s : SchemaSession T) (e : SchemaEvent Change) (hs : s.TableFrom) : (s.exec e).TableFrom := by
  cases e with
  | lookup name => exact (colIndex_of_tableFrom hreports hs name).2
  | lookupStd name => exact (colIndex_of_tableFrom hreports hs name.cStr).2
  | cursor e =>
    by_cases he : e = .reset
    · subst he
      change TableFrom ⟨s.session.exec .reset, none⟩
      have hreset := Statement.reset_final s.session.stmt
      refine ⟨?_, ?_⟩
      · change (Statement.reset s.session.stmt).final.colIndexTableBuilt = false
        rw [hreset]
      · exact Statement.cacheSound_reset _ _
    · obtain ⟨htable, hbuilt⟩ := cursor_table s.session e he
      have hkept := tableFrom_of_sameTable hs htable hbuilt
      rw [exec, if_neg he]
      exact hkept
  | alter change => exact tableFrom_of_sameTable hs rfl rfl

end SchemaSession

/-- Every lookup of the name of a current column answers that column in exactly the runs in which
every name looked up stands where it stood when the table was built. -/
theorem colIndex_current_iff {T Change : Type} [StepApi T] [ColumnNameApi T]
    [api : SchemaApi T Change] (hreports : ∀ t : T, ReportsColumns t (api.columns t)) (handle : T)
    (es : List (SchemaEvent Change)) :
    StepsMeet SchemaSession.exec SchemaSession.LookupCurrent (SchemaSession.prepared handle) es ↔
      StepsMeet SchemaSession.exec SchemaSession.LookupUnmoved (SchemaSession.prepared handle)
        es := by
  have hfresh : (SchemaSession.prepared handle).TableFrom :=
    ⟨rfl, Statement.cacheSound_prepared _ handle⟩
  refine stepsMeet_iff_of_preserved (fun s e hs => SchemaSession.exec_tableFrom hreports s e hs)
    ?_ hfresh es
  intro s e hs
  cases e with
  | lookup name => exact SchemaSession.answersCurrent_iff hreports hs name
  | lookupStd name => exact SchemaSession.answersCurrent_iff hreports hs name.cStr
  | cursor e => exact Iff.rfl
  | alter change => exact Iff.rfl

/-- Columns that an `int` can count. -/
structure ResultColumns where
  names : List CStr
  countable : names.length < 2 ^ 31

/-- A statement with its columns, those it gets when an execution starts, and whether it is in
one. -/
structure SelectAll where
  columns : ResultColumns
  recompiled : ResultColumns
  executing : Bool

instance : StepApi SelectAll where
  step t :=
    if t.executing then (SQLITE_DONE, { t with executing := false })
    else (SQLITE_ROW, { t with columns := t.recompiled, executing := true })
  reset t := (SQLITE_OK, { t with executing := false })
  clearBindings t := (SQLITE_OK, t)

instance : SchemaApi SelectAll ResultColumns where
  columns t := t.columns.names
  alter columns t := { t with recompiled := columns }

instance : ColumnNameApi SelectAll where
  columnCount t := Int32.ofNat t.columns.names.length
  columnName t i := t.columns.names[i]?

private theorem reportsColumns_selectAll (t : SelectAll) :
    ReportsColumns t (SchemaApi.columns t) := by
  constructor
  · exact Int32.toInt_ofNat_of_lt t.columns.countable
  · intro i hi
    exact List.getElem?_eq_getElem hi

def columnsId : ResultColumns := ⟨[nameId], by decide⟩
def columnsVId : ResultColumns := ⟨[nameV, nameId], by decide⟩

theorem colIndex_current_iff_id :
    let fresh := SchemaSession.prepared (⟨columnsId, columnsId, false⟩ : SelectAll)
    let es := [.cursor .step, .lookup nameId, .alter columnsVId, .cursor .reset, .cursor .step,
      .lookup nameId]
    StepsMeet SchemaSession.exec SchemaSession.LookupCurrent fresh es ↔
      StepsMeet SchemaSession.exec SchemaSession.LookupUnmoved fresh es :=
  colIndex_current_iff reportsColumns_selectAll _ _

/-- `id` is looked up, then a column is put before it, and the first step compiles the statement
again: `id` is still said to be column 0. -/
theorem colIndex_stale_after_recompile :
    ¬ StepsMeet SchemaSession.exec SchemaSession.LookupCurrent
      (SchemaSession.prepared (⟨columnsId, columnsId, false⟩ : SelectAll))
      [.lookup nameId, .alter columnsVId, .cursor .step, .lookup nameId] := by
  rintro ⟨-, -, -, hcurrent, -⟩
  have hanswer := hcurrent 1 (by decide)
  exact absurd hanswer (by decide)

end Sqxx
