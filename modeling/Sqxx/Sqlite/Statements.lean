import Sqxx.Datatypes
import Sqxx.Error

/-!
# The C library's side of a prepared statement

The library is a parameter.  `T` is the type of the states of one `sqlite3_stmt`; what the library
answers is whatever an instance says.  Results that need documented behaviour take it as a
hypothesis on the instance.
-/

namespace Sqxx

/-- How `sqlite3_prepare_v2` ends; for an empty text there is no statement. -/
inductive PrepareAnswer
  | compiled
  | blank
  | failed (rv : Int)
  deriving DecidableEq, Repr

/-- `sqlite3_step`, `sqlite3_reset` and `sqlite3_clear_bindings`: a result code and a new state. -/
class StepApi (T : Type) where
  step : T → Int × T
  reset : T → Int × T
  clearBindings : T → Int × T

/-- `sqlite3_column_count` and `sqlite3_column_name` (null when the library cannot say). -/
class ColumnNameApi (T : Type) where
  columnCount : T → Int32
  columnName : T → Nat → Option CStr

/-- In the state `t` the columns of the statement are `cols`. -/
structure ReportsColumns {T : Type} [ColumnNameApi T] (t : T) (cols : List CStr) : Prop where
  count : (ColumnNameApi.columnCount t).toInt = cols.length
  name : ∀ (i : Nat) (h : i < cols.length), ColumnNameApi.columnName t i = some cols[i]

/-- The columns of the statement are `cols` and stay so: every state reports them. -/
structure HasColumns (T : Type) [ColumnNameApi T] (cols : List CStr) : Prop where
  count : ∀ t : T, (ColumnNameApi.columnCount t).toInt = cols.length
  name : ∀ (t : T) (i : Nat) (h : i < cols.length), ColumnNameApi.columnName t i = some cols[i]

theorem HasColumns.reports {T : Type} [ColumnNameApi T] {cols : List CStr} (h : HasColumns T cols)
    (t : T) : ReportsColumns t cols :=
  ⟨h.count t, h.name t⟩

end Sqxx
