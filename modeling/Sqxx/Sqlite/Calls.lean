import Sqxx.Sqlite.Parameters
import Sqxx.Sqlite.Results
import Sqxx.Sqlite.Statements
import Mathlib.Data.Vector.Basic

/-!
# Calls of SQL functions

What the library does around a call.  The values it passes read back as what they hold; one call of
the result family says what the function returns; a statement that selects the call evaluates it on
its parameters.
-/

namespace Sqxx

def SQLITE_NOMEM : Int := 7

/-- With `sqlite3_result_error`, `sqlite3_result_error_code` and `sqlite3_result_error_nomem`. -/
class ErrorResultApi (C : Type) extends ResultApi C where
  resultError : C → String → C
  resultErrorCode : C → Int → C
  resultErrorNomem : C → C

def limited (limit size : Nat) (v : SqlValue) : Except Int SqlValue :=
  if size ≤ limit then .ok v else .error SQLITE_TOOBIG

/-- On the context `c` of a call every result is returned as it is given, unless it is above the
limit. -/
structure ResultLaws {C : Type} [api : ErrorResultApi C] (c : C) (limit : Nat) : Prop where
  null : api.returned (api.resultNull c) = .ok .null
  int : ∀ v, api.returned (api.resultInt c v) = .ok (.integer v.toInt64)
  int64 : ∀ v, api.returned (api.resultInt64 c v) = .ok (.integer v)
  double : ∀ d, api.returned (api.resultDouble c d) = .ok (.ofDouble d)
  text : ∀ p n d, api.returned (api.resultText64 c p n d) =
    limited limit n.toNat (.text (readMem p n.toNat))
  blob : ∀ p n d, api.returned (api.resultBlob64 c p n d) =
    limited limit n.toNat (.blob (readMem p n.toNat))
  zeroblob : ∀ n, api.returned (api.resultZeroblob64 c n).2 =
    limited limit n.toNat (.blob (List.replicate n.toNat 0))
  error : ∀ msg, api.returned (api.resultError c msg) = .error SQLITE_ERROR
  errorCode : ∀ code, code ≠ SQLITE_OK → api.returned (api.resultErrorCode c code) = .error code
  errorNomem : api.returned (api.resultErrorNomem c) = .error SQLITE_NOMEM

/-- A value within the limit reads back as what it holds, each type through its own accessors, and
keeps its representation then.  NULL reads as zero. -/
structure ValueLaws (V : Type) [api : ValueApi V SqlValue] (limit : Nat) : Prop where
  int : ∀ v n, api.held v = .integer n → (api.valueInt v).1 = n.toInt32
  int64 : ∀ v n, api.held v = .integer n → (api.valueInt64 v).1 = n
  double : ∀ v d, api.held v = .real d → (api.valueDouble v).1 = d
  double_null : ∀ v, api.held v = .null → (api.valueDouble v).1 = .zero
  text_null : ∀ v, api.held v = .null → (api.valueText v).1 = none
  text : ∀ v bs, api.held v = .text bs → bs.length ≤ limit →
    (∃ p, (api.valueText v).1 = some p ∧ PointsTo p bs) ∧ api.held (api.valueText v).2 = .text bs
  text_bytes : ∀ v bs, api.held v = .text bs → bs.length ≤ limit →
    (api.valueBytes v).1.toInt = bs.length
  blob : ∀ v bs, api.held v = .blob bs → bs.length ≤ limit →
    (bs ≠ [] → ∃ p, (api.valueBlob v).1 = some p ∧ readMem p bs.length = bs) ∧
      api.held (api.valueBlob v).2 = .blob bs
  blob_bytes : ∀ v bs, api.held v = .blob bs → bs.length ≤ limit →
    (api.valueBytes v).1.toInt = bs.length

/-- An error that `sqlite3_step` reports with the same code: neither an extended code, which it
cuts, nor one that says there is no error. -/
def IsErrorCode (rv : Int) : Prop := 0 < rv ∧ rv < 256 ∧ rv ≠ SQLITE_ROW ∧ rv ≠ SQLITE_DONE

instance (rv : Int) : Decidable (IsErrorCode rv) := inferInstanceAs (Decidable (_ ∧ _))

/-- The row of the next step has the value in column `c`, or the step fails with the error. -/
def StepAnswers {T : Type} [StepApi T] [ColumnApi T] (t : T) (c : Int32) :
    Except Int SqlValue → Prop
  | .ok x => (StepApi.step t).1 = SQLITE_ROW ∧ ColumnApi.column (StepApi.step t).2 c = x
  | .error rv => IsErrorCode rv → (StepApi.step t).1 = rv

/-- The statement selects, in column `c`, a call on its first `n` parameters of a function that
answers `reply`: the first step makes the call on values that hold what the parameters do. -/
def SelectsCall (T : Type) {V : Type} [api : ParamApi T] [StepApi T] [ColumnApi T]
    [ValueApi V SqlValue] (n : Nat) (c : Int32) (reply : List V → Except Int SqlValue) : Prop :=
  ∀ (t : T) (xs : List.Vector SqlValue n), api.stepped t = false →
    (∀ i : Fin n, api.bound t (Int32.ofNat (i + 1)) = xs.get i) →
      ∃ argv : List.Vector V n, (∀ i, ValueApi.held (argv.get i) = xs.get i) ∧
        StepAnswers t c (reply argv.toList)

/-- The next step evaluates, in column `c`, an aggregate that answers `reply` on the rows of a
table: on values that hold what the table does. -/
def SelectsGroup {T V : Type} [StepApi T] [ColumnApi T] [ValueApi V SqlValue] {n : Nat} (c : Int32)
    (table : List (List.Vector SqlValue n)) (reply : List (List V) → Except Int SqlValue) (t : T) :
    Prop :=
  ∃ rows : List (List.Vector V n),
    List.Forall₂ (fun argv xs => ∀ i, ValueApi.held (argv.get i) = xs.get i) rows table ∧
      StepAnswers t c (reply (rows.map List.Vector.toList))

end Sqxx
