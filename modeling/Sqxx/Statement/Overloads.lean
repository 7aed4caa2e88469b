import Sqxx.Framework.Calls
import Sqxx.Statement.Columns
import Sqxx.Statement.Parameters

/-!
# Overloads by name

The members that take the name of a parameter or of a column forward to each other: the ones for a
`std::string` to those for a `const char*`, these to the ones for an index.  One forwards to itself.
-/

namespace Sqxx
open Framework

abbrev DbType.Result : DbType → Type
  | .int => Int32
  | .int64 => Int64
  | .double => Double
  | .charPtr => Option Pointer
  | .string => StdString
  | .blob => Blob

def CStr.toStd (s : CStr) : StdString := ⟨s.bytes, s.fits⟩

/-- A call by name, short of the name. -/
inductive NameCall
  | paramIndex
  | param
  | bind (form : BindForm)
  | colIndex
  | col
  | val (ty : DbType)

namespace NameCall

abbrev Result : NameCall → Type
  | .paramIndex => Int32
  | .param => Parameter
  | .bind _ => Unit
  | .colIndex => Int
  | .col => Int
  | .val ty => ty.Result

/-- The overload for a `std::string` compiles: `val` calls `c_str()` on what it returns. -/
def Compiles : NameCall → Prop
  | .val ty => ty = .string
  | _ => True

def IsVal : NameCall → Prop
  | .val _ => True
  | _ => False

end NameCall

/-- A call of an overload: by the name as a `const char*` or as a `std::string`, or by an index. -/
inductive Overload
  | byName (c : NameCall) (name : CStr)
  | byString (c : NameCall) (name : StdString) (h : c.Compiles)
  | paramAt (idx : Int32)
  | bindAt (form : BindForm) (idx : Int32)
  | colAt (idx : Int)
  | valAt (ty : DbType) (idx : Int)

namespace Statement

variable {T : Type} [ColumnNameApi T] [params : ParamApi T] [columns : ColumnApi T]

def valOf (ty : DbType) (idx : Int32) : Cxx (Statement T) (ty.Result) :=
  match ty with
  | .int => Prog.reading (valInt idx)
  | .int64 => Prog.reading (valInt64 idx)
  | .double => Prog.reading (valDouble idx)
  | .charPtr => Prog.reading (valCharPtr idx)
  | .string => do
    match ← Prog.reading (valString idx) with
    | .ok v => pure v
    | .error e => Prog.raise e
  | .blob => Prog.reading (valBlob idx)

end Statement

namespace Overload

variable {T : Type} [ColumnNameApi T] [params : ParamApi T] [columns : ColumnApi T]

abbrev Result : Overload → Type
  | .byName c _ => c.Result
  | .byString c _ _ => c.Result
  | .paramAt _ => Parameter
  | .bindAt _ _ => Unit
  | .colAt _ => Int
  | .valAt ty _ => ty.Result

/-- The code of an overload, with the calls it makes of others. -/
abbrev Body (T : Type) (k : Overload) : Type 1 :=
  Code (Overload) Result (Statement T) Raised k.Result

def overload (k : Overload) : Body T k := Code.callOf k

def nameBody (name : CStr) : (c : NameCall) → Body T (.byName c name)
  | .paramIndex => Code.perform (Statement.paramIndex name)
  | .param => do
    let idx ← overload (.byName .paramIndex name)
    overload (.paramAt idx)
  | .bind form => do
    let idx ← overload (.byName .paramIndex name)
    overload (.bindAt form idx)
  | .colIndex => Code.perform (Statement.colIndex name)
  | .col => do
    let idx ← overload (.byName .colIndex name)
    overload (.colAt idx)
  | .val ty => do
    let idx ← overload (.byName .colIndex name)
    overload (.valAt ty idx)

/-- The overloads for a `std::string`. `val` passes `name` itself on, so that the overload that is
called is the same one; `c_str()` is applied to what that returns. -/
def stringBody (name : StdString) :
    (c : NameCall) → (h : c.Compiles) → Body T (.byString c name h)
  | .paramIndex, _ => overload (.byName .paramIndex name.cStr)
  | .param, _ => overload (.byName .param name.cStr)
  | .bind form, _ => overload (.byName (.bind form) name.cStr)
  | .colIndex, _ => overload (.byName .colIndex name.cStr)
  | .col, _ => overload (.byName .col name.cStr)
  | .val .string, h => do
    let v ← overload (.byString (.val .string) name h)
    pure (StdString.cStr v).toStd
  | .val .int, h => nomatch h
  | .val .int64, h => nomatch h
  | .val .double, h => nomatch h
  | .val .charPtr, h => nomatch h
  | .val .blob, h => nomatch h

def body : (k : Overload) → Body T k
  | .byName c name => nameBody name c
  | .byString c name h => stringBody name c h
  | .paramAt idx => pure (Statement.param idx)
  | .bindAt form idx => Code.perform (form.bind idx)
  | .colAt idx => pure idx
  | .valAt ty idx => Code.perform (Statement.valOf ty (Int32.ofInt idx))

def meaningOf (name : CStr) : (c : NameCall) → Cxx (Statement T) c.Result
  | .paramIndex => Statement.paramIndex name
  | .param => Statement.paramByName name
  | .bind form => form.bindByName name
  | .colIndex => Statement.colIndex name
  | .col => Statement.col name
  | .val ty => do
    let idx ← Statement.colIndex name
    Statement.valOf ty (Int32.ofInt idx)

def meaning : (k : Overload) → Cxx (Statement T) k.Result
  | .byName c name => meaningOf name c
  | .byString c name _ => meaningOf name.cStr c
  | .paramAt idx => pure (Statement.param idx)
  | .bindAt form idx => form.bind idx
  | .colAt idx => pure idx
  | .valAt ty idx => Statement.valOf ty (Int32.ofInt idx)

/-- The overload is not `val` for a `std::string`. -/
def Forwards : Overload → Prop
  | .byString c _ _ => ¬ c.IsVal
  | _ => True

/-- Each overload calls only such of lower rank. -/
def rank : Overload → Nat
  | .byString _ _ _ => 2
  | .byName .paramIndex _ | .byName .colIndex _ => 0
  | .byName _ _ => 1
  | _ => 0

omit [ColumnNameApi T] params columns in
private theorem rank_byName (c : NameCall) (name : CStr) : rank (.byName c name) < 2 := by
  cases c with
  | paramIndex | colIndex => exact Nat.zero_lt_two
  | param | bind | col | val => exact Nat.one_lt_two

private theorem body_callsOnly (k : Overload) (hk : k.Forwards) :
    (body k : Body T k).CallsOnly fun j => j.Forwards ∧ rank j < rank k := by
  have hone : 0 < 1 := Nat.zero_lt_one
  cases k with
  | byName c name =>
    cases c with
    | paramIndex | colIndex => exact Code.callsOnly_perform _ _
    | param | bind form | col | val ty =>
      apply Code.callsOnly_callOf_bind ⟨trivial, hone⟩
      intro idx
      exact Code.callsOnly_callOf ⟨trivial, hone⟩
  | byString c name h =>
    cases c with
    | val ty => exact (hk trivial).elim
    | _ => exact Code.callsOnly_callOf ⟨trivial, rank_byName _ name.cStr⟩
  | paramAt idx | colAt idx => trivial
  | bindAt form idx | valAt ty idx => exact Code.callsOnly_perform _ _

private theorem body_meaning (k : Overload) (hk : k.Forwards) :
    (body k : Body T k).run meaning = meaning k := by
  cases k with
  | byName c name =>
    cases c with
    | paramIndex | colIndex => exact Code.run_perform meaning _
    | param | bind form =>
      exact congrArg (Statement.paramIndex name >>= ·) (funext fun _ => Code.run_callOf meaning _)
    | col =>
      have hidx : ∀ idx, (overload (colAt idx) : Body T (colAt idx)).run meaning = pure idx :=
        fun idx => Code.run_callOf meaning (colAt idx)
      exact (congrArg (Statement.colIndex name >>= ·) (funext hidx)).trans (Prog.bind_pure _)
    | val ty =>
      exact congrArg (Statement.colIndex name >>= ·) (funext fun _ => Code.run_callOf meaning _)
  | byString c name h =>
    cases c with
    | val ty => exact (hk trivial).elim
    | _ => exact Code.run_callOf meaning _
  | paramAt idx | colAt idx => rfl
  | bindAt form idx | valAt ty idx => exact Code.run_perform meaning _

theorem returns_iff (k : Overload) (hk : k.Forwards) (st : Statement T)
    (r : Exec (Statement T) Raised k.Result) : Returns body k st r ↔ r = meaning k st :=
  returns_iff_of_rank body_callsOnly body_meaning hk

/-- `val` for a `std::string` calls itself before it does anything else. -/
theorem val_not_returns {c : NameCall} (hval : c.IsVal) (h : c.Compiles) (name : StdString)
    (st : Statement T) (r : Exec (Statement T) Raised c.Result) :
    ¬ Returns body (.byString c name h) st r := by
  let stuck : Overload → Prop := fun k => ∃ c name h, k = .byString c name h ∧ c.IsVal
  have hstuck : ∀ k, stuck k → ∃ j next, stuck j ∧ (body k : Body T k) = .call j next := by
    rintro _ ⟨c, name, h, rfl, hval⟩
    cases c with
    | val ty =>
      have hty : ty = .string := h
      subst hty
      exact ⟨_, _, ⟨.val .string, name, h, rfl, hval⟩, rfl⟩
    | _ => exact hval.elim
  exact not_returns_of_stuck hstuck ⟨c, name, h, rfl, hval⟩

/-- The overload for a `std::string` comes back as the one for its `c_str()` does. -/
def Agree (c : NameCall) (h : c.Compiles) (name : StdString) (st : Statement T) : Prop :=
  ∃ r, Returns body (.byString c name h) st r ∧ Returns body (.byName c name.cStr) st r

end Overload

/-- The overloads for a `std::string` that compile come back, and as the ones for its `c_str()` do,
except for `val`; and `val` by a name is `val` at the index the name has. -/
theorem name_overloads_agree_iff {T : Type} [ColumnNameApi T] [ParamApi T] [ColumnApi T]
    (c : NameCall) (h : c.Compiles) (name : StdString) (st : Statement T) :
    (Overload.Agree c h name st ↔ ¬ c.IsVal) ∧
      ∀ (ty : DbType) (name : CStr) (r : Exec (Statement T) Raised (ty.Result)),
        Returns Overload.body (.byName (.val ty) name) st r ↔
          r = (do
            let idx ← Statement.colIndex name
            Statement.valOf ty (Int32.ofInt idx) : Cxx (Statement T) (ty.Result)) st := by
  refine ⟨⟨?_, ?_⟩, ?_⟩
  · rintro ⟨r, hstring, -⟩ hval
    exact Overload.val_not_returns hval h name st r hstring
  · intro hno
    refine ⟨Overload.meaningOf name.cStr c st, ?_, ?_⟩
    · exact (Overload.returns_iff (.byString c name h) hno st _).mpr rfl
    · exact (Overload.returns_iff (.byName c name.cStr) trivial st _).mpr rfl
  · intro ty name r
    exact Overload.returns_iff (.byName (.val ty) name) trivial st r

/-! ## The columns of `select :a, ?` -/

def TwoParams.nameMark : CStr := ⟨[63], by decide, by decide⟩

instance : ColumnNameApi TwoParams where
  columnCount _ := 2
  columnName _ i := [TwoParams.nameA, TwoParams.nameMark][i]?

def twoParamsRow : Statement TwoParams :=
  Statement.prepared ⟨.onRow, fun _ => .text [104, 105]⟩

theorem name_overloads_agree_iff_bind :
    let form : BindForm := .value (.int 7) true
    Overload.Agree (.bind form) trivial TwoParams.nameA.toStd twoParamsRow ↔
      ¬ (NameCall.bind form).IsVal :=
  (name_overloads_agree_iff (.bind (.value (.int 7) true)) trivial TwoParams.nameA.toStd
    twoParamsRow).1

/-- The column `:a` of the row is `hi` by a C string; by a `std::string` there is no answer. -/
theorem val_string_not_returns :
    let name := TwoParams.nameA.toStd
    (∃ r, Returns Overload.body (.byName (.val .string) name.cStr) twoParamsRow r ∧
        r.outcome = .ok ⟨[104, 105], by decide⟩) ∧
      ∀ r, ¬ Returns Overload.body (.byString (.val .string) name rfl) twoParamsRow r := by
  intro name
  constructor
  · refine ⟨_, (Overload.returns_iff (.byName (.val .string) name.cStr) trivial _ _).mpr rfl, ?_⟩
    decide
  · intro r
    exact Overload.val_not_returns (c := .val .string) trivial rfl name twoParamsRow r

end Sqxx
