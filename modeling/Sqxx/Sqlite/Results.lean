import Sqxx.Sqlite.Values

/-!
# Arguments and results of SQL functions

The `sqlite3_result_*` and `sqlite3_value_*` families, and the `sqlite3_column_*` family as it is
when an accessor may convert the value it reads in place.  `X` are the SQL values of all storage
classes, each in its present representation.
-/

namespace Sqxx

/-- `returned` is what the function returns to SQL, a value or the code of an error. -/
class ResultApi (C : Type) where
  returned : C → Except Int SqlValue
  resultNull : C → C
  resultInt : C → Int32 → C
  resultInt64 : C → Int64 → C
  resultDouble : C → Double → C
  resultText64 : C → Pointer → UInt64 → Destructor → C
  resultBlob64 : C → Pointer → UInt64 → Destructor → C
  resultZeroblob64 : C → UInt64 → Int × C

class ValueApi (V : Type) (X : outParam Type) where
  held : V → X
  valueInt : V → Int32 × V
  valueInt64 : V → Int64 × V
  valueDouble : V → Double × V
  valueText : V → Option Pointer × V
  valueBlob : V → Option Pointer × V
  valueBytes : V → Int32 × V

class ConvertingColumnApi (T : Type) (X : outParam Type) where
  held : T → Int32 → X
  columnInt : T → Int32 → Int32 × T
  columnInt64 : T → Int32 → Int64 × T
  columnDouble : T → Int32 → Double × T
  columnText : T → Int32 → Option Pointer × T
  columnBlob : T → Int32 → Option Pointer × T
  columnBytes : T → Int32 → Int32 × T

/-- A result call takes what the binding call takes, and fails with the code it fails with. -/
def StoresLike {T C : Type} [BindApi T] [ResultApi C] (i : Int32) (bound : Int × T) (c : C) :
    Prop :=
  (bound.1 = SQLITE_OK → ResultApi.returned c = .ok (BindApi.bound bound.2 i)) ∧
    (bound.1 ≠ SQLITE_OK → ResultApi.returned c = .error bound.1)

/-- Parameter `i` of `t` can be bound, so that binding fails only where returning a result does; of
text and blobs as long as memory can be. -/
structure StoresAlike {T C : Type} [BindApi T] [ResultApi C] (t : T) (i : Int32) (c : C) :
    Prop where
  null : StoresLike i (BindApi.bindNull t i) (ResultApi.resultNull c)
  int : ∀ v, StoresLike i (BindApi.bindInt t i v) (ResultApi.resultInt c v)
  int64 : ∀ v, StoresLike i (BindApi.bindInt64 t i v) (ResultApi.resultInt64 c v)
  double : ∀ d, StoresLike i (BindApi.bindDouble t i d) (ResultApi.resultDouble c d)
  text : ∀ p n d, n.toNat < 2 ^ 63 →
    StoresLike i (BindApi.bindText64 t i p n d) (ResultApi.resultText64 c p n d)
  blob : ∀ p n d, n.toNat < 2 ^ 63 →
    StoresLike i (BindApi.bindBlob64 t i p n d) (ResultApi.resultBlob64 c p n d)
  zeroblob : ∀ n, StoresLike i (BindApi.bindZeroblob64 t i n) (ResultApi.resultZeroblob64 c n).2

/-- The lengths that `StoresAlike` leaves out are treated alike, too. -/
structure StoresLongAlike {T C : Type} [BindApi T] [ResultApi C] (t : T) (i : Int32) (c : C) :
    Prop where
  text : ∀ p n d, 2 ^ 63 ≤ n.toNat →
    StoresLike i (BindApi.bindText64 t i p n d) (ResultApi.resultText64 c p n d)
  blob : ∀ p n d, 2 ^ 63 ≤ n.toNat →
    StoresLike i (BindApi.bindBlob64 t i p n d) (ResultApi.resultBlob64 c p n d)

/-- The value and the column hold the same. -/
def HoldSame {V T X : Type} [ValueApi V X] [ConvertingColumnApi T X] (i : Int32) (v : V) (t : T) :
    Prop :=
  ValueApi.held v = ConvertingColumnApi.held t i

/-- Two accessors answer the same and leave the same representation. -/
def ConvertsLike {V T X α : Type} [ValueApi V X] [ConvertingColumnApi T X] (i : Int32)
    (ofValue : V → α × V) (ofColumn : T → Int32 → α × T) : Prop :=
  ∀ v t, HoldSame i v t →
    (ofValue v).1 = (ofColumn t i).1 ∧ HoldSame i (ofValue v).2 (ofColumn t i).2

structure ConvertsAlike (V T : Type) {X : Type} [value : ValueApi V X]
    [column : ConvertingColumnApi T X] : Prop where
  int : ∀ i, ConvertsLike i value.valueInt column.columnInt
  int64 : ∀ i, ConvertsLike i value.valueInt64 column.columnInt64
  double : ∀ i, ConvertsLike i value.valueDouble column.columnDouble
  text : ∀ i, ConvertsLike i value.valueText column.columnText
  blob : ∀ i, ConvertsLike i value.valueBlob column.columnBlob
  bytes : ∀ i, ConvertsLike i value.valueBytes column.columnBytes

end Sqxx
