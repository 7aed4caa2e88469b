import Sqxx.Datatypes
import Sqxx.Error

/-!
# Values inside the C library

A bound parameter and a result column hold an SQL value.  The binding functions are given memory
and a length; with `SQLITE_TRANSIENT` they copy the bytes before they return.
-/

namespace Sqxx

inductive SqlValue
  | null
  | integer (n : Int64)
  | real (d : Double)
  | text (bs : Bytes)
  | blob (bs : Bytes)
  deriving DecidableEq, Repr

/-- A NaN is stored as NULL. -/
def SqlValue.ofDouble (d : Double) : SqlValue := if d.isNaN then .null else .real d

/-- What a double reads as when it was stored: NULL reads as zero. -/
def Double.readBack (d : Double) : Double := if d.isNaN then .zero else d

inductive Destructor
  | static
  | transient
  deriving DecidableEq, Repr

/-- The `sqlite3_bind_*` family on one statement. `bound` tells what a parameter holds; it is no
function of the library. -/
class BindApi (T : Type) where
  bound : T → Int32 → SqlValue
  bindNull : T → Int32 → Int × T
  bindInt : T → Int32 → Int32 → Int × T
  bindInt64 : T → Int32 → Int64 → Int × T
  bindDouble : T → Int32 → Double → Int × T
  bindText64 : T → Int32 → Pointer → UInt64 → Destructor → Int × T
  bindBlob64 : T → Int32 → Pointer → UInt64 → Destructor → Int × T
  bindZeroblob64 : T → Int32 → UInt64 → Int × T

/-- The `sqlite3_column_*` family on the current row. `column` tells what a column holds. -/
class ColumnApi (T : Type) where
  column : T → Int32 → SqlValue
  columnInt : T → Int32 → Int32
  columnInt64 : T → Int32 → Int64
  columnDouble : T → Int32 → Double
  columnText : T → Int32 → Option Pointer
  columnBlob : T → Int32 → Option Pointer
  columnBytes : T → Int32 → Int32

/-- A successful call has stored `v` in parameter `i`. -/
def Stores {T : Type} [BindApi T] (i : Int32) (v : SqlValue) (r : Int × T) : Prop :=
  r.1 = SQLITE_OK → BindApi.bound r.2 i = v

/-- The library stores what it is given, byte for byte, and rejects lengths above `limit`. No text
and no blob in memory has as many as `2 ^ 63` bytes; the laws are about shorter ones. -/
structure BindLaws (T : Type) [BindApi T] (limit : Nat) : Prop where
  null : ∀ (t : T) i, Stores i .null (BindApi.bindNull t i)
  int : ∀ (t : T) i v, Stores i (.integer v.toInt64) (BindApi.bindInt t i v)
  int64 : ∀ (t : T) i v, Stores i (.integer v) (BindApi.bindInt64 t i v)
  double : ∀ (t : T) i d, Stores i (.ofDouble d) (BindApi.bindDouble t i d)
  text : ∀ (t : T) i p n, n.toNat < 2 ^ 63 →
    Stores i (.text (readMem p n.toNat)) (BindApi.bindText64 t i p n .transient)
  blob : ∀ (t : T) i p n, n.toNat < 2 ^ 63 →
    Stores i (.blob (readMem p n.toNat)) (BindApi.bindBlob64 t i p n .transient)
  zeroblob : ∀ (t : T) i n,
    Stores i (.blob (List.replicate n.toNat 0)) (BindApi.bindZeroblob64 t i n)
  text_limit : ∀ (t : T) i p n, n.toNat < 2 ^ 63 →
    (BindApi.bindText64 t i p n .transient).1 = SQLITE_OK → n.toNat ≤ limit
  blob_limit : ∀ (t : T) i p n, n.toNat < 2 ^ 63 →
    (BindApi.bindBlob64 t i p n .transient).1 = SQLITE_OK → n.toNat ≤ limit
  zeroblob_limit : ∀ (t : T) i n,
    (BindApi.bindZeroblob64 t i n).1 = SQLITE_OK → n.toNat ≤ limit

/-- The library rejects the lengths that `BindLaws` leaves out, too. -/
structure RejectsLong (T : Type) [BindApi T] : Prop where
  text : ∀ (t : T) i p n, 2 ^ 63 ≤ n.toNat →
    (BindApi.bindText64 t i p n .transient).1 ≠ SQLITE_OK
  blob : ∀ (t : T) i p n, 2 ^ 63 ≤ n.toNat →
    (BindApi.bindBlob64 t i p n .transient).1 ≠ SQLITE_OK

/-- Columns within the limit read back as stored, each type through its own accessors. A blob
without bytes has no address, and NULL reads as zero. -/
structure ColumnLaws (T : Type) [ColumnApi T] (limit : Nat) : Prop where
  int : ∀ (t : T) c n, ColumnApi.column t c = .integer n → ColumnApi.columnInt t c = n.toInt32
  int64 : ∀ (t : T) c n, ColumnApi.column t c = .integer n → ColumnApi.columnInt64 t c = n
  double : ∀ (t : T) c d, ColumnApi.column t c = .real d → ColumnApi.columnDouble t c = d
  double_null : ∀ (t : T) c, ColumnApi.column t c = .null → ColumnApi.columnDouble t c = .zero
  text_null : ∀ (t : T) c, ColumnApi.column t c = .null → ColumnApi.columnText t c = none
  text : ∀ (t : T) c bs, ColumnApi.column t c = .text bs → bs.length ≤ limit →
    (∃ p, ColumnApi.columnText t c = some p ∧ PointsTo p bs) ∧
      (ColumnApi.columnBytes t c).toInt = bs.length
  blob : ∀ (t : T) c bs, ColumnApi.column t c = .blob bs → bs.length ≤ limit →
    (bs = [] → ColumnApi.columnBlob t c = none) ∧
      (bs ≠ [] → ∃ p, ColumnApi.columnBlob t c = some p ∧ readMem p bs.length = bs) ∧
      (ColumnApi.columnBytes t c).toInt = bs.length

namespace SqlValue

def size : SqlValue → Nat
  | .null | .integer _ | .real _ => 0
  | .text bs => bs.length
  | .blob bs => bs.length

/-- The representation as text: an integer is converted to digits. There is none of a real here. -/
def toText : SqlValue → Option Pointer × SqlValue
  | .null => (none, .null)
  | .integer n => (some (memoryOf (toString n).toUTF8.data.toList),
      .text (toString n).toUTF8.data.toList)
  | .real d => (none, .real d)
  | .text bs => (some (memoryOf bs), .text bs)
  | .blob bs => (some (memoryOf bs), .text bs)

def toBlob : SqlValue → Option Pointer × SqlValue
  | .text bs => (if bs = [] then none else some (memoryOf bs), .text bs)
  | .blob bs => (if bs = [] then none else some (memoryOf bs), .blob bs)
  | x => toText x

def toBytes : SqlValue → Int32 × SqlValue
  | .text bs => (Int32.ofNat bs.length, .text bs)
  | .blob bs => (Int32.ofNat bs.length, .blob bs)
  | x => (Int32.ofNat (toText x).2.size, (toText x).2)

def toInt64 : SqlValue → Int64 × SqlValue
  | .integer n => (n, .integer n)
  | x => (0, x)

def toDouble : SqlValue → Double × SqlValue
  | .real d => (d, .real d)
  | x => (.zero, x)

end SqlValue

def SQLITE_MAX_LENGTH : Nat := 1000000000

theorem int32_length {bs : Bytes} (h : bs.length ≤ SQLITE_MAX_LENGTH) :
    (Int32.ofNat bs.length).toInt = bs.length := by
  apply Int32.toInt_ofNat_of_lt
  rw [SQLITE_MAX_LENGTH] at h
  omega

namespace ColumnApi

variable {T : Type} (cell : T → Int32 → SqlValue)

@[reducible] def ofCells : ColumnApi T where
  column := cell
  columnInt t c := (cell t c).toInt64.1.toInt32
  columnInt64 t c := (cell t c).toInt64.1
  columnDouble t c := (cell t c).toDouble.1
  columnText t c := (cell t c).toText.1
  columnBlob t c := (cell t c).toBlob.1
  columnBytes t c := (cell t c).toBytes.1

theorem ofCells_columnLaws : @ColumnLaws T (ofCells cell) SQLITE_MAX_LENGTH := by
  refine @ColumnLaws.mk T (ofCells cell) _ ?_ ?_ ?_ ?_ ?_ ?_ ?_
  · intro t c n hcell
    have hcell : cell t c = .integer n := hcell
    simp [columnInt, hcell, SqlValue.toInt64]
  · intro t c n hcell
    have hcell : cell t c = .integer n := hcell
    simp [columnInt64, hcell, SqlValue.toInt64]
  · intro t c d hcell
    have hcell : cell t c = .real d := hcell
    simp [columnDouble, hcell, SqlValue.toDouble]
  · intro t c hcell
    have hcell : cell t c = .null := hcell
    simp [columnDouble, hcell, SqlValue.toDouble]
  · intro t c hcell
    have hcell : cell t c = .null := hcell
    simp [columnText, hcell, SqlValue.toText]
  · intro t c bs hcell hbs
    have hcell : cell t c = .text bs := hcell
    simp only [columnText, columnBytes, hcell]
    exact ⟨⟨_, rfl, pointsTo_memoryOf bs⟩, int32_length hbs⟩
  · intro t c bs hcell hbs
    have hcell : cell t c = .blob bs := hcell
    simp only [columnBlob, columnBytes, hcell]
    refine ⟨fun hnil => if_pos hnil, fun hne => ?_, int32_length hbs⟩
    exact ⟨_, if_neg hne, readMem_memoryOf bs⟩

end ColumnApi

end Sqxx
