import Mathlib.Algebra.Group.Nat.Defs
import Mathlib.Data.List.Basic
import Mathlib.Data.List.GetD
import Mathlib.Data.List.TakeWhile

/-!
# Text, numbers, memory and blobs

`CStr` is what a `const char*` to NUL-terminated text denotes; its `fits` field is the bound of a
64-bit address space, so `strlen` and the conversions to `sqlite3_uint64` lose nothing.
-/

namespace Sqxx

abbrev Bytes := List UInt8

structure CStr where
  bytes : Bytes
  noNul : 0 ∉ bytes
  fits : bytes.length < 2 ^ 64
  deriving DecidableEq

/-- `std::string`: any bytes, embedded NULs included. -/
structure StdString where
  bytes : Bytes
  fits : bytes.length < 2 ^ 64
  deriving DecidableEq

/-- A `double`, by its bits. -/
structure Double where
  bits : UInt64
  deriving DecidableEq, Repr

def Double.zero : Double := ⟨0⟩

/-- The exponent is all ones and the fraction is not zero. -/
def Double.isNaN (d : Double) : Bool :=
  0x7ff0000000000000 < d.bits &&& 0x7fffffffffffffff

/-- The memory from some address on. -/
abbrev Pointer := Nat → UInt8

def readMem (p : Pointer) (n : Nat) : Bytes := (List.range n).map p

/-- Memory that starts with `bs` and goes on with zeros. -/
def memoryOf (bs : Bytes) : Pointer := fun i => bs.getD i 0

def CStr.pointer (s : CStr) : Pointer := memoryOf s.bytes

def strlen (s : CStr) : UInt64 := UInt64.ofNat s.bytes.length

def StdString.length (s : StdString) : UInt64 := UInt64.ofNat s.bytes.length

/-- `c_str()` points at all the bytes; read as a C string they end at the first NUL. -/
def StdString.pointer (s : StdString) : Pointer := memoryOf s.bytes

def StdString.cStr (s : StdString) : CStr where
  bytes := s.bytes.takeWhile (· ≠ 0)
  noNul h := by simpa using List.mem_takeWhile_imp h
  fits := Nat.lt_of_le_of_lt (List.takeWhile_sublist _).length_le s.fits

/-- `p` points at `bs` with a terminating NUL. -/
def PointsTo (p : Pointer) (bs : Bytes) : Prop :=
  readMem p bs.length = bs ∧ p bs.length = 0

structure Blob where
  data : Option Pointer
  length : UInt64

/-- `blob::blob(const void*, int)`: the `int` is converted to the 64-bit field. -/
def blob (dataArg : Option Pointer) (lengthArg : Int32) : Blob :=
  ⟨dataArg, lengthArg.toInt64.toUInt64⟩

/-- The bytes a blob stands for; one without data stands for zeros. -/
def Blob.bytes (b : Blob) : Bytes :=
  match b.data with
  | some p => readMem p b.length.toNat
  | none => List.replicate b.length.toNat 0

/-- The blob has the bytes `bs` in memory; without any the pointer does not matter. -/
def Blob.Holds (b : Blob) (bs : Bytes) : Prop :=
  b.length.toNat = bs.length ∧ (bs ≠ [] → ∃ p, b.data = some p ∧ readMem p bs.length = bs)

@[simp] theorem readMem_length (p : Pointer) (n : Nat) : (readMem p n).length = n := by
  simp [readMem]

theorem readMem_memoryOf (bs : Bytes) : readMem (memoryOf bs) bs.length = bs := by
  apply List.ext_getElem
  · simp
  · intro i hi hi'
    simp [readMem, memoryOf, hi']

theorem pointsTo_memoryOf (bs : Bytes) : PointsTo (memoryOf bs) bs :=
  ⟨readMem_memoryOf bs, by simp [memoryOf]⟩

theorem strlen_toNat (s : CStr) : (strlen s).toNat = s.bytes.length := by
  simpa [strlen] using Nat.mod_eq_of_lt s.fits

theorem StdString.length_toNat (s : StdString) : s.length.toNat = s.bytes.length := by
  simpa [StdString.length] using Nat.mod_eq_of_lt s.fits

theorem Blob.bytes_length (b : Blob) : b.bytes.length = b.length.toNat := by
  rcases h : b.data with _ | p <;> simp [Blob.bytes, h]

theorem CStr.ext_bytes {s t : CStr} (h : s.bytes = t.bytes) : s = t := by
  cases s
  cases t
  cases h
  rfl

theorem blob_length_toNat (p : Option Pointer) (n : Int32) (hn : 0 ≤ n.toInt) :
    (blob p n).length.toNat = n.toInt.toNat := by
  have hle : (0 : Int64) ≤ n.toInt64 := by
    rw [Int64.le_iff_toInt_le, Int32.toInt_toInt64]
    exact hn
  rw [blob, Int64.toNat_toUInt64_of_le hle, Int64.toNatClampNeg, Int32.toInt_toInt64]

end Sqxx
