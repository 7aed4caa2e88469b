import Sqxx.Framework.Runs
import Sqxx.Sqlite.Blobs
import Mathlib.Algebra.Group.Int.Defs

/-!
# Blob streams

`blob_source` keeps the position and the length of a blob in two `int`s and is driven with 64-bit
counts and offsets.  A 64-bit sum that overflows has no defined value in the source; here it is
whatever `overflow` makes of the exact sum, and results hold for every such function.
-/

namespace Sqxx
open Framework

/-- `std::ios_base::seekdir`; the type has values besides the three named ones. -/
inductive SeekDir
  | beg
  | cur
  | fromEnd
  | other
  deriving DecidableEq, Repr

/-- `std::numeric_limits<int>::max()` as a `std::streamsize`. -/
def intMax : Int64 := Int32.maxValue.toInt64

/-- `x + y` of two 64-bit signed integers. -/
def addInt64 (overflow : Int → Int64) (x y : Int64) : Int64 :=
  if -2 ^ 63 ≤ x.toInt + y.toInt ∧ x.toInt + y.toInt < 2 ^ 63 then
    Int64.ofInt (x.toInt + y.toInt)
  else
    overflow (x.toInt + y.toInt)

structure BlobSource (B : Type) where
  handle : B
  pos : Int32
  len : Int32

namespace BlobSource

variable {B : Type} [api : BlobApi B]

def new (handleArg : B) : BlobSource B := ⟨handleArg, 0, api.blobBytes handleArg⟩

def readLimit (src : BlobSource B) (n : Int64) : Int32 :=
  let n := min n intMax
  min n.toInt32 (src.len - src.pos)

/-- The count it returns and the bytes in the buffer. -/
def read (n : Int64) : Cxx (BlobSource B) (Int64 × Bytes) := do
  let limit ← Prog.reading fun src => src.readLimit n
  let (rv, s) ← Prog.effect fun src =>
    let (answer, handle) := api.blobRead src.handle limit src.pos
    (answer, { src with handle := handle })
  Cxx.checkOk rv
  Prog.perform fun src => { src with pos := src.pos + limit }
  pure (limit.toInt64, s)

def write (s : Pointer) (n : Int64) : Cxx (BlobSource B) Int64 := do
  let limit := n.toInt32
  let rv ← Prog.effect fun src =>
    let (rv, handle) := api.blobWrite src.handle s limit src.pos
    (rv, { src with handle := handle })
  Cxx.checkOk rv
  Prog.perform fun src => { src with pos := src.pos + limit }
  pure limit.toInt64

/-- The `next` of a seek: a sum of 64-bit integers, stored in an `int`. -/
def next (overflow : Int → Int64) (src : BlobSource B) (off : Int64) : SeekDir → Option Int32
  | .beg => some off.toInt32
  | .cur => some (addInt64 overflow src.pos.toInt64 off).toInt32
  | .fromEnd => some (addInt64 overflow (addInt64 overflow src.len.toInt64 off) (-1)).toInt32
  | .other => none

def seek (overflow : Int → Int64) (off : Int64) (way : SeekDir) : Cxx (BlobSource B) Int64 := do
  let target ← Prog.reading fun src => src.next overflow off way
  match target with
  | none => Cxx.throw (.stdException "bad seek direction")
  | some next => do
    let len ← Prog.reading BlobSource.len
    if next < 0 ∨ len ≤ next then
      Cxx.throw (.stdException "bad seek offset")
    else do
      Prog.perform fun src => { src with pos := next }
      Prog.reading fun src => src.pos.toInt64

def close : Cxx (BlobSource B) Unit :=
  Prog.perform fun src => { src with handle := (api.blobClose src.handle).2 }

end BlobSource

/-- A 64-bit count of bytes; `std::streamsize` is signed. -/
abbrev StreamCount := { n : Int64 // 0 ≤ n.toInt }

inductive BlobCall
  | read (n : StreamCount)
  | write (s : Pointer) (n : StreamCount)
  | seek (off : Int64) (way : SeekDir)

namespace BlobSource

variable {B : Type} [api : BlobApi B]

def invoke (overflow : Int → Int64) : BlobCall → Cxx (BlobSource B) Int64
  | .read n => do
    let (count, _s) ← read n.val
    pure count
  | .write s n => write s n.val
  | .seek off way => seek overflow off way

/-- A throw leaves the stream for the next call. -/
def exec (overflow : Int → Int64) (src : BlobSource B) (c : BlobCall) : BlobSource B :=
  (invoke overflow c src).final

theorem toInt32_of_range {n : Int64} (hlo : -2 ^ 31 ≤ n.toInt) (hhi : n.toInt < 2 ^ 31) :
    n.toInt32.toInt = n.toInt := by
  rw [Int64.toInt_toInt32]
  exact Int.bmod_eq_of_le (by omega) (by omega)

private theorem intMax_toInt : intMax.toInt = 2 ^ 31 - 1 := by decide

private theorem min_toInt (a b : Int32) : (min a b).toInt = min a.toInt b.toInt := by
  change (if a ≤ b then a else b).toInt = _
  by_cases h : a ≤ b
  · rw [if_pos h, Int.min_eq_left (Int32.le_iff_toInt_le.mp h)]
  · rw [if_neg h, Int.min_eq_right (by rw [Int32.le_iff_toInt_le] at h; omega)]

private theorem min_intMax_toInt (n : Int64) : (min n intMax).toInt = min n.toInt (2 ^ 31 - 1) := by
  change (if n ≤ intMax then n else intMax).toInt = _
  by_cases h : n ≤ intMax
  · rw [if_pos h, Int.min_eq_left]
    rwa [Int64.le_iff_toInt_le, intMax_toInt] at h
  · rw [if_neg h, intMax_toInt, Int.min_eq_right]
    rw [Int64.le_iff_toInt_le, intMax_toInt] at h
    omega

/-- The position is in the blob or at its end. -/
structure Positioned (src : BlobSource B) : Prop where
  nonneg : 0 ≤ src.pos.toInt
  le : src.pos.toInt ≤ src.len.toInt

omit api in
theorem readLimit_toInt {src : BlobSource B} (hsrc : src.Positioned) {n : Int64}
    (hn : 0 ≤ n.toInt) :
    (src.readLimit n).toInt = min n.toInt (src.len.toInt - src.pos.toInt) := by
  obtain ⟨hpos, hle⟩ := hsrc
  have hlen := src.len.toInt_lt
  have hclamp : (min n intMax).toInt32.toInt = min n.toInt (2 ^ 31 - 1) := by
    rw [toInt32_of_range] <;> rw [min_intMax_toInt] <;> omega
  have hrest : (src.len - src.pos).toInt = src.len.toInt - src.pos.toInt := by
    rw [Int32.toInt_sub]
    exact Int.bmod_eq_of_le (by omega) (by omega)
  rw [readLimit, min_toInt, hclamp, hrest]
  omega

omit api in
theorem advance_toInt {src : BlobSource B} (hsrc : src.Positioned) {limit : Int32}
    (hlimit : 0 ≤ limit.toInt) (hle : src.pos.toInt + limit.toInt ≤ src.len.toInt) :
    (src.pos + limit).toInt = src.pos.toInt + limit.toInt := by
  have hlen := src.len.toInt_lt
  have hpos := hsrc.nonneg
  rw [Int32.toInt_add]
  exact Int.bmod_eq_of_le (by omega) (by omega)

/-- A read makes one call; the position moves only if it succeeds. -/
theorem read_cases (src : BlobSource B) (n : Int64) :
    let answer := api.blobRead src.handle (src.readLimit n) src.pos
    (answer.1.1 = SQLITE_OK ∧
        Prog.Ends (read n) src (.ok ((src.readLimit n).toInt64, answer.1.2))
          { src with handle := answer.2, pos := src.pos + src.readLimit n }) ∨
      (answer.1.1 ≠ SQLITE_OK ∧
        Prog.Ends (read n) src (.error (.exception (staticError answer.1.1)))
          { src with handle := answer.2 }) := by
  intro answer
  by_cases hok : answer.1.1 = SQLITE_OK
  · left
    refine ⟨hok, ?_⟩
    constructor <;> simp [read, Cxx.checkOk_run, answer, hok]
  · right
    refine ⟨hok, ?_⟩
    constructor <;> simp [read, Cxx.checkOk_run, answer, hok]

theorem write_cases (src : BlobSource B) (s : Pointer) (n : Int64) :
    let answer := api.blobWrite src.handle s n.toInt32 src.pos
    (answer.1 = SQLITE_OK ∧
        Prog.Ends (write s n) src (.ok n.toInt32.toInt64)
          { src with handle := answer.2, pos := src.pos + n.toInt32 }) ∨
      (answer.1 ≠ SQLITE_OK ∧
        Prog.Ends (write s n) src (.error (.exception (staticError answer.1)))
          { src with handle := answer.2 }) := by
  intro answer
  by_cases hok : answer.1 = SQLITE_OK
  · left
    refine ⟨hok, ?_⟩
    constructor <;> simp [write, Cxx.checkOk_run, answer, hok]
  · right
    refine ⟨hok, ?_⟩
    constructor <;> simp [write, Cxx.checkOk_run, answer, hok]

omit api in
/-- A seek moves to a `next` in the blob, and otherwise throws and moves nothing. -/
theorem seek_cases (overflow : Int → Int64) (src : BlobSource B) (off : Int64) (way : SeekDir) :
    (∃ t, src.next overflow off way = some t ∧ (0 ≤ t.toInt ∧ t.toInt < src.len.toInt) ∧
        Prog.Ends (seek overflow off way) src (.ok t.toInt64) { src with pos := t }) ∨
      ((∀ t, src.next overflow off way = some t → ¬ (0 ≤ t.toInt ∧ t.toInt < src.len.toInt)) ∧
        ∃ e, Prog.Ends (seek overflow off way) src (.error (.exception e)) src) := by
  rcases hnext : src.next overflow off way with _ | t
  · right
    refine ⟨fun t ht => (by cases ht), .stdException "bad seek direction", ?_, ?_⟩
    · simp [seek, hnext]
    · simp [seek, hnext]
  · have hzero : (t < 0) ↔ t.toInt < 0 := Int32.lt_iff_toInt_lt
    have hlen : (src.len ≤ t) ↔ src.len.toInt ≤ t.toInt := Int32.le_iff_toInt_le
    by_cases hbad : t < 0 ∨ src.len ≤ t
    · right
      rw [hzero, hlen] at hbad
      refine ⟨fun t' ht' => (by cases ht'; omega), .stdException "bad seek offset", ?_, ?_⟩
      · simp [seek, hnext, hzero, hlen, hbad]
      · simp [seek, hnext, hzero, hlen, hbad]
    · left
      rw [hzero, hlen] at hbad
      refine ⟨t, rfl, by omega, ?_, ?_⟩
      · simp [seek, hnext, hzero, hlen, hbad]
      · simp [seek, hnext, hzero, hlen, hbad]

end BlobSource

end Sqxx
