import Sqxx.Blob.Source

/-!
# Seeking in a blob stream

The position a seek asks for is an exact integer.  The code computes it in 64 bits and stores it
in an `int` before it looks at the range, so that an offset far outside the blob can come out
inside.
-/

namespace Sqxx
open Framework

def InInt64 (x : Int) : Prop := -2 ^ 63 ≤ x ∧ x < 2 ^ 63

/-- What storing an integer in an `int` makes of it. -/
def narrowed (x : Int) : Int := x.bmod (2 ^ 32)

namespace BlobSource

variable {B : Type}

/-- The position asked for. The last byte is `0` from the end minus one. -/
def target (src : BlobSource B) (off : Int64) : SeekDir → Option Int
  | .beg => some off.toInt
  | .cur => some (src.pos.toInt + off.toInt)
  | .fromEnd => some (src.len.toInt + off.toInt - 1)
  | .other => none

/-- `seek` goes to the target if it is in the blob and returns it, and throws otherwise. -/
def SeeksTo (overflow : Int → Int64) (src : BlobSource B) (off : Int64) (way : SeekDir) : Prop :=
  match src.target off way with
  | some t =>
    if 0 ≤ t ∧ t < src.len.toInt then
      ∃ pos : Int32, pos.toInt = t ∧
        Prog.Ends (seek overflow off way) src (.ok pos.toInt64) { src with pos := pos }
    else
      ∃ e, Prog.Ends (seek overflow off way) src (.error (.exception e)) src
  | none => ∃ e, Prog.Ends (seek overflow off way) src (.error (.exception e)) src

/-- The sums a seek computes in 64 bits do not overflow. -/
def SumsFit (src : BlobSource B) (off : Int64) : SeekDir → Prop
  | .beg | .other => True
  | .cur => InInt64 (src.pos.toInt + off.toInt)
  | .fromEnd => InInt64 (src.len.toInt + off.toInt) ∧ InInt64 (src.len.toInt + off.toInt - 1)

/-- A target outside the blob is still outside when it is stored in an `int`. -/
def StaysOutside (src : BlobSource B) (off : Int64) (way : SeekDir) : Prop :=
  ∀ t, src.target off way = some t → ¬ (0 ≤ t ∧ t < src.len.toInt) →
    ¬ (0 ≤ narrowed t ∧ narrowed t < src.len.toInt)

/-- The blob has no bytes, or the target is computed without overflow and does not wrap into it. -/
def SeekSafe (src : BlobSource B) (off : Int64) (way : SeekDir) : Prop :=
  src.len.toInt ≤ 0 ∨ (src.SumsFit off way ∧ src.StaysOutside off way)

private theorem addInt64_toInt (overflow : Int → Int64) {x y : Int64}
    (h : InInt64 (x.toInt + y.toInt)) : (addInt64 overflow x y).toInt = x.toInt + y.toInt := by
  rw [addInt64, if_pos (And.intro h.1 h.2)]
  exact Int64.toInt_ofInt_of_le h.1 h.2

private theorem addInt64_overflow (overflow : Int → Int64) {x y : Int64}
    (h : ¬ InInt64 (x.toInt + y.toInt)) : addInt64 overflow x y = overflow (x.toInt + y.toInt) :=
  if_neg h

theorem next_of_sumsFit (overflow : Int → Int64) {src : BlobSource B} {off : Int64}
    {way : SeekDir} (hfit : src.SumsFit off way) {t : Int} (ht : src.target off way = some t) :
    ∃ next, src.next overflow off way = some next ∧ next.toInt = narrowed t := by
  cases way with
  | beg =>
    cases ht
    exact ⟨_, rfl, Int64.toInt_toInt32 off⟩
  | cur =>
    cases ht
    refine ⟨_, rfl, ?_⟩
    rw [Int64.toInt_toInt32, addInt64_toInt overflow (by rwa [Int32.toInt_toInt64]),
      Int32.toInt_toInt64, narrowed]
  | fromEnd =>
    cases ht
    obtain ⟨hsum, htarget⟩ := hfit
    have hfirst : (addInt64 overflow src.len.toInt64 off).toInt = src.len.toInt + off.toInt := by
      rw [addInt64_toInt overflow (by rwa [Int32.toInt_toInt64]), Int32.toInt_toInt64]
    have hone : (-1 : Int64).toInt = -1 := by decide
    refine ⟨_, rfl, ?_⟩
    rw [Int64.toInt_toInt32, addInt64_toInt overflow (by rwa [hfirst, hone]), hfirst, hone,
      narrowed]
    rfl
  | other => cases ht

private theorem narrowed_of_inside (src : BlobSource B) {t : Int} (h : 0 ≤ t ∧ t < src.len.toInt) :
    narrowed t = t := by
  have hlen := src.len.toInt_lt
  exact Int.bmod_eq_of_le (by omega) (by omega)

theorem seeksTo_of_safe (overflow : Int → Int64) {src : BlobSource B} {off : Int64}
    {way : SeekDir} (hsafe : src.SeekSafe off way) : src.SeeksTo overflow off way := by
  have hcases := src.seek_cases overflow off way
  rcases ht : src.target off way with _ | t
  · have hway : way = .other := by
      cases way <;> simp [target] at ht
      rfl
    rw [SeeksTo, ht]
    rcases hcases with ⟨next, hnext, -, -⟩ | ⟨-, hthrow⟩
    · rw [hway] at hnext
      cases hnext
    · exact hthrow
  · simp only [SeeksTo, ht]
    rcases hsafe with hempty | ⟨hfit, hout⟩
    · rw [if_neg (by omega)]
      rcases hcases with ⟨next, -, hin, -⟩ | ⟨-, hthrow⟩
      · omega
      · exact hthrow
    · obtain ⟨next, hnext, hvalue⟩ := next_of_sumsFit overflow hfit ht
      by_cases hin : 0 ≤ t ∧ t < src.len.toInt
      · rw [if_pos hin]
        rw [narrowed_of_inside src hin] at hvalue
        rcases hcases with ⟨next', hnext', -, hends⟩ | ⟨hno, -⟩
        · rw [hnext] at hnext'
          cases hnext'
          exact ⟨next, hvalue, hends⟩
        · exact absurd (by rw [hvalue]; exact hin) (hno next hnext)
      · rw [if_neg hin]
        rcases hcases with ⟨next', hnext', hin', -⟩ | ⟨-, hthrow⟩
        · rw [hnext] at hnext'
          cases hnext'
          rw [hvalue] at hin'
          exact absurd hin' (hout t ht hin)
        · exact hthrow

private theorem not_seeksTo_of_next (overflow : Int → Int64) {src : BlobSource B} {off : Int64}
    {way : SeekDir} {t : Int} (ht : src.target off way = some t)
    (hout : ¬ (0 ≤ t ∧ t < src.len.toInt)) {next : Int32}
    (hnext : src.next overflow off way = some next)
    (hin : 0 ≤ next.toInt ∧ next.toInt < src.len.toInt) : ¬ src.SeeksTo overflow off way := by
  intro hseek
  simp only [SeeksTo, ht] at hseek
  rw [if_neg hout] at hseek
  obtain ⟨e, hthrow⟩ := hseek
  rcases src.seek_cases overflow off way with ⟨next', hnext', -, hends⟩ | ⟨hno, -⟩
  · have hboth := hends.outcome.symm.trans hthrow.outcome
    cases hboth
  · exact hno next hnext hin

/-- Into a blob with bytes an overflowing sum can lead anywhere, the first byte included. -/
theorem exists_overflow_inside {src : BlobSource B} {off : Int64} {way : SeekDir}
    (hlen : 0 < src.len.toInt) (hfit : ¬ src.SumsFit off way) :
    ∃ t, src.target off way = some t ∧ ¬ (0 ≤ t ∧ t < src.len.toInt) ∧
      ∃ overflow, src.next overflow off way = some 0 := by
  have hmax := src.len.toInt_lt
  have hlo := off.le_toInt
  cases way with
  | beg => exact (hfit trivial).elim
  | cur =>
    have hsum : ¬ InInt64 (src.pos.toInt + off.toInt) := hfit
    refine ⟨_, rfl, ?_, fun _ => 0, ?_⟩
    · simp only [InInt64] at hsum
      omega
    · rw [next, addInt64_overflow _ (by rwa [Int32.toInt_toInt64])]
      rfl
  | fromEnd =>
    -- the second sum takes one from an integer above -2^63, so it is the first that overflows
    have hsum : ¬ InInt64 (src.len.toInt + off.toInt) := by
      intro hsum
      apply hfit
      refine ⟨hsum, ?_⟩
      simp only [InInt64] at hsum ⊢
      omega
    refine ⟨_, rfl, ?_, fun _ => 1, ?_⟩
    · simp only [InInt64] at hsum
      omega
    · have hfirst : addInt64 (fun _ => 1) src.len.toInt64 off = 1 :=
        addInt64_overflow _ (by rwa [Int32.toInt_toInt64])
      rw [next, hfirst]
      rfl
  | other => exact (hfit trivial).elim

/-- A seek does what it should, whatever overflow does, exactly when it is safe. -/
theorem seeksTo_iff (src : BlobSource B) (off : Int64) (way : SeekDir) :
    (∀ overflow, src.SeeksTo overflow off way) ↔ src.SeekSafe off way := by
  constructor
  · intro hall
    by_contra hunsafe
    rw [SeekSafe, not_or, not_and_or] at hunsafe
    obtain ⟨hlen, hbad⟩ := hunsafe
    have hpos : 0 < src.len.toInt := by omega
    rcases Classical.em (src.SumsFit off way) with hfit | hfit
    · have hwrap : ¬ src.StaysOutside off way := hbad.resolve_left (fun h => h hfit)
      simp only [StaysOutside, not_forall, not_not] at hwrap
      obtain ⟨t, ht, hout, hin⟩ := hwrap
      obtain ⟨next, hnext, hvalue⟩ := next_of_sumsFit Int64.ofInt hfit ht
      rw [← hvalue] at hin
      exact not_seeksTo_of_next Int64.ofInt ht hout hnext hin (hall Int64.ofInt)
    · obtain ⟨t, ht, hout, overflow, hnext⟩ := exists_overflow_inside hpos hfit
      exact not_seeksTo_of_next overflow ht hout hnext ⟨by decide, hpos⟩ (hall overflow)
  · intro hsafe overflow
    exact seeksTo_of_safe overflow hsafe

end BlobSource

/-- In every state that calls on an opened blob lead to: a seek goes to the position asked for, or
throws when there is none, exactly when the blob is empty or the position does not wrap. -/
theorem blobSource_seek_iff {B : Type} [api : BlobApi B] (overflow : Int → Int64) (b : B)
    (calls : List BlobCall) (off : Int64) (way : SeekDir) :
    let src := run (BlobSource.exec overflow) (BlobSource.new b) calls
    (∀ overflow', src.SeeksTo overflow' off way) ↔ src.SeekSafe off way := by
  intro src
  exact src.seeksTo_iff off way

/-- In a blob of three bytes the offset 2^32 from the beginning is position 0. -/
theorem blobSource_seek_wraps :
    let src := BlobSource.new threeBytes
    (BlobSource.seek Int64.ofInt 4294967296 .beg src).outcome = .ok 0 ∧
      ¬ ∀ overflow, src.SeeksTo overflow 4294967296 .beg := by
  intro src
  have hwraps : ¬ src.SeeksTo Int64.ofInt 4294967296 .beg :=
    BlobSource.not_seeksTo_of_next Int64.ofInt rfl (by decide) rfl (by decide)
  refine ⟨by decide, ?_⟩
  intro hall
  exact hwraps (hall Int64.ofInt)

end Sqxx
