import Sqxx.Blob.Writing

/-!
# A blob stream as a seekable device

A seekable device has a position for every byte and one past the last, and offsets from the end
count from that one.  Reads and writes lead to it; a seek rejects it, also as the place to stay,
and counts offsets from the end from the last byte.
-/

namespace Sqxx
open Framework

namespace BlobSource

variable {B : Type} [api : BlobApi B]

/-- `seek(0, cur)` returns the position and changes nothing. -/
def TellsPosition (overflow : Int → Int64) (src : BlobSource B) : Prop :=
  Prog.Ends (seek overflow 0 .cur) src (.ok src.pos.toInt64) src

/-- `seek(-k, end)` and a read of `k` bytes. -/
def readLast (overflow : Int → Int64) (k : Nat) : Cxx (BlobSource B) (Int64 × Bytes) := do
  let _pos ← seek overflow (Int64.ofInt (-k)) .fromEnd
  read (Int64.ofNat k)

/-- Both succeed, and the bytes are the last `k` of the blob. -/
def DeliversLast (overflow : Int → Int64) (src : BlobSource B) (k : Nat) : Prop :=
  ∃ src', Prog.Ends (readLast overflow k) src
    (.ok (Int64.ofNat k, (api.content src.handle).drop ((api.content src.handle).length - k))) src'

/-- The last `n` bytes are there and are equal. -/
def EndsInRepeated (bs : Bytes) (n : Nat) : Prop := ∃ byte, List.replicate n byte <:+ bs

theorem dropLast_eq_iff {α : Type} (a : α) (l : List α) :
    (a :: l).dropLast = l ↔ l = List.replicate l.length a := by
  induction l generalizing a with
  | nil => simp
  | cons b l ih =>
    rw [List.dropLast_cons_cons, List.cons.injEq, ih, List.length_cons, List.replicate_succ,
      List.cons.injEq]
    constructor
    · rintro ⟨rfl, hrest⟩
      exact ⟨rfl, hrest⟩
    · rintro ⟨rfl, hrest⟩
      exact ⟨rfl, hrest⟩

theorem take_eq_drop_iff {bs : Bytes} {k : Nat} (hk : k < bs.length) :
    (bs.drop (bs.length - k - 1)).take k = bs.drop (bs.length - k) ↔ EndsInRepeated bs (k + 1) := by
  have hlength : (bs.drop (bs.length - k - 1)).length = k + 1 := by
    rw [List.length_drop]
    omega
  have htail : bs.drop (bs.length - k) = (bs.drop (bs.length - k - 1)).tail := by
    rw [List.tail_drop]
    congr 1
    omega
  rw [htail]
  rcases hlast : bs.drop (bs.length - k - 1) with _ | ⟨a, l⟩
  · rw [hlast] at hlength
    cases hlength
  · rw [hlast, List.length_cons, Nat.add_right_cancel_iff] at hlength
    have htake : (a :: l).take k = (a :: l).dropLast := by
      rw [List.dropLast_eq_take, List.length_cons, hlength, Nat.add_sub_cancel]
    rw [htake, List.tail_cons, dropLast_eq_iff, hlength]
    constructor
    · intro hsame
      refine ⟨a, ?_⟩
      rw [List.replicate_succ, ← hsame, ← hlast]
      exact List.drop_suffix _ bs
    · rintro ⟨byte, hsuffix⟩
      have hdrop := List.suffix_iff_eq_drop.mp hsuffix
      rw [List.length_replicate, show bs.length - (k + 1) = bs.length - k - 1 by omega, hlast,
        List.replicate_succ, List.cons.injEq] at hdrop
      obtain ⟨rfl, hrest⟩ := hdrop
      exact hrest.symm

omit api in
/-- The end is not a position a seek accepts, so that there it does not tell where it is. -/
theorem tellsPosition_iff (overflow : Int → Int64) {src : BlobSource B} (hsrc : src.Positioned) :
    src.TellsPosition overflow ↔ src.pos.toInt < src.len.toInt := by
  have hpos := hsrc.nonneg
  have hlt := src.pos.toInt_lt
  have hzero : (0 : Int64).toInt = 0 := rfl
  have hfit : src.SumsFit 0 .cur := by
    change InInt64 (src.pos.toInt + (0 : Int64).toInt)
    constructor <;> omega
  obtain ⟨next, hnext, hvalue⟩ := next_of_sumsFit overflow hfit rfl
  obtain rfl : next = src.pos := by
    rw [← Int32.toInt_inj, hvalue, narrowed, hzero, Int.add_zero]
    exact Int.bmod_eq_of_le (by omega) (by omega)
  rcases src.seek_cases overflow 0 .cur with ⟨t, ht, hin, hends⟩ | ⟨hno, e, hends⟩
  · rw [hnext] at ht
    cases ht
    exact ⟨fun _ => hin.2, fun _ => hends⟩
  · constructor
    · intro htells
      have hboth := hends.outcome.symm.trans htells.outcome
      cases hboth
    · intro hin
      exact (hno src.pos hnext ⟨hpos, hin⟩).elim

omit api in
private theorem seek_fromEnd (overflow : Int → Int64) {src : BlobSource B} (hsrc : src.Positioned)
    {k : Nat} (hk : k ≤ src.len.toInt) :
    (k < src.len.toInt ∧ ∃ t : Int32, t.toInt = src.len.toInt - k - 1 ∧
        Prog.Ends (seek overflow (Int64.ofInt (-k)) .fromEnd) src (.ok t.toInt64)
          { src with pos := t }) ∨
      (k = src.len.toInt ∧
        ∃ e, Prog.Ends (seek overflow (Int64.ofInt (-k)) .fromEnd) src (.error (.exception e))
          src) := by
  have hpos := hsrc.nonneg
  have hle := hsrc.le
  have hlt := src.len.toInt_lt
  have hoff : (Int64.ofInt (-k)).toInt = -k := Int64.toInt_ofInt_of_le (by omega) (by omega)
  have hfit : src.SumsFit (Int64.ofInt (-k)) .fromEnd := by
    change InInt64 (src.len.toInt + _) ∧ InInt64 (src.len.toInt + _ - 1)
    rw [hoff]
    refine ⟨⟨?_, ?_⟩, ?_, ?_⟩ <;> omega
  obtain ⟨next, hnext, hvalue⟩ := next_of_sumsFit overflow hfit rfl
  have htarget : next.toInt = src.len.toInt - k - 1 := by
    rw [hvalue, narrowed, hoff, Int.bmod_eq_of_le] <;> omega
  rcases src.seek_cases overflow (Int64.ofInt (-k)) .fromEnd with
    ⟨t, ht, hin, hends⟩ | ⟨hno, e, hends⟩
  · left
    rw [hnext] at ht
    cases ht
    exact ⟨by omega, next, htarget, hends⟩
  · right
    have hout := hno next hnext
    exact ⟨by omega, e, hends⟩

private theorem readLast_ends (reads : BlobReads B) (overflow : Int → Int64) {src : BlobSource B}
    (hsrc : src.Whole) {k : Nat} (hk : k < (api.content src.handle).length) :
    ∃ src', Prog.Ends (readLast overflow k) src
      (.ok (Int64.ofNat k, ((api.content src.handle).drop
        ((api.content src.handle).length - k - 1)).take k)) src' := by
  have hlength := hsrc.length
  have hlt := src.len.toInt_lt
  have hseek := seek_fromEnd overflow hsrc.toPositioned (k := k) (by omega)
  obtain ⟨t, ht, hseek⟩ := (hseek.resolve_right fun hall => by omega).2
  have hmid : Whole { src with pos := t } := by
    refine hsrc.moved rfl rfl ?_ ?_
    · change 0 ≤ t.toInt
      omega
    · change t.toInt ≤ src.len.toInt
      omega
  have hcount : (Int64.ofNat k).toInt = k := Int64.toInt_ofNat_of_lt (by omega)
  obtain ⟨limit, src', hread, hlimit, -, -⟩ :=
    read_delivers reads hmid (n := Int64.ofNat k) (by omega)
  have hrest : rest { src with pos := t } =
      (api.content src.handle).drop ((api.content src.handle).length - k - 1) := by
    change (api.content src.handle).drop t.toInt.toNat = _
    congr 1
    omega
  rw [hrest] at hread hlimit
  rw [List.length_drop] at hlimit
  have hwide : limit.toInt64 = Int64.ofNat k := by
    rw [← Int64.toInt_inj, Int32.toInt_toInt64, hcount]
    omega
  have hnat : limit.toInt.toNat = k := by omega
  rw [hwide, hnat] at hread
  exact ⟨src', hseek.bind hread⟩

theorem deliversLast_iff (reads : BlobReads B) (overflow : Int → Int64) {src : BlobSource B}
    (hsrc : src.Whole) {k : Nat} (hk : k ≤ (api.content src.handle).length) :
    src.DeliversLast overflow k ↔ EndsInRepeated (api.content src.handle) (k + 1) := by
  rcases Nat.lt_or_eq_of_le hk with hlt | hall
  · obtain ⟨src', hends⟩ := readLast_ends reads overflow hsrc hlt
    rw [← take_eq_drop_iff hlt]
    constructor
    · rintro ⟨last, hlast⟩
      have hboth := hends.outcome.symm.trans hlast.outcome
      rw [Except.ok.injEq, Prod.mk.injEq] at hboth
      exact hboth.2
    · intro hsame
      rw [hsame] at hends
      exact ⟨src', hends⟩
  · have hlength := hsrc.length
    have hseek := seek_fromEnd overflow hsrc.toPositioned (k := k) (by omega)
    obtain ⟨e, hseek⟩ := (hseek.resolve_left fun hin => by omega).2
    have hends : Prog.Ends (readLast overflow k) src (.error (.exception e)) src :=
      hseek.bind_error
    constructor
    · rintro ⟨last, hlast⟩
      have hboth := hends.outcome.symm.trans hlast.outcome
      cases hboth
    · rintro ⟨byte, hsuffix⟩
      have hfits := hsuffix.length_le
      rw [List.length_replicate] at hfits
      omega

end BlobSource

/-- In every state that calls on an opened blob lead to: staying where it is tells the position
exactly before the end, and the last `k` bytes are found from the end exactly if they and the byte
before them are equal. -/
theorem blobSource_seekable_iff {B : Type} [api : BlobApi B] (writes : BlobWrites B)
    (reads : BlobReads B) (overflow : Int → Int64) (b : B) (calls : List BlobCall) :
    let src := run (BlobSource.exec overflow) (BlobSource.new b) calls
    (src.TellsPosition overflow ↔ src.pos.toInt < src.len.toInt) ∧
      ∀ k : Nat, k ≤ (api.content src.handle).length →
        (src.DeliversLast overflow k ↔
          BlobSource.EndsInRepeated (api.content src.handle) (k + 1)) := by
  intro src
  have hsrc : src.Whole := BlobSource.whole_run writes overflow b calls
  constructor
  · exact BlobSource.tellsPosition_iff overflow hsrc.toPositioned
  · intro k hk
    exact BlobSource.deliversLast_iff reads overflow hsrc hk

theorem blobSource_seekable_iff_threeBytes :
    let src := run (BlobSource.exec Int64.ofInt) (BlobSource.new threeBytes)
      [.read ⟨2, by decide⟩, .seek (-5) .cur]
    (src.TellsPosition Int64.ofInt ↔ src.pos.toInt < src.len.toInt) ∧
      ∀ k : Nat, k ≤ (BlobApi.content src.handle).length →
        (src.DeliversLast Int64.ofInt k ↔
          BlobSource.EndsInRepeated (BlobApi.content src.handle) (k + 1)) :=
  blobSource_seekable_iff blobWrites_memoryBlob blobReads_memoryBlob Int64.ofInt threeBytes
    [.read ⟨2, by decide⟩, .seek (-5) .cur]

/-- Three bytes read to the end: the position cannot be told, the last byte from the end is the
one before it, and the last three are not found. -/
theorem blobSource_not_seekable :
    let src := run (BlobSource.exec Int64.ofInt) (BlobSource.new threeBytes) [.read ⟨3, by decide⟩]
    ¬ src.TellsPosition Int64.ofInt ∧
      (BlobSource.readLast Int64.ofInt 1 src).outcome = .ok (1, [2]) ∧
      ¬ src.DeliversLast Int64.ofInt 1 ∧ ¬ src.DeliversLast Int64.ofInt 3 := by
  intro src
  refine ⟨?_, by decide, ?_, ?_⟩
  · intro htells
    have hout : (BlobSource.seek Int64.ofInt 0 .cur src).outcome = .ok 3 := htells.outcome
    revert hout
    decide
  · rintro ⟨src', hends⟩
    have hout : (BlobSource.readLast Int64.ofInt 1 src).outcome = .ok (1, [3]) := hends.outcome
    revert hout
    decide
  · rintro ⟨src', hends⟩
    have hout : (BlobSource.readLast Int64.ofInt 3 src).outcome = .ok (3, [1, 2, 3]) :=
      hends.outcome
    revert hout
    decide

end Sqxx
