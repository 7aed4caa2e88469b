import Sqxx.Blob.Draining
import Sqxx.Blob.Seeking

/-!
# Writing to a blob stream

A write hands the library the count it was given, stored in an `int`.  A read clamps the count
before that; a write does not, so that a count outside the range of `int` can come out as one the
library accepts.
-/

namespace Sqxx
open Framework

namespace BlobSource

variable {B : Type} [api : BlobApi B]

/-- All `n` bytes at `s` are stored at the position, which moves past them, and no other byte
changes. -/
def StoresAll (src : BlobSource B) (s : Pointer) (n : Int64) : Prop :=
  ∃ src' : BlobSource B, Prog.Ends (write s n) src (.ok n) src' ∧
    api.content src'.handle =
      overwritten (api.content src.handle) s n.toInt.toNat src.pos.toInt.toNat ∧
    src'.pos.toInt = src.pos.toInt + n.toInt ∧ src'.len = src.len

/-- A throw that leaves the blob and the position. -/
def StoresNothing (src : BlobSource B) (s : Pointer) (n : Int64) : Prop :=
  ∃ (e : Exn) (src' : BlobSource B), Prog.Ends (write s n) src (.error (.exception e)) src' ∧
    api.content src'.handle = api.content src.handle ∧ src'.pos = src.pos ∧ src'.len = src.len

def AllOrNothing (src : BlobSource B) (s : Pointer) (n : Int64) : Prop :=
  src.StoresAll s n ∨ src.StoresNothing s n

def HasRoom (src : BlobSource B) (n : Int) : Prop :=
  0 ≤ n ∧ src.pos.toInt + n ≤ src.len.toInt

instance (src : BlobSource B) (n : Int) : Decidable (src.HasRoom n) :=
  inferInstanceAs (Decidable (_ ∧ _))

/-- The count fits in an `int`, or the one stored in it is too large or negative. -/
def WriteSafe (src : BlobSource B) (n : Int64) : Prop :=
  n.toInt < 2 ^ 31 ∨ ¬ src.HasRoom (narrowed n.toInt)

/-- The stream is over the whole of what its blob holds. -/
abbrev Whole (src : BlobSource B) : Prop := src.Over (api.content src.handle)

private theorem new_whole (laws : BlobWrites B) (b : B) : (new b).Whole where
  nonneg := Int.le_refl _
  le := by
    have hbytes := laws.bytes b
    change (0 : Int) ≤ (api.blobBytes b).toInt
    omega
  content := rfl
  length := laws.bytes b

theorem Whole.bytes (laws : BlobWrites B) {src : BlobSource B} (hsrc : src.Whole) :
    (api.blobBytes src.handle).toInt = src.len.toInt :=
  (laws.bytes src.handle).trans hsrc.length.symm

theorem write_stores (laws : BlobWrites B) {src : BlobSource B} (hsrc : src.Whole) (s : Pointer)
    {n : Int64} (hroom : src.HasRoom n.toInt32.toInt) :
    ∃ src' : BlobSource B, Prog.Ends (write s n) src (.ok n.toInt32.toInt64) src' ∧
      api.content src'.handle =
        overwritten (api.content src.handle) s n.toInt32.toInt.toNat src.pos.toInt.toNat ∧
      src'.pos.toInt = src.pos.toInt + n.toInt32.toInt ∧ src'.len = src.len := by
  obtain ⟨hlimit, hle⟩ := hroom
  have hin := laws.write src.handle s n.toInt32 src.pos hlimit hsrc.nonneg
    (by rw [hsrc.bytes laws]; exact hle)
  rcases src.write_cases s n with ⟨-, hends⟩ | ⟨hno, -⟩
  · exact ⟨_, hends, hin.2, advance_toInt hsrc.toPositioned hlimit hle, rfl⟩
  · exact (hno hin.1).elim

theorem write_rejects (laws : BlobWrites B) {src : BlobSource B} (hsrc : src.Whole) (s : Pointer)
    {n : Int64} (hroom : ¬ src.HasRoom n.toInt32.toInt) : src.StoresNothing s n := by
  have hout := laws.reject src.handle s n.toInt32 src.pos
    (by rw [hsrc.bytes laws]; exact fun h => hroom ⟨h.1, h.2.2⟩)
  rcases src.write_cases s n with ⟨hok, -⟩ | ⟨-, hends⟩
  · exact (hout.1 hok).elim
  · refine ⟨_, _, hends, hout.2, ?_, ?_⟩
    · rfl
    · rfl

theorem Whole.moved {src src' : BlobSource B} (hsrc : src.Whole) (hlen : src'.len = src.len)
    (hcontent : (api.content src'.handle).length = (api.content src.handle).length)
    (hpos : 0 ≤ src'.pos.toInt) (hle : src'.pos.toInt ≤ src.len.toInt) : src'.Whole where
  nonneg := hpos
  le := by
    rw [hlen]
    exact hle
  content := rfl
  length := by
    rw [hlen, hcontent]
    exact hsrc.length

private theorem whole_exec (laws : BlobWrites B) (overflow : Int → Int64) {src : BlobSource B}
    (hsrc : src.Whole) (c : BlobCall) : (exec overflow src c).Whole := by
  have hpos := hsrc.nonneg
  have hle := hsrc.le
  have hlength := hsrc.length
  cases c with
  | read n =>
    have hlimit := readLimit_toInt hsrc.toPositioned n.property
    have hcontent := congrArg List.length (laws.read src.handle (src.readLimit n) src.pos)
    rcases src.read_cases n with ⟨-, hends⟩ | ⟨-, hends⟩
    · have hcall : Prog.Ends (invoke overflow (.read n)) src (.ok (src.readLimit n).toInt64) _ :=
        hends.bind (Prog.Ends.pure _ _)
      have hcount : 0 ≤ (src.readLimit n).toInt := by omega
      have hroom : src.pos.toInt + (src.readLimit n).toInt ≤ src.len.toInt := by omega
      have hsum := advance_toInt hsrc.toPositioned hcount hroom
      rw [exec, hcall.final]
      refine hsrc.moved rfl hcontent ?_ ?_
      · rw [hsum]
        omega
      · rw [hsum]
        exact hroom
    · have hcall : Prog.Ends (invoke overflow (.read n)) src (.error _) _ := hends.bind_error
      rw [exec, hcall.final]
      exact hsrc.moved rfl hcontent hpos hle
  | write s n =>
    rcases Classical.em (src.HasRoom n.val.toInt32.toInt) with hroom | hroom
    · obtain ⟨src', hends, hcontent, hsum, hlen⟩ := write_stores laws hsrc s hroom
      have hfinal : exec overflow src (.write s n) = src' := hends.final
      obtain ⟨hlimit, hfits⟩ := hroom
      rw [hfinal]
      apply hsrc.moved hlen
      · rw [hcontent, overwritten_length s (by omega)]
      · omega
      · omega
    · obtain ⟨e, src', hends, hcontent, hsame, hlen⟩ := write_rejects laws hsrc s hroom
      have hfinal : exec overflow src (.write s n) = src' := hends.final
      rw [hfinal]
      apply hsrc.moved hlen (congrArg List.length hcontent)
      · rw [hsame]
        exact hpos
      · rw [hsame]
        exact hle
  | seek off way =>
    rcases src.seek_cases overflow off way with ⟨t, -, ⟨hzero, hlt⟩, hends⟩ | ⟨-, e, hends⟩
    · have hfinal : exec overflow src (.seek off way) = { src with pos := t } := hends.final
      rw [hfinal]
      exact hsrc.moved rfl rfl hzero (Int.le_of_lt hlt)
    · have hfinal : exec overflow src (.seek off way) = src := hends.final
      rw [hfinal]
      exact hsrc

theorem whole_run (laws : BlobWrites B) (overflow : Int → Int64) (b : B) (calls : List BlobCall) :
    (run (exec overflow) (new b) calls).Whole := by
  have hstep : ∀ (src : BlobSource B) c, src.Whole → (exec overflow src c).Whole :=
    fun src c hsrc => whole_exec laws overflow hsrc c
  exact (always_of_preserved hstep (new_whole laws b) calls).last

/-- A count whose stored form has room, but is not it, is a short write. -/
theorem write_short (laws : BlobWrites B) {src : BlobSource B} (hsrc : src.Whole) (s : Pointer)
    {n : Int64} (hn : 2 ^ 31 ≤ n.toInt) (hroom : src.HasRoom (narrowed n.toInt)) :
    ¬ src.AllOrNothing s n := by
  have hcount : n.toInt32.toInt = narrowed n.toInt := Int64.toInt_toInt32 n
  obtain ⟨src', hends, -, -, -⟩ := write_stores laws hsrc s (by rwa [hcount])
  rintro (⟨all, hall, -⟩ | ⟨e, none, hnone, -⟩)
  · have hsame := hends.outcome.symm.trans hall.outcome
    have hlt := n.toInt32.toInt_lt
    rw [Except.ok.injEq] at hsame
    have hvalue : n.toInt32.toInt = n.toInt := by
      rw [← Int32.toInt_toInt64, hsame]
    omega
  · have hsame := hends.outcome.symm.trans hnone.outcome
    cases hsame

private theorem allOrNothing_of_safe (laws : BlobWrites B) {src : BlobSource B} (hsrc : src.Whole)
    (s : Pointer) {n : Int64} (hn : 0 ≤ n.toInt) (hsafe : src.WriteSafe n) :
    src.AllOrNothing s n := by
  have hcount : n.toInt32.toInt = narrowed n.toInt := Int64.toInt_toInt32 n
  rcases Classical.em (src.HasRoom n.toInt32.toInt) with hroom | hroom
  · have hlt : n.toInt < 2 ^ 31 := hsafe.resolve_right fun hno => hno (by rwa [← hcount])
    have hvalue : n.toInt32.toInt = n.toInt := toInt32_of_range (by omega) hlt
    have hwide : n.toInt32.toInt64 = n := by
      rw [← Int64.toInt_inj, Int32.toInt_toInt64, hvalue]
    left
    have hall := write_stores laws hsrc s hroom
    rw [hwide, hvalue] at hall
    exact hall
  · right
    exact write_rejects laws hsrc s hroom

end BlobSource

/-- In every state that calls on an opened blob lead to: a write stores all its bytes or throws and
changes nothing, exactly when its count fits in an `int` or does not wrap into the blob. -/
theorem blobSource_write_iff {B : Type} [api : BlobApi B] (laws : BlobWrites B)
    (overflow : Int → Int64) (b : B) (calls : List BlobCall) (s : Pointer) (n : StreamCount) :
    let src := run (BlobSource.exec overflow) (BlobSource.new b) calls
    src.AllOrNothing s n ↔ src.WriteSafe n := by
  intro src
  have hsrc : src.Whole := BlobSource.whole_run laws overflow b calls
  constructor
  · intro hall
    by_contra hunsafe
    rw [BlobSource.WriteSafe, not_or, not_not] at hunsafe
    obtain ⟨hn, hroom⟩ := hunsafe
    exact BlobSource.write_short laws hsrc s (by omega) hroom hall
  · intro hsafe
    exact BlobSource.allOrNothing_of_safe laws hsrc s n.property hsafe

theorem blobSource_write_iff_threeBytes :
    let src := run (BlobSource.exec Int64.ofInt) (BlobSource.new threeBytes)
      [.read ⟨2, by decide⟩, .seek 1 .beg]
    src.AllOrNothing (memoryOf [9]) 1 ↔ src.WriteSafe 1 :=
  blobSource_write_iff blobWrites_memoryBlob Int64.ofInt threeBytes
    [.read ⟨2, by decide⟩, .seek 1 .beg] (memoryOf [9]) ⟨1, by decide⟩

/-- A write of 2^32 + 1 bytes to a blob of three stores the first one and returns 1. -/
theorem blobSource_write_wraps :
    let src := BlobSource.new threeBytes
    let written := BlobSource.write (memoryOf [9]) 4294967297 src
    written.outcome = .ok 1 ∧ written.final.handle.bytes = [9, 2, 3] ∧
      ¬ src.AllOrNothing (memoryOf [9]) 4294967297 := by
  intro src written
  refine ⟨by decide, by decide, ?_⟩
  exact BlobSource.write_short blobWrites_memoryBlob
    (BlobSource.new_whole blobWrites_memoryBlob threeBytes) (memoryOf [9]) (by decide) (by decide)

end Sqxx
