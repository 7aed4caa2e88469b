import Sqxx.Blob.Source
import Mathlib.Algebra.GroupWithZero.Nat

/-!
# Draining a blob stream

Reads of any sizes deliver the bytes from the position on, each once and in order.  A source of
bytes reports its end by the count -1; a blob stream at its end goes on reporting a count.
-/

namespace Sqxx
open Framework

/-- The count by which a source reports the end of its sequence. -/
def endOfSequence : Int64 := -1

namespace BlobSource

variable {B : Type} [api : BlobApi B]

/-- Reads with the buffer sizes `ns`, and all the bytes they put into the buffers. -/
def readAll : List Int64 → Cxx (BlobSource B) Bytes
  | [] => pure []
  | n :: ns => do
    let (count, s) ← read n
    let rest ← readAll ns
    pure (s.take count.toInt.toNat ++ rest)

/-- From `src`, reads with the buffer sizes `sizes i`, `sizes (i + 1)`, … come to one that reports
the end; those before it delivered `bs`. -/
inductive Drains (sizes : Nat → Int64) : Nat → BlobSource B → Bytes → Prop
  | stop {i : Nat} {src src' : BlobSource B} {s : Bytes}
      (hread : Prog.Ends (read (sizes i)) src (.ok (endOfSequence, s)) src') :
      Drains sizes i src []
  | more {i : Nat} {src src' : BlobSource B} {count : Int64} {s rest : Bytes}
      (hread : Prog.Ends (read (sizes i)) src (.ok (count, s)) src')
      (hcount : count ≠ endOfSequence) (hrest : Drains sizes (i + 1) src' rest) :
      Drains sizes i src (s.take count.toInt.toNat ++ rest)

/-- A stream over a blob with the bytes `content`. -/
structure Over (bs : Bytes) (src : BlobSource B) : Prop extends Positioned src where
  content : api.content src.handle = bs
  length : src.len.toInt = bs.length

def rest (src : BlobSource B) : Bytes := (api.content src.handle).drop src.pos.toInt.toNat

private theorem new_over (laws : BlobReads B) (b : B) : (new b).Over (api.content b) where
  nonneg := Int.le_refl _
  le := by
    have hbytes := laws.bytes b
    change (0 : Int) ≤ (api.blobBytes b).toInt
    omega
  content := rfl
  length := laws.bytes b

theorem read_delivers (laws : BlobReads B) {bs : Bytes} {src : BlobSource B}
    (hsrc : src.Over bs) {n : Int64} (hn : 0 ≤ n.toInt) :
    ∃ (limit : Int32) (src' : BlobSource B),
      Prog.Ends (read n) src (.ok (limit.toInt64, src.rest.take limit.toInt.toNat)) src' ∧
        limit.toInt = min n.toInt src.rest.length ∧ src'.Over bs ∧
        src'.rest = src.rest.drop limit.toInt.toNat := by
  have hpos := hsrc.nonneg
  have hle := hsrc.le
  have hlength := hsrc.length
  have hlimit := readLimit_toInt hsrc.toPositioned hn
  have hbytes : (api.blobBytes src.handle).toInt = src.len.toInt := by
    rw [laws.bytes, hsrc.content, hlength]
  have hrest : (src.rest.length : Int) = src.len.toInt - src.pos.toInt := by
    rw [rest, List.length_drop, hsrc.content]
    omega
  have hcount : 0 ≤ (src.readLimit n).toInt := by omega
  have hroom : src.pos.toInt + (src.readLimit n).toInt ≤ src.len.toInt := by omega
  have hsum := advance_toInt hsrc.toPositioned hcount hroom
  obtain ⟨hanswer, hkept⟩ :=
    laws.read src.handle (src.readLimit n) src.pos hcount hpos (by rw [hbytes]; exact hroom)
  rcases src.read_cases n with ⟨hok, hends⟩ | ⟨hno, -⟩
  · rw [hanswer] at hends
    refine ⟨src.readLimit n, _, hends, by omega, ⟨⟨?_, ?_⟩, ?_, hlength⟩, ?_⟩
    · rw [hsum]
      omega
    · rw [hsum]
      exact hroom
    · exact hkept.trans hsrc.content
    · rw [rest, rest, hsum, hkept, List.drop_drop]
      congr 1
      omega
  · rw [hanswer] at hno
    exact (hno rfl).elim

/-- However the reads divide the bytes, together they deliver the next ones, as many as there is
room for and as there are left. -/
theorem readAll_delivers (laws : BlobReads B) {bs : Bytes} {src : BlobSource B}
    (hsrc : src.Over bs) {ns : List Int64} (hns : ∀ n ∈ ns, 0 ≤ n.toInt) :
    ∃ src' : BlobSource B,
      Prog.Ends (readAll ns) src
          (.ok (src.rest.take (ns.map fun n => n.toInt.toNat).sum)) src' ∧
        src'.Over bs ∧ src'.rest = src.rest.drop (ns.map fun n => n.toInt.toNat).sum := by
  induction ns generalizing src with
  | nil =>
    refine ⟨src, ?_, hsrc, ?_⟩
    · rw [List.map_nil, List.sum_nil, List.take_zero]
      exact Prog.Ends.pure [] src
    · rw [List.map_nil, List.sum_nil, List.drop_zero]
  | cons n ns ih =>
    have hn : 0 ≤ n.toInt := hns n List.mem_cons_self
    obtain ⟨limit, mid, hread, hlimit, hmid, hdrop⟩ := read_delivers laws hsrc hn
    obtain ⟨src', hall, hsrc', hrest⟩ := ih hmid fun m hm => hns m (List.mem_cons_of_mem n hm)
    rw [hdrop] at hall hrest
    -- the limit is the buffer size, unless that is more than is left
    have htake : src.rest.take limit.toInt.toNat = src.rest.take n.toInt.toNat := by
      rw [List.take_eq_take_iff]
      omega
    have hskip : src.rest.drop limit.toInt.toNat = src.rest.drop n.toInt.toNat := by
      rcases Int.le_total n.toInt src.rest.length with hle | hle
      · congr 1
        omega
      · rw [List.drop_eq_nil_of_le (by omega), List.drop_eq_nil_of_le (by omega)]
    rw [hskip] at hall hrest
    refine ⟨src', ?_, hsrc', ?_⟩
    · have hends : Prog.Ends (readAll (n :: ns)) src _ src' :=
        hread.bind (hall.bind (Prog.Ends.pure _ _))
      rw [Int32.toInt_toInt64, List.take_take, Nat.min_self, htake] at hends
      rw [List.map_cons, List.sum_cons, List.take_add]
      exact hends
    · rw [hrest, List.drop_drop, List.map_cons, List.sum_cons]

private theorem read_ne_endOfSequence (laws : BlobReads B) {bs : Bytes} {src src' : BlobSource B}
    (hsrc : src.Over bs) {n : Int64} (hn : 0 ≤ n.toInt) {s : Bytes} :
    ¬ Prog.Ends (read n) src (.ok (endOfSequence, s)) src' := by
  intro hend
  obtain ⟨limit, mid, hread, hlimit, -, -⟩ := read_delivers laws hsrc hn
  have hsame := hread.outcome.symm.trans hend.outcome
  simp only [Except.ok.injEq, Prod.mk.injEq] at hsame
  have hcount : limit.toInt = -1 := by
    rw [← Int32.toInt_toInt64, hsame.1]
    rfl
  omega

private theorem not_drains (laws : BlobReads B) {bs : Bytes} {src : BlobSource B}
    (hsrc : src.Over bs)
    {sizes : Nat → Int64} (hsizes : ∀ i, 1 ≤ (sizes i).toInt) (i : Nat) (out : Bytes) :
    ¬ Drains sizes i src out := by
  intro hdrains
  have hnonneg : ∀ i, 0 ≤ (sizes i).toInt := fun i => Int.le_trans (by decide) (hsizes i)
  induction hdrains with
  | stop hread => exact read_ne_endOfSequence laws hsrc (hnonneg _) hread
  | @more i src src' count s rest hread hcount hrest ih =>
    obtain ⟨limit, mid, hread', -, hmid, -⟩ := read_delivers laws hsrc (hnonneg i)
    have hsame : mid = src' := hread'.final.symm.trans hread.final
    exact ih (hsame ▸ hmid)

/-- Reading until the end is reported stops and delivers the bytes from the position on. -/
def DrainsExactly (sizes : Nat → Int64) (src : BlobSource B) : Prop := Drains sizes 0 src src.rest

end BlobSource

/-- A loop that reads a blob until the end is reported never stops, whatever the blob, the position
and the sizes of its buffers. -/
theorem blobSource_never_drains {B : Type} [api : BlobApi B] (laws : BlobReads B) {bs : Bytes}
    {src : BlobSource B} (hsrc : src.Over bs) {sizes : Nat → Int64}
    (hsizes : ∀ i, 1 ≤ (sizes i).toInt) : ¬ src.DrainsExactly sizes := by
  intro hdrains
  exact BlobSource.not_drains laws hsrc hsizes 0 src.rest hdrains

theorem blobSource_never_drains_threeBytes :
    ¬ (BlobSource.new threeBytes).DrainsExactly fun _ => 2 :=
  blobSource_never_drains blobReads_memoryBlob (BlobSource.new_over blobReads_memoryBlob threeBytes)
    fun _ => by decide

/-- Three bytes through a buffer of two: after them the count is 0 and not the end. -/
theorem blobSource_end_not_reported :
    let src := BlobSource.new threeBytes
    (BlobSource.readAll [2, 2] src).outcome = .ok [1, 2, 3] ∧
      (BlobSource.read 2 (BlobSource.readAll [2, 2] src).final).outcome = .ok (0, []) ∧
      ¬ src.DrainsExactly fun _ => 2 := by
  intro src
  refine ⟨by decide, by decide, ?_⟩
  exact BlobSource.not_drains blobReads_memoryBlob
    (BlobSource.new_over blobReads_memoryBlob threeBytes) (fun _ => by decide) 0 src.rest

end Sqxx
