import Sqxx.Blob.Writing
import Sqxx.Framework.Devices

/-!
# A blob stream as a file

A program that reads, writes and seeks sees a file of fixed size, as long as no count and no target
wraps into the blob when it is stored in an `int`.
-/

namespace Sqxx
open Framework

abbrev BlobFile := Device UInt8

namespace BlobFile

def opened (bs : Bytes) : BlobFile where
  cells i := bs.getD i 0
  size := bs.length
  head := 0
  head_le := Nat.zero_le _

private theorem opened_content (bs : Bytes) : (opened bs).content = bs := by
  apply List.ext_getElem
  · simp [Device.content, opened]
  · intro i hi hi'
    simp [Device.content, opened, hi']

/-- The position asked for. The last byte is `0` from the end. -/
def target (f : BlobFile) (off : Int64) : SeekDir → Option Int
  | .beg => some off.toInt
  | .cur => some (f.head + off.toInt)
  | .fromEnd => some (f.size + off.toInt - 1)
  | .other => none

def request (f : BlobFile) : BlobCall → Request UInt8
  | .read n => .read n.val.toInt.toNat
  | .write s n => .write (readMem s n.val.toInt.toNat)
  | .seek off way => .seek (f.target off way)

def answer : Machine BlobFile BlobCall (Reply UInt8) := fun f c => Device.reply f (f.request c)

theorem next_eq (f : BlobFile) (c : BlobCall) :
    answer.next f c = Device.reply.next f (f.request c) := rfl

/-- The bytes that calls write and their positions, in order. -/
def written (f : BlobFile) (calls : List BlobCall) : List (Nat × UInt8) :=
  emitted answer.next (fun f c => Device.assigned f (request f c)) f calls

private theorem run_cells (f : BlobFile) (calls : List BlobCall) :
    (run answer.next f calls).cells = run assign f.cells (f.written calls) :=
  run_assign_emitted (fun f c => Device.next_cells f (request f c)) f calls

private theorem run_size (f : BlobFile) (calls : List BlobCall) :
    (run answer.next f calls).size = f.size := by
  have hstep : ∀ (g : BlobFile) c, g.size = f.size → (answer.next g c).size = f.size := by
    intro g c hg
    rw [next_eq, Device.next_size]
    exact hg
  exact (always_of_preserved hstep rfl calls).last

def HasRoom (f : BlobFile) (n : Int) : Prop := 0 ≤ n ∧ f.head + n ≤ f.size

def Inside (f : BlobFile) (t : Int) : Prop := 0 ≤ t ∧ t < f.size

instance (f : BlobFile) (t : Int) : Decidable (f.Inside t) :=
  inferInstanceAs (Decidable (_ ∧ _))

instance (x : Int) : Decidable (InInt64 x) := inferInstanceAs (Decidable (_ ∧ _))

/-- The sums of the target do not overflow 64 bits. -/
def SumsFit (f : BlobFile) (off : Int64) : SeekDir → Prop
  | .beg | .other => True
  | .cur => InInt64 (f.head + off.toInt)
  | .fromEnd => InInt64 (f.size + off.toInt) ∧ InInt64 (f.size + off.toInt - 1)

/-- No count or target outside the file is one inside when it is stored in an `int`. -/
def Safe (f : BlobFile) : BlobCall → Prop
  | .read _ => True
  | .write _ n => n.val.toInt < 2 ^ 31 ∨ ¬ f.HasRoom (narrowed n.val.toInt)
  | .seek off way => f.size = 0 ∨ (f.SumsFit off way ∧
      ∀ t, f.target off way = some t → ¬ f.Inside t → ¬ f.Inside (narrowed t))

end BlobFile

namespace BlobSource

variable {B : Type} [api : BlobApi B]

/-- A reply holds the bytes in the buffer or what is returned; a throw is a refusal. -/
def reply (overflow : Int → Int64) (src : BlobSource B) : BlobCall → Reply UInt8
  | .read n =>
    match (read n.val src).outcome with
    | .ok (count, s) => .took (s.take count.toInt.toNat)
    | .error _ => .refused
  | .write s n =>
    match (write s n.val src).outcome with
    | .ok count => .stored count.toInt.toNat
    | .error _ => .refused
  | .seek off way =>
    match (seek overflow off way src).outcome with
    | .ok pos => .moved pos.toInt.toNat
    | .error _ => .refused

def answer (overflow : Int → Int64) : Machine (BlobSource B) BlobCall (Reply UInt8) :=
  fun src c => (reply overflow src c, exec overflow src c)

/-- The stream stands in a blob with these bytes where the file stands. -/
structure Tracks (src : BlobSource B) (f : BlobFile) : Prop where
  content : api.content src.handle = f.content
  head : src.pos.toInt = f.head
  size : src.len.toInt = f.size

variable {src : BlobSource B} {f : BlobFile}

private theorem new_tracks (laws : BlobWrites B) (b : B) :
    (new b).Tracks (BlobFile.opened (api.content b)) where
  content := (BlobFile.opened_content _).symm
  head := rfl
  size := laws.bytes b

private theorem Tracks.whole (h : src.Tracks f) : src.Whole where
  nonneg := by
    rw [h.head]
    omega
  le := by
    have hhead := f.head_le
    rw [h.head, h.size]
    omega
  content := rfl
  length := by
    rw [h.content, h.size, Device.content, List.length_map, List.length_range]

theorem Tracks.target (h : src.Tracks f) (off : Int64) (way : SeekDir) :
    src.target off way = f.target off way := by
  cases way <;> simp [BlobSource.target, BlobFile.target, h.head, h.size]

private theorem Tracks.hasRoom (h : src.Tracks f) (n : Int) : src.HasRoom n ↔ f.HasRoom n := by
  rw [BlobSource.HasRoom, BlobFile.HasRoom, h.head, h.size]

private theorem Tracks.safe_seek (h : src.Tracks f) (off : Int64) (way : SeekDir) :
    src.SeekSafe off way ↔ f.Safe (.seek off way) := by
  have hfit : src.SumsFit off way ↔ f.SumsFit off way := by
    cases way <;> simp [BlobSource.SumsFit, BlobFile.SumsFit, h.head, h.size]
  have hempty : (f.size : Int) ≤ 0 ↔ f.size = 0 := by omega
  simp only [SeekSafe, BlobFile.Safe, StaysOutside, BlobFile.Inside, h.target, h.size, hfit, hempty]

/-! ## Calls that are safe -/

private theorem read_follows (reads : BlobReads B) (overflow : Int → Int64) (h : src.Tracks f)
    (n : StreamCount) :
    reply overflow src (.read n) = (f.answer (.read n)).1 ∧
      (exec overflow src (.read n)).Tracks (BlobFile.answer.next f (.read n)) := by
  have hn := n.property
  have hhead := f.head_le
  have hfiled : f.content.length = f.size := f.content_length
  obtain ⟨limit, src', hread, hlimit, hover, hrest⟩ := read_delivers reads h.whole hn
  have hleft : src.rest = f.content.drop f.head := by
    rw [rest, h.content, h.head]
    rfl
  have hlength : src.rest.length = f.size - f.head := by
    rw [hleft, List.length_drop, hfiled]
  have htaken : limit.toInt.toNat = f.taken n.val.toInt.toNat := by
    rw [Device.taken]
    omega
  have hcall : Prog.Ends (invoke overflow (.read n)) src (.ok limit.toInt64) src' :=
    hread.bind (Prog.Ends.pure _ _)
  have hfinal : exec overflow src (.read n) = src' := hcall.final
  constructor
  · -- the limit is the count, unless that is more than is left
    have hbytes : src.rest.take limit.toInt.toNat =
        (f.content.drop f.head).take n.val.toInt.toNat := by
      rw [hleft, List.take_eq_take_iff, List.length_drop, hfiled, htaken, Device.taken]
      omega
    simp only [reply, hread.outcome]
    rw [Int32.toInt_toInt64, List.take_take, Nat.min_self, hbytes]
    rfl
  · rw [hfinal]
    have hsize : src'.len.toInt = f.size := by
      rw [hover.length, h.content, hfiled]
    -- the position by what is left
    have hskipped : src'.rest.length = src.rest.length - limit.toInt.toNat := by
      rw [hrest, List.length_drop]
    have hbehind : src'.rest.length = f.size - src'.pos.toInt.toNat := by
      rw [rest, List.length_drop, hover.content, h.content, hfiled]
    have hpos := hover.nonneg
    have hle := hover.le
    refine ⟨hover.content.trans h.content, ?_, hsize⟩
    change src'.pos.toInt = ((f.head + f.taken n.val.toInt.toNat : Nat) : Int)
    omega

private theorem write_follows (writes : BlobWrites B) (overflow : Int → Int64) (h : src.Tracks f)
    (s : Pointer) (n : StreamCount) (hsafe : f.Safe (.write s n)) :
    reply overflow src (.write s n) = (f.answer (.write s n)).1 ∧
      (exec overflow src (.write s n)).Tracks (BlobFile.answer.next f (.write s n)) := by
  have hn := n.property
  have hmem : (readMem s n.val.toInt.toNat).length = n.val.toInt.toNat := readMem_length _ _
  by_cases hfits : f.head + (readMem s n.val.toInt.toNat).length ≤ f.size
  · have hmax := src.len.toInt_lt
    have hsize := h.size
    have hvalue : n.val.toInt32.toInt = n.val.toInt :=
      toInt32_of_range (by omega) (by omega)
    have hroom : src.HasRoom n.val.toInt32.toInt := by
      rw [h.hasRoom, hvalue, BlobFile.HasRoom]
      omega
    obtain ⟨src', hends, hcontent, hpos, hlen⟩ := write_stores writes h.whole s hroom
    obtain ⟨hstored, hhead⟩ := Device.write_fits hfits
    have hfinal : exec overflow src (.write s n) = src' := hends.final
    constructor
    · have hcount : reply overflow src (.write s n) = .stored n.val.toInt.toNat := by
        simp only [reply, hends.outcome]
        rw [Int32.toInt_toInt64, hvalue]
      rw [hcount, ← hmem]
      exact hstored.symm
    · rw [hfinal]
      refine ⟨?_, ?_, ?_⟩
      · rw [hcontent, h.content, h.head, hvalue, overwritten]
        have hfile := Device.write_content hfits
        rw [hmem] at hfile
        exact hfile.symm
      · rw [hpos, h.head, hvalue, BlobFile.next_eq, BlobFile.request, hhead, hmem]
        omega
      · rw [hlen, hsize, BlobFile.next_eq, BlobFile.request, Device.next_size]
  · have hcount : n.val.toInt32.toInt = narrowed n.val.toInt := Int64.toInt_toInt32 n.val
    have hroom : ¬ src.HasRoom n.val.toInt32.toInt := by
      rw [h.hasRoom]
      rcases hsafe with hlt | hout
      · rw [toInt32_of_range (by omega) hlt, BlobFile.HasRoom]
        omega
      · rw [hcount]
        exact hout
    obtain ⟨e, src', hends, hcontent, hpos, hlen⟩ := write_rejects writes h.whole s hroom
    have hrefused : f.answer (.write s n) = (.refused, f) := Device.write_refused hfits
    have hfinal : exec overflow src (.write s n) = src' := hends.final
    constructor
    · rw [hrefused]
      simp only [reply, hends.outcome]
    · rw [hfinal, Machine.next, hrefused]
      exact ⟨hcontent.trans h.content, hpos ▸ h.head, hlen ▸ h.size⟩

private theorem seek_follows (overflow : Int → Int64) (h : src.Tracks f) (off : Int64)
    (way : SeekDir) (hsafe : f.Safe (.seek off way)) :
    reply overflow src (.seek off way) = (f.answer (.seek off way)).1 ∧
      (exec overflow src (.seek off way)).Tracks (BlobFile.answer.next f (.seek off way)) := by
  have hseek := seeksTo_of_safe overflow ((h.safe_seek off way).mpr hsafe)
  have hrefused (hout : ∀ t, f.target off way = some t → ¬ f.Inside t) {e : Exn}
      (hends : Prog.Ends (seek overflow off way) src (.error (.exception e)) src) :
      reply overflow src (.seek off way) = (f.answer (.seek off way)).1 ∧
        (exec overflow src (.seek off way)).Tracks (BlobFile.answer.next f (.seek off way)) := by
    have hanswer : f.answer (.seek off way) = (.refused, f) := Device.seek_refused hout
    have hfinal : exec overflow src (.seek off way) = src := hends.final
    rw [hfinal, Machine.next, hanswer]
    refine ⟨?_, h⟩
    simp only [reply, hends.outcome]
  rw [SeeksTo, h.target] at hseek
  rcases htarget : f.target off way with _ | t
  · rw [htarget] at hseek
    obtain ⟨e, hends⟩ := hseek
    apply hrefused _ hends
    intro t ht
    rw [htarget] at ht
    cases ht
  · simp only [htarget, h.size] at hseek
    by_cases hin : 0 ≤ t ∧ t < (f.size : Int)
    · rw [if_pos hin] at hseek
      obtain ⟨pos, hpos, hends⟩ := hseek
      obtain ⟨hmoved, hhead⟩ := Device.seek_inside hin
      have hfinal : exec overflow src (.seek off way) = { src with pos := pos } := hends.final
      have hanswer : f.request (.seek off way) = .seek (some t) := congrArg _ htarget
      have hzero := hin.1
      constructor
      · simp only [reply, hends.outcome]
        rw [Int32.toInt_toInt64, hpos, BlobFile.answer, hanswer, hmoved]
      · rw [hfinal, BlobFile.next_eq, hanswer]
        refine ⟨?_, ?_, ?_⟩
        · rw [Device.seek_content]
          exact h.content
        · rw [hhead]
          change pos.toInt = _
          omega
        · rw [Device.next_size]
          exact h.size
    · rw [if_neg hin] at hseek
      obtain ⟨e, hends⟩ := hseek
      apply hrefused _ hends
      intro t' ht'
      rw [htarget] at ht'
      cases ht'
      exact hin

private theorem answer_follows (reads : BlobReads B) (writes : BlobWrites B)
    (overflow : Int → Int64) (h : src.Tracks f) (c : BlobCall) (hsafe : f.Safe c) :
    (answer overflow src c).1 = (f.answer c).1 ∧
      ((answer overflow).next src c).Tracks (BlobFile.answer.next f c) := by
  cases c with
  | read n => exact read_follows reads overflow h n
  | write s n => exact write_follows writes overflow h s n hsafe
  | seek off way => exact seek_follows overflow h off way hsafe

/-! ## Calls that are not -/

private theorem write_shows (writes : BlobWrites B) (overflow : Int → Int64) (h : src.Tracks f)
    (s : Pointer) (n : StreamCount) (hwraps : ¬ f.Safe (.write s n)) :
    reply overflow src (.write s n) ≠ (f.answer (.write s n)).1 := by
  obtain ⟨hlarge, hroom⟩ := not_or.mp hwraps
  have hcount : n.val.toInt32.toInt = narrowed n.val.toInt := Int64.toInt_toInt32 n.val
  have hmax := src.len.toInt_lt
  have hsize := h.size
  have hmem : (readMem s n.val.toInt.toNat).length = n.val.toInt.toNat := readMem_length _ _
  have hout : ¬ f.head + (readMem s n.val.toInt.toNat).length ≤ f.size := by omega
  have hrefused : f.answer (.write s n) = (.refused, f) := Device.write_refused hout
  have hstored : src.HasRoom n.val.toInt32.toInt := by
    rw [h.hasRoom, hcount]
    exact not_not.mp hroom
  obtain ⟨src', hends, -⟩ := write_stores writes h.whole s hstored
  simp only [reply, hends.outcome, hrefused]
  intro hsame
  cases hsame

private theorem seek_shows {overflow : Int → Int64} {off : Int64} {way : SeekDir}
    {t : Int} (ht : f.target off way = some t) (hout : ¬ f.Inside t) {next : Int32}
    (hnext : src.next overflow off way = some next)
    (hin : 0 ≤ next.toInt ∧ next.toInt < src.len.toInt) :
    reply overflow src (.seek off way) ≠ (f.answer (.seek off way)).1 := by
  have hrefused : f.answer (.seek off way) = (.refused, f) := by
    apply Device.seek_refused
    intro t' ht'
    rw [ht] at ht'
    cases ht'
    exact hout
  rcases src.seek_cases overflow off way with ⟨pos, -, -, hends⟩ | ⟨hno, -⟩
  · simp only [reply, hends.outcome, hrefused]
    intro hsame
    cases hsame
  · exact absurd hin (hno next hnext)

theorem Tracks.next_eq {src' : BlobSource B} (h : src.Tracks f) (h' : src'.Tracks f)
    (overflow : Int → Int64) (off : Int64) (way : SeekDir) :
    src'.next overflow off way = src.next overflow off way := by
  have hpos : src'.pos = src.pos := Int32.toInt_inj.mp (h'.head.trans h.head.symm)
  have hlen : src'.len = src.len := Int32.toInt_inj.mp (h'.size.trans h.size.symm)
  cases way <;> simp [next, hpos, hlen]

private theorem answer_shows (writes : BlobWrites B) (h : src.Tracks f) (c : BlobCall)
    (hwraps : ¬ f.Safe c) :
    ∃ overflow, ∀ src' : BlobSource B, src'.Tracks f →
      (answer overflow src' c).1 ≠ (f.answer c).1 := by
  cases c with
  | read n => exact (hwraps trivial).elim
  | write s n =>
    exact ⟨Int64.ofInt, fun src' h' => write_shows writes Int64.ofInt h' s n hwraps⟩
  | seek off way =>
    have hseek : ¬ src.SeekSafe off way := fun hsafe => hwraps ((h.safe_seek off way).mp hsafe)
    rw [SeekSafe, not_or, not_and_or] at hseek
    obtain ⟨hlen, hbad⟩ := hseek
    have hpos : 0 < src.len.toInt := by omega
    obtain ⟨overflow, t, next, ht, hout, hnext, hin⟩ : ∃ overflow t next,
        src.target off way = some t ∧ ¬ (0 ≤ t ∧ t < src.len.toInt) ∧
          src.next overflow off way = some next ∧
          (0 ≤ next.toInt ∧ next.toInt < src.len.toInt) := by
      rcases Classical.em (src.SumsFit off way) with hfit | hfit
      · have hwrap := hbad.resolve_left fun h => h hfit
        simp only [StaysOutside, not_forall, not_not] at hwrap
        obtain ⟨t, ht, hout, hin⟩ := hwrap
        obtain ⟨next, hnext, hvalue⟩ := next_of_sumsFit Int64.ofInt hfit ht
        exact ⟨Int64.ofInt, t, next, ht, hout, hnext, by rwa [hvalue]⟩
      · obtain ⟨t, ht, hout, overflow, hnext⟩ := exists_overflow_inside hpos hfit
        exact ⟨overflow, t, 0, ht, hout, hnext, by decide, hpos⟩
    refine ⟨overflow, fun src' h' => ?_⟩
    rw [h.target] at ht
    rw [← h.next_eq h'] at hnext
    rw [h.size] at hout hin
    rw [← h'.size] at hin
    exact seek_shows ht hout hnext hin

end BlobSource

/-- A blob stream replies like the file of its blob to every call of a run, whatever an overflow
does, exactly when no count of a write and no target of a seek wraps into the file. -/
theorem blobSource_file_iff {B : Type} [api : BlobApi B] (reads : BlobReads B)
    (writes : BlobWrites B) (b : B) (calls : List BlobCall) :
    let file := BlobFile.opened (api.content b)
    (∀ overflow, (BlobSource.answer overflow).history (BlobSource.new b) calls =
        BlobFile.answer.history file calls) ↔
      StepsMeet BlobFile.answer.next BlobFile.Safe file calls := by
  intro file
  have : Nonempty (Int → Int64) := ⟨Int64.ofInt⟩
  exact Machine.refines_run_iff (R := BlobSource.Tracks)
    (fun overflow _ _ c h hsafe => BlobSource.answer_follows reads writes overflow h c hsafe)
    (fun _ _ c h hwraps => BlobSource.answer_shows writes h c hwraps)
    (fun _ => BlobSource.new_tracks writes b) calls

def fileCalls : List BlobCall :=
  [.write (memoryOf [9, 8]) ⟨2, by decide⟩, .seek (-1) .fromEnd, .read ⟨4, by decide⟩,
    .write (memoryOf [7, 7, 7]) ⟨3, by decide⟩]

private theorem fileCalls_safe :
    StepsMeet BlobFile.answer.next BlobFile.Safe (BlobFile.opened [1, 2, 3]) fileCalls := by
  refine ⟨Or.inl (by decide), Or.inr ⟨?_, ?_⟩, trivial, Or.inl (by decide), trivial⟩
  · exact ⟨by decide, by decide⟩
  · intro t ht hout
    cases ht
    exact absurd (by decide) hout

/-- On three bytes they are stored, moved to, delivered and refused. -/
theorem blobSource_file_iff_threeBytes :
    ((BlobSource.answer Int64.ofInt).history (BlobSource.new threeBytes) fileCalls).map Prod.snd =
      [.stored 2, .moved 1, .took [8, 3], .refused] := by
  have hfile :=
    (blobSource_file_iff blobReads_memoryBlob blobWrites_memoryBlob threeBytes fileCalls).mpr
      fileCalls_safe
  rw [hfile Int64.ofInt]
  rfl

/-- After calls that are safe a read delivers, byte by byte, what was written there last, and what
the blob held at first where nothing was. -/
theorem blobSource_reads_lastWritten {B : Type} [api : BlobApi B] (reads : BlobReads B)
    (writes : BlobWrites B) (overflow : Int → Int64) (b : B) {calls : List BlobCall}
    (hsafe : StepsMeet BlobFile.answer.next BlobFile.Safe (BlobFile.opened (api.content b)) calls)
    (n : StreamCount) :
    let src := run (BlobSource.exec overflow) (BlobSource.new b) calls
    let written := (BlobFile.opened (api.content b)).written calls
    ∃ (count : Int64) (bs : Bytes) (src' : BlobSource B),
      Prog.Ends (BlobSource.read n.val) src (.ok (count, bs)) src' ∧
        count.toInt = min n.val.toInt (src.len.toInt - src.pos.toInt) ∧
        bs.length = count.toInt.toNat ∧
        ∀ i < bs.length, bs[i]? = (lastAssigned (src.pos.toInt.toNat + i) written).or
          (api.content b)[src.pos.toInt.toNat + i]? := by
  intro src written
  let file := BlobFile.opened (api.content b)
  let f := run BlobFile.answer.next file calls
  have htracks : src.Tracks f := (Machine.refines_run (R := BlobSource.Tracks)
    (fun _ _ c h hsafe => BlobSource.answer_follows reads writes overflow h c hsafe)
    (BlobSource.new_tracks writes b) hsafe).2
  have hcells : f.cells = run assign file.cells written := BlobFile.run_cells file calls
  obtain ⟨limit, src', hread, hlimit, -, -⟩ :=
    BlobSource.read_delivers reads htracks.whole n.property
  have hhead : src.pos.toInt.toNat = f.head := by
    have hpos := htracks.head
    omega
  have hfiled : f.content.length = f.size := Device.content_length f
  have hrest : src.rest = f.content.drop f.head := by
    rw [BlobSource.rest, htracks.content, hhead]
  have hleft : (src.rest.length : Int) = src.len.toInt - src.pos.toInt := by
    have hle := f.head_le
    rw [hrest, List.length_drop, hfiled, htracks.size, htracks.head]
    omega
  refine ⟨_, _, src', hread, ?_, ?_, ?_⟩
  · rw [Int32.toInt_toInt64, hlimit, hleft]
  · rw [Int32.toInt_toInt64, List.length_take]
    omega
  · intro i hi
    have hin : f.head + i < f.size := by
      rw [List.length_take, hrest, List.length_drop, hfiled] at hi
      omega
    have hfirst : (api.content b)[f.head + i]? = some (file.cells (f.head + i)) := by
      have hcontent := Device.getElem?_content file (f.head + i)
      rwa [BlobFile.opened_content, if_pos (by rw [← BlobFile.run_size file calls]; exact hin)]
        at hcontent
    rw [List.getElem?_take_of_lt (by rw [List.length_take] at hi; omega), hrest,
      List.getElem?_drop, Device.getElem?_content, if_pos hin, hhead, hfirst, hcells, run_assign]
    cases lastAssigned (f.head + i) written <;> rfl

/-- Two bytes are written over the first ones and then read with the third. -/
theorem blobSource_reads_lastWritten_threeBytes :
    let calls := fileCalls.take 1 ++ [.seek 0 .beg]
    let src := run (BlobSource.exec Int64.ofInt) (BlobSource.new threeBytes) calls
    let written := (BlobFile.opened [1, 2, 3]).written calls
    ∃ (count : Int64) (bs : Bytes) (src' : BlobSource MemoryBlob),
      Prog.Ends (BlobSource.read 5) src (.ok (count, bs)) src' ∧
        count.toInt = min 5 (src.len.toInt - src.pos.toInt) ∧ bs.length = count.toInt.toNat ∧
        ∀ i < bs.length, bs[i]? = (lastAssigned (src.pos.toInt.toNat + i) written).or
          [1, 2, 3][src.pos.toInt.toNat + i]? :=
  blobSource_reads_lastWritten blobReads_memoryBlob blobWrites_memoryBlob Int64.ofInt threeBytes
    (by
      refine ⟨Or.inl (by decide), Or.inr ⟨trivial, ?_⟩, trivial⟩
      intro t ht hout
      cases ht
      exact absurd (by decide) hout)
    ⟨5, by decide⟩

end Sqxx
