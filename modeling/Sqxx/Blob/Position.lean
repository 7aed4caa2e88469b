import Sqxx.Blob.Source

/-!
# The position of a blob stream

Whatever is called on a blob stream, the position stays in the blob or at its end and a throw does
not move it.  The read calls that reach the library are recorded by the handle, so that what is
said of their arguments is said of the calls themselves.
-/

namespace Sqxx
open Framework

/-- A blob handle that keeps the count and the offset of every read call made on it. -/
structure RecordedBlob (B : Type) where
  blob : B
  reads : List (Int32 × Int32)

instance {B : Type} [api : BlobApi B] : BlobApi (RecordedBlob B) where
  content b := api.content b.blob
  blobBytes b := api.blobBytes b.blob
  blobRead b n off :=
    let (answer, blob) := api.blobRead b.blob n off
    (answer, ⟨blob, (n, off) :: b.reads⟩)
  blobWrite b z n off :=
    let (rv, blob) := api.blobWrite b.blob z n off
    (rv, { b with blob := blob })
  blobClose b :=
    let (rv, blob) := api.blobClose b.blob
    (rv, { b with blob := blob })

theorem BlobBounds.recorded {B : Type} [BlobApi B] (laws : BlobBounds B) :
    BlobBounds (RecordedBlob B) where
  nonneg b := laws.nonneg b.blob
  write b z n off h := laws.write b.blob z n off h
  write_bytes b z n off := laws.write_bytes b.blob z n off
  read_bytes b n off := laws.read_bytes b.blob n off

/-- `read` and `write` add to the position. -/
def BlobCall.Adds : BlobCall → Prop
  | .read _ | .write _ _ => True
  | .seek _ _ => False

namespace BlobSource

variable {B : Type} [api : BlobApi B]

/-- The blob has not grown beyond `len` bytes and every read call was for bytes among them. -/
structure CallsWithin (len : Int32) (handle : RecordedBlob B) : Prop where
  bytes : (api.blobBytes handle.blob).toInt ≤ len.toInt
  reads : ∀ r ∈ handle.reads,
    0 ≤ r.1.toInt ∧ 0 ≤ r.2.toInt ∧ r.2.toInt + r.1.toInt ≤ len.toInt

/-- The stream of a blob that was opened with `len` bytes. -/
structure Within (len : Int32) (src : BlobSource (RecordedBlob B)) : Prop extends
    Positioned src where
  opened : src.len = len
  calls : CallsWithin len src.handle

/-- A call that throws does not move the position; one that adds to it adds without overflow. -/
structure KeepsPosition (overflow : Int → Int64) (src : BlobSource (RecordedBlob B))
    (c : BlobCall) : Prop where
  thrown : ∀ e, (invoke overflow c src).outcome = .error e →
    (exec overflow src c).pos = src.pos
  added : ∀ count, c.Adds → (invoke overflow c src).outcome = .ok count →
    (exec overflow src c).pos.toInt = src.pos.toInt + count.toInt

private theorem new_within (laws : BlobBounds B) (b : B) :
    (new (⟨b, []⟩ : RecordedBlob B)).Within (api.blobBytes b) where
  nonneg := Int.le_refl _
  le := laws.nonneg b
  opened := rfl
  calls := ⟨Int.le_refl _, fun r hr => by cases hr⟩

variable {overflow : Int → Int64} {len : Int32} {src : BlobSource (RecordedBlob B)}

private theorem kept_of_throw (hsrc : src.Within len) {c : BlobCall} {e : Raised}
    {handle : RecordedBlob B}
    (hends : Prog.Ends (invoke overflow c) src (.error e) { src with handle := handle })
    (hcalls : CallsWithin len handle) :
    (exec overflow src c).Within len ∧ KeepsPosition overflow src c := by
  have hfinal : exec overflow src c = { src with handle := handle } := hends.final
  refine ⟨?_, ?_, ?_⟩
  · rw [hfinal]
    exact ⟨⟨hsrc.nonneg, hsrc.le⟩, hsrc.opened, hcalls⟩
  · intro e' _
    rw [hfinal]
  · intro count _ hcount
    rw [hends.outcome] at hcount
    cases hcount

private theorem kept_of_advance (hsrc : src.Within len) {c : BlobCall} {limit : Int32}
    {handle : RecordedBlob B}
    (hends : Prog.Ends (invoke overflow c) src (.ok limit.toInt64)
      { src with handle := handle, pos := src.pos + limit })
    (hcalls : CallsWithin len handle) (hlimit : 0 ≤ limit.toInt)
    (hle : src.pos.toInt + limit.toInt ≤ len.toInt) :
    (exec overflow src c).Within len ∧ KeepsPosition overflow src c := by
  have hfinal : exec overflow src c = { src with handle := handle, pos := src.pos + limit } :=
    hends.final
  have hpos := hsrc.nonneg
  have hsum := advance_toInt hsrc.toPositioned hlimit (by rw [hsrc.opened]; exact hle)
  refine ⟨?_, ?_, ?_⟩
  · rw [hfinal]
    refine ⟨⟨?_, ?_⟩, hsrc.opened, hcalls⟩
    · rw [hsum]
      omega
    · rw [hsum, hsrc.opened]
      exact hle
  · intro e he
    rw [hends.outcome] at he
    cases he
  · intro count _ hcount
    rw [hends.outcome] at hcount
    cases hcount
    rw [hfinal, hsum, Int32.toInt_toInt64]

private theorem read_kept (laws : BlobBounds B) (hsrc : src.Within len) (n : StreamCount) :
    (exec overflow src (.read n)).Within len ∧ KeepsPosition overflow src (.read n) := by
  have hn := n.property
  have hpos := hsrc.nonneg
  have hle := hsrc.le
  have hlimit := readLimit_toInt hsrc.toPositioned hn
  have hcount : 0 ≤ (src.readLimit n).toInt := by omega
  have hroom : src.pos.toInt + (src.readLimit n).toInt ≤ len.toInt := by
    rw [← hsrc.opened]
    omega
  have hcalls : CallsWithin len (BlobApi.blobRead src.handle (src.readLimit n) src.pos).2 := by
    constructor
    · exact Int.le_trans (laws.read_bytes src.handle.blob _ _) hsrc.calls.bytes
    · intro r hr
      rcases List.mem_cons.mp hr with rfl | hr
      · exact ⟨hcount, hpos, hroom⟩
      · exact hsrc.calls.reads r hr
  rcases src.read_cases n with ⟨hok, hends⟩ | ⟨hno, hends⟩
  · exact kept_of_advance hsrc (hends.bind (Prog.Ends.pure _ _)) hcalls hcount hroom
  · exact kept_of_throw hsrc hends.bind_error hcalls

/-- A write is not clamped: it is the library that rejects a count that does not fit. -/
theorem write_kept (laws : BlobBounds B) (hsrc : src.Within len) (s : Pointer) (n : StreamCount) :
    (exec overflow src (.write s n)).Within len ∧ KeepsPosition overflow src (.write s n) := by
  have hbytes := hsrc.calls.bytes
  have hcalls : CallsWithin len (BlobApi.blobWrite src.handle s n.val.toInt32 src.pos).2 :=
    ⟨Int.le_trans (laws.write_bytes src.handle.blob _ _ _) hbytes, hsrc.calls.reads⟩
  rcases src.write_cases s n with ⟨hok, hends⟩ | ⟨hno, hends⟩
  · obtain ⟨hlimit, hroom⟩ := laws.write src.handle.blob s n.val.toInt32 src.pos hok
    exact kept_of_advance hsrc hends hcalls hlimit (Int.le_trans hroom hbytes)
  · exact kept_of_throw hsrc hends hcalls

private theorem seek_kept (hsrc : src.Within len) (off : Int64) (way : SeekDir) :
    (exec overflow src (.seek off way)).Within len ∧
      KeepsPosition overflow src (.seek off way) := by
  rcases src.seek_cases overflow off way with ⟨t, -, ⟨hzero, hlt⟩, hends⟩ | ⟨-, e, hends⟩
  · have hfinal : exec overflow src (.seek off way) = { src with pos := t } := hends.final
    have hout : (invoke overflow (.seek off way) src).outcome = .ok t.toInt64 := hends.outcome
    refine ⟨?_, ?_, ?_⟩
    · rw [hfinal]
      exact ⟨⟨hzero, Int.le_of_lt hlt⟩, hsrc.opened, hsrc.calls⟩
    · intro e he
      rw [hout] at he
      cases he
    · intro count hadds
      exact hadds.elim
  · exact kept_of_throw hsrc hends hsrc.calls

private theorem call_kept (laws : BlobBounds B) (hsrc : src.Within len) (c : BlobCall) :
    (exec overflow src c).Within len ∧ KeepsPosition overflow src c := by
  cases c with
  | read n => exact read_kept laws hsrc n
  | write s n => exact write_kept laws hsrc s n
  | seek off way => exact seek_kept hsrc off way

end BlobSource

/-- On a blob of any size, after any calls: the position is in `[0, len]`, every read call was for
bytes of the blob, and each call adds exactly or, when it throws, leaves the position. -/
theorem blobSource_position {B : Type} [api : BlobApi B] (laws : BlobBounds B)
    (overflow : Int → Int64) (b : B) (calls : List BlobCall) :
    let opened := BlobSource.new (⟨b, []⟩ : RecordedBlob B)
    Always (BlobSource.exec overflow) (BlobSource.Within (api.blobBytes b)) opened calls ∧
      StepsMeet (BlobSource.exec overflow) (BlobSource.KeepsPosition overflow) opened calls := by
  intro opened
  have hopened : opened.Within (api.blobBytes b) := BlobSource.new_within laws b
  have hstep : ∀ (src : BlobSource (RecordedBlob B)) c, src.Within (api.blobBytes b) →
      (BlobSource.exec overflow src c).Within (api.blobBytes b) :=
    fun src c hsrc => (BlobSource.call_kept laws hsrc c).1
  have hkept : ∀ (src : BlobSource (RecordedBlob B)) c, src.Within (api.blobBytes b) →
      BlobSource.KeepsPosition overflow src c :=
    fun src c hsrc => (BlobSource.call_kept laws hsrc c).2
  constructor
  · exact always_of_preserved hstep hopened calls
  · exact stepsMeet_of_preserved hstep hkept hopened calls

def wideCalls : List BlobCall :=
  [.read ⟨5, by decide⟩, .write (memoryOf []) ⟨4294967296, by decide⟩, .seek 4294967296 .beg,
    .read ⟨1, by decide⟩, .seek 9223372036854775807 .cur]

theorem blobSource_position_wideCalls :
    let opened := BlobSource.new (⟨threeBytes, []⟩ : RecordedBlob MemoryBlob)
    let overflow : Int → Int64 := Int64.ofInt
    Always (BlobSource.exec overflow) (BlobSource.Within (BlobApi.blobBytes threeBytes)) opened
        wideCalls ∧
      StepsMeet (BlobSource.exec overflow) (BlobSource.KeepsPosition overflow) opened wideCalls :=
  blobSource_position blobBounds_memoryBlob Int64.ofInt threeBytes wideCalls

end Sqxx
