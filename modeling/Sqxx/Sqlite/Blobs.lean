import Sqxx.Datatypes
import Sqxx.Error

/-!
# Incremental blob I/O in the C library

An open blob handle is the state `B`.  Its size is fixed by the row it was opened on; reading and
writing never make it grow, and a handle whose row is gone reports no bytes.
-/

namespace Sqxx

/-- The `sqlite3_blob_*` family on one handle. `content` tells what the blob holds; it is no
function of the library. A read gives the code and the bytes it put into the buffer. -/
class BlobApi (B : Type) where
  content : B → Bytes
  blobBytes : B → Int32
  blobRead : B → Int32 → Int32 → (Int × Bytes) × B
  blobWrite : B → Pointer → Int32 → Int32 → Int × B
  blobClose : B → Int × B

/-- A write is accepted only inside the blob, and no call makes it larger. -/
structure BlobBounds (B : Type) [api : BlobApi B] : Prop where
  nonneg : ∀ b : B, 0 ≤ (api.blobBytes b).toInt
  write : ∀ (b : B) z n off, (api.blobWrite b z n off).1 = SQLITE_OK →
    0 ≤ n.toInt ∧ off.toInt + n.toInt ≤ (api.blobBytes b).toInt
  write_bytes : ∀ (b : B) z n off,
    (api.blobBytes (api.blobWrite b z n off).2).toInt ≤ (api.blobBytes b).toInt
  read_bytes : ∀ (b : B) n off,
    (api.blobBytes (api.blobRead b n off).2).toInt ≤ (api.blobBytes b).toInt

/-- Inside the blob a read succeeds, delivers the bytes it was asked for and changes nothing. -/
structure BlobReads (B : Type) [api : BlobApi B] : Prop where
  bytes : ∀ b : B, (api.blobBytes b).toInt = (api.content b).length
  read : ∀ (b : B) (n off : Int32), 0 ≤ n.toInt → 0 ≤ off.toInt →
    off.toInt + n.toInt ≤ (api.blobBytes b).toInt →
      (api.blobRead b n off).1 =
          (SQLITE_OK, ((api.content b).drop off.toInt.toNat).take n.toInt.toNat) ∧
        api.content (api.blobRead b n off).2 = api.content b

def overwritten (bs : Bytes) (z : Pointer) (n off : Nat) : Bytes :=
  bs.take off ++ readMem z n ++ bs.drop (off + n)

theorem overwritten_length {bs : Bytes} (z : Pointer) {n off : Nat} (h : off + n ≤ bs.length) :
    (overwritten bs z n off).length = bs.length := by
  simp only [overwritten, List.length_append, List.length_take, List.length_drop, readMem_length]
  omega

/-- A write inside the blob stores all its bytes, any other fails, and only writes have an
effect. -/
structure BlobWrites (B : Type) [api : BlobApi B] : Prop where
  bytes : ∀ b : B, (api.blobBytes b).toInt = (api.content b).length
  read : ∀ (b : B) n off, api.content (api.blobRead b n off).2 = api.content b
  write : ∀ (b : B) z (n off : Int32), 0 ≤ n.toInt → 0 ≤ off.toInt →
    off.toInt + n.toInt ≤ (api.blobBytes b).toInt →
      (api.blobWrite b z n off).1 = SQLITE_OK ∧
        api.content (api.blobWrite b z n off).2 =
          overwritten (api.content b) z n.toInt.toNat off.toInt.toNat
  reject : ∀ (b : B) z (n off : Int32),
    ¬ (0 ≤ n.toInt ∧ 0 ≤ off.toInt ∧ off.toInt + n.toInt ≤ (api.blobBytes b).toInt) →
      (api.blobWrite b z n off).1 ≠ SQLITE_OK ∧
        api.content (api.blobWrite b z n off).2 = api.content b

/-- A blob that keeps its bytes; the bound is the largest blob the library stores. -/
structure MemoryBlob where
  bytes : Bytes
  fits : bytes.length < 2 ^ 31
  deriving DecidableEq

def MemoryBlob.InRange (b : MemoryBlob) (n off : Int32) : Prop :=
  0 ≤ n.toInt ∧ 0 ≤ off.toInt ∧ off.toInt + n.toInt ≤ b.bytes.length

instance (b : MemoryBlob) (n off : Int32) : Decidable (b.InRange n off) :=
  inferInstanceAs (Decidable (_ ∧ _ ∧ _))

def MemoryBlob.overwrite (b : MemoryBlob) (z : Pointer) (n off : Int32) (h : b.InRange n off) :
    MemoryBlob where
  bytes := b.bytes.take off.toInt.toNat ++ readMem z n.toInt.toNat ++
    b.bytes.drop (off.toInt.toNat + n.toInt.toNat)
  fits := by
    have hfits := b.fits
    obtain ⟨hn, hoff, hle⟩ := h
    simp only [List.length_append, List.length_take, List.length_drop, readMem_length]
    omega

instance : BlobApi MemoryBlob where
  content b := b.bytes
  blobBytes b := Int32.ofNat b.bytes.length
  blobRead b n off :=
    if b.InRange n off then
      ((SQLITE_OK, (b.bytes.drop off.toInt.toNat).take n.toInt.toNat), b)
    else
      ((SQLITE_ERROR, []), b)
  blobWrite b z n off :=
    if h : b.InRange n off then (SQLITE_OK, b.overwrite z n off h) else (SQLITE_ERROR, b)
  blobClose b := (SQLITE_OK, b)

private theorem MemoryBlob.blobBytes_toInt (b : MemoryBlob) :
    (BlobApi.blobBytes b).toInt = b.bytes.length := by
  exact Int32.toInt_ofNat_of_lt b.fits

theorem blobBounds_memoryBlob : BlobBounds MemoryBlob where
  nonneg b := by
    rw [b.blobBytes_toInt]
    omega
  write b z n off hok := by
    by_cases h : b.InRange n off
    · rw [b.blobBytes_toInt]
      exact ⟨h.1, h.2.2⟩
    · simp [BlobApi.blobWrite, dif_neg h, SQLITE_ERROR, SQLITE_OK] at hok
  write_bytes b z n off := by
    rw [MemoryBlob.blobBytes_toInt, MemoryBlob.blobBytes_toInt]
    by_cases h : b.InRange n off
    · simp only [BlobApi.blobWrite, dif_pos h, MemoryBlob.overwrite, List.length_append,
        List.length_take, List.length_drop, readMem_length]
      obtain ⟨hn, hoff, hle⟩ := h
      omega
    · simp [BlobApi.blobWrite, dif_neg h]
  read_bytes b n off := by
    rw [MemoryBlob.blobBytes_toInt, MemoryBlob.blobBytes_toInt]
    by_cases h : b.InRange n off <;> simp [BlobApi.blobRead, h]

theorem blobReads_memoryBlob : BlobReads MemoryBlob where
  bytes b := b.blobBytes_toInt
  read b n off hn hoff hle := by
    rw [b.blobBytes_toInt] at hle
    have h : b.InRange n off := ⟨hn, hoff, hle⟩
    simp [BlobApi.blobRead, BlobApi.content, h]

theorem blobWrites_memoryBlob : BlobWrites MemoryBlob where
  bytes b := b.blobBytes_toInt
  read b n off := by
    by_cases h : b.InRange n off <;> simp [BlobApi.blobRead, h]
  write b z n off hn hoff hle := by
    rw [b.blobBytes_toInt] at hle
    have h : b.InRange n off := ⟨hn, hoff, hle⟩
    simp [BlobApi.blobWrite, BlobApi.content, h, MemoryBlob.overwrite, overwritten]
  reject b z n off hout := by
    rw [b.blobBytes_toInt] at hout
    have h : ¬ b.InRange n off := hout
    simp [BlobApi.blobWrite, h, SQLITE_ERROR, SQLITE_OK]

def threeBytes : MemoryBlob := ⟨[1, 2, 3], by decide⟩

end Sqxx
