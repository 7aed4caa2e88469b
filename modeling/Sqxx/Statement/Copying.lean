import Sqxx.Statement.Values

/-!
# Copying a column into a parameter

What `val<T>` returns is bound again with `bind<T>`.  A `const char*` ends at the first NUL, a
`std::string` cannot be null, and a blob without data is bound as a blob of zeros.
-/

namespace Sqxx
open Framework

/-- What `val<T>` returns. -/
inductive ReadResult
  | int (v : Int32)
  | int64 (v : Int64)
  | double (v : Double)
  | charPtr (p : Option Pointer)
  | string (v : StdString)
  | blob (v : Blob)

/-- The value that a C++ call with this argument passes on: a `const char*` is the C string it
points at. -/
def ReadResult.Denotes : ReadResult → DbValue → Prop
  | .int v, .int w => v = w
  | .int64 v, .int64 w => v = w
  | .double v, .double w => v = w
  | .charPtr none, .charPtr none => True
  | .charPtr (some p), .charPtr (some s) => PointsTo p s.bytes
  | .string v, .string w => v = w
  | .blob v, .blob w => v = w
  | _, _ => False

def Statement.val {T : Type} [ColumnApi T] (ty : DbType) (idx : Int32) (st : Statement T) :
    Except Raised ReadResult :=
  match ty with
  | .int => .ok (.int (valInt idx st))
  | .int64 => .ok (.int64 (valInt64 idx st))
  | .double => .ok (.double (valDouble idx st))
  | .charPtr => .ok (.charPtr (valCharPtr idx st))
  | .string => (valString idx st).map .string
  | .blob => .ok (.blob (valBlob idx st))

/-- A NULL has neither an address nor bytes. -/
structure NullLaws (T : Type) [ColumnApi T] : Prop where
  blob : ∀ (t : T) c, ColumnApi.column t c = .null → ColumnApi.columnBlob t c = none
  bytes : ∀ (t : T) c, ColumnApi.column t c = .null → ColumnApi.columnBytes t c = 0

/-- Parameter `i` is there and the statement was not stepped since its last reset: the library takes
every value within the limit. -/
structure Accepts {U : Type} [BindApi U] (u : U) (i : Int32) (limit : Nat) : Prop where
  null : (BindApi.bindNull u i).1 = SQLITE_OK
  int : ∀ v, (BindApi.bindInt u i v).1 = SQLITE_OK
  int64 : ∀ v, (BindApi.bindInt64 u i v).1 = SQLITE_OK
  double : ∀ d, (BindApi.bindDouble u i d).1 = SQLITE_OK
  text : ∀ p n, n.toNat ≤ limit → (BindApi.bindText64 u i p n .transient).1 = SQLITE_OK
  blob : ∀ p n, n.toNat ≤ limit → (BindApi.bindBlob64 u i p n .transient).1 = SQLITE_OK
  zeroblob : ∀ n, n.toNat ≤ limit → (BindApi.bindZeroblob64 u i n).1 = SQLITE_OK

namespace SqlValue

/-- The values a column is copied from with `T`: TEXT or NULL, for blobs BLOB or NULL. -/
def CopiedWith : DbType → SqlValue → Prop
  | .charPtr, .text _ | .charPtr, .null => True
  | .string, .text _ | .string, .null => True
  | .blob, .blob _ | .blob, .null => True
  | _, _ => False

def copied : DbType → SqlValue → SqlValue
  | .charPtr, .text bs => .text (bs.takeWhile (· ≠ 0))
  | .string, .null => .text []
  | .blob, .null => .blob []
  | _, x => x

end SqlValue

private theorem readMem_getElem? {p : Pointer} {n i : Nat} (hi : i < n) :
    (readMem p n)[i]? = some (p i) := by
  simp [readMem, hi]

private theorem readMem_take (p : Pointer) {k n : Nat} (hk : k ≤ n) :
    (readMem p n).take k = readMem p k := by
  rw [readMem, ← List.map_take, List.take_range, Nat.min_eq_left hk, readMem]

private theorem pointsTo_unique {p : Pointer} {s t : CStr} (hs : PointsTo p s.bytes)
    (ht : PointsTo p t.bytes) : s = t := by
  have hnonzero : ∀ u : CStr, PointsTo p u.bytes → ∀ i < u.bytes.length, p i ≠ 0 := by
    intro u hu i hi hzero
    have hmem : p i ∈ u.bytes := by
      rw [← hu.1]
      exact List.mem_of_getElem? (readMem_getElem? hi)
    rw [hzero] at hmem
    exact u.noNul hmem
  have hlength : s.bytes.length = t.bytes.length := by
    rcases Nat.lt_trichotomy s.bytes.length t.bytes.length with hlt | heq | hgt
    · exact absurd hs.2 (hnonzero t ht _ hlt)
    · exact heq
    · exact absurd ht.2 (hnonzero s hs _ hgt)
  apply CStr.ext_bytes
  rw [← hs.1, ← ht.1, hlength]

private theorem getElem?_takeWhile_length (bs : Bytes) :
    bs[(bs.takeWhile (· ≠ 0)).length]? = none ∨
      bs[(bs.takeWhile (· ≠ 0)).length]? = some 0 := by
  induction bs with
  | nil => exact Or.inl rfl
  | cons b bs ih =>
    by_cases hb : b = 0
    · right
      simp [hb]
    · simpa [List.takeWhile_cons, hb] using ih

private theorem pointsTo_takeWhile {p : Pointer} {bs : Bytes} (hp : PointsTo p bs) :
    PointsTo p (bs.takeWhile (· ≠ 0)) := by
  have hcut : bs.takeWhile (· ≠ 0) <+: bs := List.takeWhile_prefix _
  have hle : (bs.takeWhile (· ≠ 0)).length ≤ bs.length := hcut.length_le
  constructor
  · rw [← readMem_take p hle, hp.1]
    exact (List.prefix_iff_eq_take.mp hcut).symm
  · rcases Nat.lt_or_eq_of_le hle with hlt | heq
    · have hbyte := readMem_getElem? (p := p) hlt
      rw [hp.1] at hbyte
      rcases getElem?_takeWhile_length bs with hnone | hzero
      · rw [hbyte] at hnone
        cases hnone
      · rw [hbyte] at hzero
        exact Option.some.inj hzero
    · rw [heq]
      exact hp.2

private theorem Blob.Holds.bytes_eq {b : Blob} {bs : Bytes} (hb : b.Holds bs) : b.bytes = bs := by
  obtain ⟨hlength, hdata⟩ := hb
  by_cases hnil : bs = []
  · rw [hnil, List.length_nil] at hlength
    rw [hnil, ← List.length_eq_zero_iff, Blob.bytes_length, hlength]
  · obtain ⟨p, hp, hread⟩ := hdata hnil
    simp only [Blob.bytes, hp, hlength]
    exact hread

/-- `r` is passed on as a value, and every value it is passed on as is `x` to the library. -/
def ReadResult.PassesOn (r : ReadResult) (x : SqlValue) (limit : Nat) : Prop :=
  (∃ v, r.Denotes v) ∧ ∀ v, r.Denotes v → v.toSql = x ∧ v.size ≤ limit

namespace ReadResult

private theorem passesOn_null (limit : Nat) : (charPtr none).PassesOn .null limit := by
  refine ⟨⟨.charPtr none, trivial⟩, ?_⟩
  intro v hv
  cases v with
  | charPtr s =>
    cases s with
    | none => exact ⟨rfl, Nat.zero_le _⟩
    | some s => exact hv.elim
  | _ => exact hv.elim

private theorem passesOn_cStr {p : Pointer} {s : CStr} {limit : Nat} (hp : PointsTo p s.bytes)
    (hsize : s.bytes.length ≤ limit) : (charPtr (some p)).PassesOn (.text s.bytes) limit := by
  refine ⟨⟨.charPtr (some s), hp⟩, ?_⟩
  intro v hv
  cases v with
  | charPtr t =>
    cases t with
    | none => exact hv.elim
    | some t =>
      have hsame : t = s := pointsTo_unique hv hp
      rw [hsame]
      exact ⟨rfl, hsize⟩
  | _ => exact hv.elim

private theorem passesOn_string {s : StdString} {limit : Nat} (hsize : s.bytes.length ≤ limit) :
    (string s).PassesOn (.text s.bytes) limit := by
  refine ⟨⟨.string s, rfl⟩, ?_⟩
  intro v hv
  cases v with
  | string t =>
    have hsame : s = t := hv
    rw [← hsame]
    exact ⟨rfl, hsize⟩
  | _ => exact hv.elim

private theorem passesOn_blob {b : Blob} {bs : Bytes} {limit : Nat} (hb : b.Holds bs)
    (hsize : bs.length ≤ limit) : (blob b).PassesOn (.blob bs) limit := by
  refine ⟨⟨.blob b, rfl⟩, ?_⟩
  intro v hv
  cases v with
  | blob d =>
    have hsame : b = d := hv
    rw [← hsame, DbValue.toSql, DbValue.size, hb.bytes_eq]
    exact ⟨rfl, hsize⟩
  | _ => exact hv.elim

end ReadResult

private theorem val_passesOn {T : Type} [ColumnApi T] {limit : Nat} (hcol : ColumnLaws T limit)
    (hnull : NullLaws T) {ty : DbType} {x : SqlValue} (hty : x.CopiedWith ty) {c : Int32}
    {row : Statement T} (hx : ColumnApi.column row.handle c = x) (hsize : x.size ≤ limit) :
    ∃ r, Statement.val ty c row = .ok r ∧ r.PassesOn (x.copied ty) (min limit (2 ^ 31)) := by
  cases x with
  | null =>
    have htext := hcol.text_null row.handle c hx
    have hbytes := hnull.bytes row.handle c hx
    cases ty with
    | charPtr =>
      refine ⟨.charPtr none, ?_, ReadResult.passesOn_null _⟩
      rw [Statement.val, Statement.valCharPtr, htext]
    | string =>
      refine ⟨.string ⟨[], nil_fits⟩, ?_, ReadResult.passesOn_string (Nat.zero_le _)⟩
      rw [Statement.val, Statement.valString, htext, hbytes]
      rfl
    | blob =>
      refine ⟨.blob (blob none 0), ?_, ReadResult.passesOn_blob ?_ (Nat.zero_le _)⟩
      · rw [Statement.val, Statement.valBlob, hnull.blob row.handle c hx, hbytes]
      · exact ⟨rfl, fun hne => absurd rfl hne⟩
    | _ => exact hty.elim
  | integer n => cases ty <;> exact hty.elim
  | real d => cases ty <;> exact hty.elim
  | text bs =>
    obtain ⟨⟨p, htext, hp⟩, hbytes⟩ := hcol.text row.handle c bs hx hsize
    have hlt := (ColumnApi.columnBytes row.handle c).toInt_lt
    have hfits : bs.length < 2 ^ 64 := by omega
    have hwithin : bs.length ≤ min limit (2 ^ 31) := le_min hsize (by omega)
    have hcut := (List.takeWhile_prefix (· ≠ 0) (l := bs)).length_le
    cases ty with
    | charPtr =>
      let s : CStr := StdString.cStr ⟨bs, hfits⟩
      have hs : PointsTo p s.bytes := pointsTo_takeWhile hp
      refine ⟨.charPtr (some p), ?_, ReadResult.passesOn_cStr hs (hcut.trans hwithin)⟩
      rw [Statement.val, Statement.valCharPtr, htext]
    | string =>
      refine ⟨.string ⟨bs, hfits⟩, ?_, ReadResult.passesOn_string hwithin⟩
      have hread : stdString (some p) (ColumnApi.columnBytes row.handle c) = .ok ⟨bs, hfits⟩ :=
        stdString_of_pointsTo hp hbytes
      rw [Statement.val, Statement.valString, htext, hread]
      rfl
    | _ => exact hty.elim
  | blob bs =>
    obtain ⟨-, hdata, hbytes⟩ := hcol.blob row.handle c bs hx hsize
    have hlt := (ColumnApi.columnBytes row.handle c).toInt_lt
    have hwithin : bs.length ≤ min limit (2 ^ 31) := le_min hsize (by omega)
    cases ty with
    | blob => exact ⟨_, rfl, ReadResult.passesOn_blob (blob_holds hbytes hdata) hwithin⟩
    | _ => exact hty.elim

private theorem bind_accepted {U : Type} [BindApi U] {limit : Nat} {st : Statement U} {idx : Int32}
    (haccepts : Accepts st.handle (idx + 1) limit) (v : DbValue) (hsize : v.size ≤ limit) :
    (v.bind idx true st).outcome = .ok () := by
  have hcall : ∀ f : U → Int × U, (f st.handle).1 = SQLITE_OK →
      (Statement.checkedCall f st).outcome = .ok () := by
    intro f hok
    rw [(Statement.checkedCall_run f st).1, if_pos hok]
  cases v with
  | int v => exact hcall _ (haccepts.int v)
  | int64 v => exact hcall _ (haccepts.int64 v)
  | double v => exact hcall _ (haccepts.double v)
  | charPtr s =>
    cases s with
    | none => exact hcall _ haccepts.null
    | some s =>
      refine hcall _ (haccepts.text _ _ ?_)
      rw [strlen_toNat]
      exact hsize
  | string s =>
    refine hcall _ (haccepts.text _ _ ?_)
    rw [StdString.length_toNat]
    exact hsize
  | blob b =>
    obtain ⟨data, length⟩ := b
    rw [DbValue.size, Blob.bytes_length] at hsize
    cases data with
    | some p => exact hcall _ (haccepts.blob _ _ hsize)
    | none => exact hcall _ (haccepts.zeroblob _ hsize)

/-- What `val<T>(i)` reads on `src` is bound by `bind<T>(j, ..)` on `dst`, where `y` arrives. -/
def Copies {T U : Type} [ColumnApi T] [BindApi U] (ty : DbType) (i j : Int32) (src : Statement T)
    (dst : Statement U) (y : SqlValue) : Prop :=
  ∃ r, Statement.val ty i src = .ok r ∧ (∃ v, r.Denotes v) ∧
    ∀ v, r.Denotes v → (v.bind j true dst).outcome = .ok () ∧
      BindApi.bound (v.bind j true dst).final.handle (j + 1) = y

private theorem copies_of_passesOn {T U : Type} [ColumnApi T] [BindApi U] {limit : Nat}
    {ty : DbType}
    {i j : Int32} {src : Statement T} {dst : Statement U} {r : ReadResult} {y : SqlValue}
    (hr : Statement.val ty i src = .ok r) (hpasses : r.PassesOn y (min limit (2 ^ 31)))
    (hbind : BindLaws U limit) (haccepts : Accepts dst.handle (j + 1) limit) :
    Copies ty i j src dst y := by
  refine ⟨r, hr, hpasses.1, ?_⟩
  intro v hv
  obtain ⟨hsql, hwithin⟩ := hpasses.2 v hv
  have hok := bind_accepted haccepts v (hwithin.trans (Nat.min_le_left _ _))
  refine ⟨hok, ?_⟩
  have hshort : v.size ≤ 2 ^ 31 := hwithin.trans (Nat.min_le_right _ _)
  obtain ⟨f, hf, hstores⟩ := v.bind_eq_checkedCall hbind j fun hlong => by omega
  obtain ⟨hout, hfin⟩ := Statement.checkedCall_run f dst
  rw [hf, hout] at hok
  have hrv : (f dst.handle).1 = SQLITE_OK := by
    by_contra hno
    rw [if_neg hno] at hok
    cases hok
  rw [hf, hfin, (hstores dst.handle hrv).1, hsql]

/-- What is read with `val<T>` and bound with `bind<T>` arrives as it was, but for text cut at its
first NUL by `const char*`, and NULL, which `std::string` makes an empty text and `blob` an empty
blob. -/
theorem copy_column {T U : Type} [ColumnApi T] [BindApi U] {limit : Nat}
    (hcol : ColumnLaws T limit) (hnull : NullLaws T) (hbind : BindLaws U limit) {ty : DbType}
    {x : SqlValue} (hty : x.CopiedWith ty) {i j : Int32} {src : Statement T}
    (hx : ColumnApi.column src.handle i = x) (hsize : x.size ≤ limit) {dst : Statement U}
    (haccepts : Accepts dst.handle (j + 1) limit) : Copies ty i j src dst (x.copied ty) := by
  obtain ⟨r, hr, hpasses⟩ := val_passesOn hcol hnull hty hx hsize
  exact copies_of_passesOn hr hpasses hbind haccepts

namespace SelectParam

theorem nullLaws : NullLaws SelectParam where
  blob t c h := by
    have hcell : cell t c = .null := h
    simp only [ColumnApi.columnBlob, hcell]
    rfl
  bytes t c h := by
    have hcell : cell t c = .null := h
    simp only [ColumnApi.columnBytes, hcell]
    rfl

private theorem accepts :
    Accepts (⟨.null, none, false⟩ : SelectParam) (0 + 1) SQLITE_MAX_LENGTH := by
  have hstore : ∀ v size, size ≤ SQLITE_MAX_LENGTH →
      (store (⟨.null, none, false⟩ : SelectParam) (0 + 1) v size).1 = SQLITE_OK := by
    intro v size hsize
    simp [store, Nat.not_lt.mpr hsize]
  constructor
  · exact hstore _ _ (Nat.zero_le _)
  · intro v
    exact hstore _ _ (Nat.zero_le _)
  · intro v
    exact hstore _ _ (Nat.zero_le _)
  · intro d
    exact hstore _ _ (Nat.zero_le _)
  · intro p n hn
    exact hstore _ _ hn
  · intro p n hn
    exact hstore _ _ hn
  · intro n hn
    exact hstore _ _ hn

def rowOf (x : SqlValue) : Statement SelectParam := Statement.prepared ⟨.null, some x, true⟩

def target : Statement SelectParam := Statement.prepared ⟨.null, none, false⟩

end SelectParam

open SelectParam in
/-- Text with a NUL in it, through `std::string`. -/
theorem copy_column_embeddedNul :
    Copies .string 0 0 (rowOf (.text [97, 0, 98])) target (.text [97, 0, 98]) := by
  have hty : SqlValue.CopiedWith .string (.text [97, 0, 98]) := trivial
  exact copy_column columnLaws nullLaws bindLaws hty rfl (by decide) accepts

open SelectParam in
/-- A text with a NUL does not come through a `const char*` (it arrives cut), nor does NULL through
a `std::string` (an empty text arrives) or through a `blob` (an empty blob arrives). -/
theorem copy_changes_value :
    (Copies .charPtr 0 0 (rowOf (.text [97, 0, 98])) target (.text [97]) ∧
        ¬ Copies .charPtr 0 0 (rowOf (.text [97, 0, 98])) target (.text [97, 0, 98])) ∧
      (Copies .string 0 0 (rowOf .null) target (.text []) ∧
        ¬ Copies .string 0 0 (rowOf .null) target .null) ∧
      Copies .blob 0 0 (rowOf .null) target (.blob []) ∧
        ¬ Copies .blob 0 0 (rowOf .null) target .null := by
  have harrives : ∀ {ty : DbType} {x : SqlValue}, x.CopiedWith ty → x.size ≤ SQLITE_MAX_LENGTH →
      x.copied ty ≠ x → Copies ty 0 0 (rowOf x) target (x.copied ty) ∧
        ¬ Copies ty 0 0 (rowOf x) target x := by
    intro ty x hty hsize hne
    have hcell : ColumnApi.column (rowOf x).handle 0 = x := rfl
    obtain ⟨r, hr, hpasses⟩ := val_passesOn (c := 0) columnLaws nullLaws hty hcell hsize
    have hcopies : Copies ty 0 0 (rowOf x) target (x.copied ty) :=
      copies_of_passesOn hr hpasses bindLaws accepts
    refine ⟨hcopies, ?_⟩
    intro hsame
    obtain ⟨q, hq, ⟨v, hv⟩, hother⟩ := hcopies
    obtain ⟨q', hq', -, hsame⟩ := hsame
    cases hq.symm.trans hq'
    exact hne ((hother v hv).2.symm.trans (hsame v hv).2)
  refine ⟨harrives ?_ (by decide) (by decide), harrives ?_ (by decide) (by decide),
    harrives ?_ (by decide) (by decide)⟩
  · exact trivial
  · exact trivial
  · exact trivial

end Sqxx
