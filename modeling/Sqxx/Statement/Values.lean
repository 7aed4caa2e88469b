import Sqxx.Sqlite.Values
import Sqxx.Statement.Object

/-!
# Binding parameters and reading columns

The specializations of `bind<T>` and `val<T>`.  Parameter indexes of the wrapper start at zero,
those of the C library at one; lengths go in as 64-bit numbers and come back as `int`.
-/

namespace Sqxx
open Framework

theorem nil_fits : ([] : Bytes).length < 2 ^ 64 := by decide

private theorem readMem_fits (p : Pointer) (n : Int32) :
    (readMem p n.toInt.toNat).length < 2 ^ 64 := by
  have hlt := n.toInt_lt
  rw [readMem_length]
  omega

/-- `std::string(s, n)`. A negative `n` is a huge `size_t`; a null `s` needs `n` to be zero. -/
def stdString (s : Option Pointer) (n : Int32) : Except Raised StdString :=
  if 0 ≤ n.toInt then
    match s with
    | some p => .ok ⟨readMem p n.toInt.toNat, readMem_fits p n⟩
    | none => if n = 0 then .ok ⟨[], nil_fits⟩ else .error .undefined
  else .error (.exception (.stdException "length_error"))

namespace Statement

variable {T : Type}

/-- A call on the handle, then the check of its result. -/
def checkedCall (f : T → Int × T) : Cxx (Statement T) Unit := do
  let rv ← Prog.effect fun st =>
    let (rv, handle) := f st.handle
    (rv, { st with handle := handle })
  Cxx.checkOk rv

section Bind

variable [BindApi T]

def copyFlag (copy : Bool) : Destructor := if copy then .transient else .static

def bind (idx : Int32) : Cxx (Statement T) Unit :=
  checkedCall (BindApi.bindNull · (idx + 1))

def bindInt (idx : Int32) (value : Int32) : Cxx (Statement T) Unit :=
  checkedCall (BindApi.bindInt · (idx + 1) value)

def bindInt64 (idx : Int32) (value : Int64) : Cxx (Statement T) Unit :=
  checkedCall (BindApi.bindInt64 · (idx + 1) value)

def bindDouble (idx : Int32) (value : Double) : Cxx (Statement T) Unit :=
  checkedCall (BindApi.bindDouble · (idx + 1) value)

def bindCharPtr (idx : Int32) (value : Option CStr) (copy : Bool) : Cxx (Statement T) Unit :=
  match value with
  | some value =>
    checkedCall (BindApi.bindText64 · (idx + 1) value.pointer (strlen value) (copyFlag copy))
  | none => bind idx

def bindString (idx : Int32) (value : StdString) (copy : Bool) : Cxx (Statement T) Unit :=
  checkedCall (BindApi.bindText64 · (idx + 1) value.pointer value.length (copyFlag copy))

def bindBlob (idx : Int32) (value : Blob) (copy : Bool) : Cxx (Statement T) Unit :=
  match value.data with
  | some data =>
    checkedCall (BindApi.bindBlob64 · (idx + 1) data value.length (copyFlag copy))
  | none => checkedCall (BindApi.bindZeroblob64 · (idx + 1) value.length)

end Bind

section Val

variable [ColumnApi T]

def valInt (idx : Int32) (st : Statement T) : Int32 := ColumnApi.columnInt st.handle idx

def valInt64 (idx : Int32) (st : Statement T) : Int64 := ColumnApi.columnInt64 st.handle idx

def valDouble (idx : Int32) (st : Statement T) : Double := ColumnApi.columnDouble st.handle idx

def valCharPtr (idx : Int32) (st : Statement T) : Option Pointer :=
  ColumnApi.columnText st.handle idx

def valString (idx : Int32) (st : Statement T) : Except Raised StdString :=
  stdString (ColumnApi.columnText st.handle idx) (ColumnApi.columnBytes st.handle idx)

def valBlob (idx : Int32) (st : Statement T) : Blob :=
  blob (ColumnApi.columnBlob st.handle idx) (ColumnApi.columnBytes st.handle idx)

end Val

end Statement

/-- The type `T` of `val<T>` and `bind<T>`. -/
inductive DbType
  | int
  | int64
  | double
  | charPtr
  | string
  | blob
  deriving DecidableEq, Repr

/-- A value of one of these types. -/
inductive DbValue
  | int (v : Int32)
  | int64 (v : Int64)
  | double (v : Double)
  | charPtr (v : Option CStr)
  | string (v : StdString)
  | blob (v : Blob)

namespace DbValue

variable {T : Type}

def bind [BindApi T] (idx : Int32) (copy : Bool) : DbValue → Cxx (Statement T) Unit
  | .int v => Statement.bindInt idx v
  | .int64 v => Statement.bindInt64 idx v
  | .double v => Statement.bindDouble idx v
  | .charPtr v => Statement.bindCharPtr idx v copy
  | .string v => Statement.bindString idx v copy
  | .blob v => Statement.bindBlob idx v copy

def toSql : DbValue → SqlValue
  | .int v => .integer v.toInt64
  | .int64 v => .integer v
  | .double v => .ofDouble v
  | .charPtr none => .null
  | .charPtr (some s) => .text s.bytes
  | .string v => .text v.bytes
  | .blob v => .blob v.bytes

def size : DbValue → Nat
  | .int _ | .int64 _ | .double _ | .charPtr none => 0
  | .charPtr (some s) => s.bytes.length
  | .string v => v.bytes.length
  | .blob v => v.bytes.length

/-- `val<T>(c)` on the row gives the value back: the same number, but zero for a NaN, the same text
behind the pointer or a null pointer, the same bytes. -/
def ReadAt [ColumnApi T] (c : Int32) (row : Statement T) : DbValue → Prop
  | .int v => Statement.valInt c row = v
  | .int64 v => Statement.valInt64 c row = v
  | .double v => Statement.valDouble c row = v.readBack
  | .charPtr none => Statement.valCharPtr c row = none
  | .charPtr (some s) => ∃ p, Statement.valCharPtr c row = some p ∧ PointsTo p s.bytes
  | .string v => Statement.valString c row = .ok v
  | .blob v => (Statement.valBlob c row).Holds v.bytes

end DbValue

theorem stdString_of_pointsTo {p : Pointer} {v : StdString} {n : Int32}
    (hp : PointsTo p v.bytes) (hn : n.toInt = v.bytes.length) :
    stdString (some p) n = .ok v := by
  have hnonneg : 0 ≤ n.toInt := by omega
  have hlen : n.toInt.toNat = v.bytes.length := by omega
  obtain ⟨bytes, fits⟩ := v
  have hbytes : readMem p n.toInt.toNat = bytes := by
    rw [hlen]
    exact hp.1
  rw [stdString, if_pos hnonneg]
  simp only [hbytes]

theorem blob_holds {data : Option Pointer} {n : Int32} {bs : Bytes}
    (hn : n.toInt = bs.length)
    (hdata : bs ≠ [] → ∃ p, data = some p ∧ readMem p bs.length = bs) :
    (blob data n).Holds bs := by
  refine ⟨?_, hdata⟩
  rw [blob_length_toNat data n (by omega)]
  omega

namespace Statement

variable {T : Type}

theorem checkedCall_run (f : T → Int × T) (st : Statement T) :
    (checkedCall f st).outcome =
        (if (f st.handle).1 = SQLITE_OK then .ok ()
          else .error (.exception (staticError (f st.handle).1))) ∧
      (checkedCall f st).final = { st with handle := (f st.handle).2 } := by
  simp [checkedCall, Cxx.checkOk_run]

end Statement

namespace DbValue

variable {T : Type}

private theorem length_lt_of_ok [BindApi T] {n : Nat} (hlong : 2 ^ 63 ≤ n → RejectsLong T)
    (hrejects : RejectsLong T → ¬ 2 ^ 63 ≤ n) : n < 2 ^ 63 := by
  by_contra hn
  exact hrejects (hlong (Nat.not_lt.mp hn)) (Nat.not_lt.mp hn)

/-- Every `bind<T>` is one call on the handle that stores the value and returns only for values
within the limit. -/
theorem bind_eq_checkedCall [BindApi T] {limit : Nat} (hbind : BindLaws T limit) (idx : Int32)
    (v : DbValue) (hlong : 2 ^ 63 ≤ v.size → RejectsLong T) :
    ∃ f : T → Int × T, v.bind idx true = Statement.checkedCall f ∧
      ∀ t, (f t).1 = SQLITE_OK → BindApi.bound (f t).2 (idx + 1) = v.toSql ∧ v.size ≤ limit := by
  cases v with
  | int v =>
    refine ⟨(BindApi.bindInt · (idx + 1) v), rfl, fun t hok => ⟨?_, Nat.zero_le _⟩⟩
    exact hbind.int t (idx + 1) v hok
  | int64 v =>
    refine ⟨(BindApi.bindInt64 · (idx + 1) v), rfl, fun t hok => ⟨?_, Nat.zero_le _⟩⟩
    exact hbind.int64 t (idx + 1) v hok
  | double v =>
    refine ⟨(BindApi.bindDouble · (idx + 1) v), rfl, fun t hok => ⟨?_, Nat.zero_le _⟩⟩
    exact hbind.double t (idx + 1) v hok
  | charPtr v =>
    cases v with
    | none =>
      refine ⟨(BindApi.bindNull · (idx + 1)), rfl, fun t hok => ⟨?_, Nat.zero_le _⟩⟩
      exact hbind.null t (idx + 1) hok
    | some s =>
      refine ⟨(BindApi.bindText64 · (idx + 1) s.pointer (strlen s) .transient), rfl, ?_⟩
      rw [size, ← strlen_toNat] at hlong ⊢
      intro t hok
      have hn := length_lt_of_ok hlong fun hlaw hn => hlaw.text t (idx + 1) s.pointer _ hn hok
      refine ⟨(hbind.text t (idx + 1) s.pointer (strlen s) hn hok).trans ?_,
        hbind.text_limit t (idx + 1) s.pointer (strlen s) hn hok⟩
      rw [strlen_toNat, CStr.pointer, readMem_memoryOf, toSql]
  | string v =>
    refine ⟨(BindApi.bindText64 · (idx + 1) v.pointer v.length .transient), rfl, ?_⟩
    rw [size, ← StdString.length_toNat] at hlong ⊢
    intro t hok
    have hn := length_lt_of_ok hlong fun hlaw hn => hlaw.text t (idx + 1) v.pointer _ hn hok
    refine ⟨(hbind.text t (idx + 1) v.pointer v.length hn hok).trans ?_,
      hbind.text_limit t (idx + 1) v.pointer v.length hn hok⟩
    rw [StdString.length_toNat, StdString.pointer, readMem_memoryOf, toSql]
  | blob v =>
    obtain ⟨data, length⟩ := v
    rw [size, Blob.bytes_length] at hlong ⊢
    cases data with
    | some p =>
      refine ⟨(BindApi.bindBlob64 · (idx + 1) p length .transient), rfl, fun t hok => ?_⟩
      have hn := length_lt_of_ok hlong fun hlaw hn => hlaw.blob t (idx + 1) p length hn hok
      exact ⟨hbind.blob t (idx + 1) p length hn hok, hbind.blob_limit t (idx + 1) p length hn hok⟩
    | none =>
      refine ⟨(BindApi.bindZeroblob64 · (idx + 1) length), rfl, fun t hok => ⟨?_, ?_⟩⟩
      · exact hbind.zeroblob t (idx + 1) length hok
      · exact hbind.zeroblob_limit t (idx + 1) length hok

theorem readAt_of_column [ColumnApi T] {limit : Nat} (hcol : ColumnLaws T limit) {c : Int32}
    {row : Statement T} {v : DbValue} (hv : ColumnApi.column row.handle c = v.toSql)
    (hsize : v.size ≤ limit) : v.ReadAt c row := by
  cases v with
  | int v =>
    have hint := hcol.int row.handle c _ hv
    rw [Int32.toInt32_toInt64] at hint
    exact hint
  | int64 v => exact hcol.int64 row.handle c v hv
  | double v =>
    rw [ReadAt, Statement.valDouble, Double.readBack]
    rw [toSql, SqlValue.ofDouble] at hv
    by_cases hnan : v.isNaN
    · rw [if_pos hnan] at hv ⊢
      exact hcol.double_null row.handle c hv
    · rw [if_neg hnan] at hv ⊢
      exact hcol.double row.handle c v hv
  | charPtr v =>
    cases v with
    | none => exact hcol.text_null row.handle c hv
    | some s => exact (hcol.text row.handle c s.bytes hv hsize).1
  | string v =>
    obtain ⟨⟨p, htext, hp⟩, hbytes⟩ := hcol.text row.handle c v.bytes hv hsize
    rw [ReadAt, Statement.valString, htext]
    exact stdString_of_pointsTo hp hbytes
  | blob v =>
    obtain ⟨-, hdata, hbytes⟩ := hcol.blob row.handle c v.bytes hv hsize
    exact blob_holds hbytes hdata

end DbValue

/-- Column `c` of a row the statement answers is what its parameter `i` was bound to. -/
def Echoes (T : Type) [StepApi T] [BindApi T] [ColumnApi T] (i c : Int32) : Prop :=
  ∀ t : T, (StepApi.step t).1 = SQLITE_ROW →
    ColumnApi.column (StepApi.step t).2 c = BindApi.bound t i

/-- Binding throws, or it returns and the row that the next step answers satisfies `p`. -/
def NextRow {T : Type} [StepApi T] (bindOp : Cxx (Statement T) Unit) (st : Statement T)
    (p : Statement T → Prop) : Prop :=
  (∃ e, (bindOp st).outcome = .error (.exception e)) ∨
    (bindOp st).outcome = .ok () ∧
      (OnRow (Statement.step (bindOp st).final).final.calls →
        p (Statement.step (bindOp st).final).final)

private theorem nextRow_checkedCall {T : Type} [StepApi T] (f : T → Int × T) (st : Statement T)
    {p : Statement T → Prop}
    (hp : ∀ row : Statement T, (f st.handle).1 = SQLITE_OK →
      (StepApi.step (f st.handle).2).1 = SQLITE_ROW →
      row.handle = (StepApi.step (f st.handle).2).2 → p row) :
    NextRow (Statement.checkedCall f) st p := by
  obtain ⟨hout, hfin⟩ := Statement.checkedCall_run f st
  by_cases hok : (f st.handle).1 = SQLITE_OK
  · right
    refine ⟨by rw [hout, if_pos hok], ?_⟩
    rw [hfin, (Statement.step_run _).2]
    intro hrow
    exact hp _ hok hrow rfl
  · left
    exact ⟨_, by rw [hout, if_neg hok]⟩

/-- What is bound with a copy is what the next row reads as, for every type of value. -/
theorem bind_val_roundTrip {T : Type} [StepApi T] [BindApi T] [ColumnApi T] {limit : Nat}
    (hbind : BindLaws T limit) (hcol : ColumnLaws T limit) {idx c : Int32}
    (hecho : Echoes T (idx + 1) c) (st : Statement T) (v : DbValue)
    (hlong : 2 ^ 63 ≤ v.size → RejectsLong T) : NextRow (v.bind idx true) st (v.ReadAt c) := by
  obtain ⟨f, hf, hstores⟩ := v.bind_eq_checkedCall hbind idx hlong
  rw [hf]
  apply nextRow_checkedCall
  intro row hok hrow hhandle
  obtain ⟨hbound, hsize⟩ := hstores st.handle hok
  have hcolumn : ColumnApi.column row.handle c = v.toSql := by
    rw [hhandle, hecho _ hrow, hbound]
  exact DbValue.readAt_of_column hcol hcolumn hsize

/-- The statement `select ?` of a library: its parameter, the row while it is on one, and whether it
was stepped since its last reset. -/
structure SelectParam where
  param : SqlValue
  row : Option SqlValue
  stepped : Bool

namespace SelectParam

def store (t : SelectParam) (i : Int32) (v : SqlValue) (size : Nat) : Int × SelectParam :=
  if t.stepped then (SQLITE_MISUSE, t)
  else if i ≠ 1 then (SQLITE_RANGE, t)
  else if SQLITE_MAX_LENGTH < size then (SQLITE_TOOBIG, t)
  else (SQLITE_OK, { t with param := v })

instance : StepApi SelectParam where
  step t :=
    match t.row with
    | none => (SQLITE_ROW, { t with row := some t.param, stepped := true })
    | some _ => (SQLITE_DONE, { t with row := none, stepped := true })
  reset t := (SQLITE_OK, { t with row := none, stepped := false })
  clearBindings t := (SQLITE_OK, { t with param := .null })

instance : BindApi SelectParam where
  bound t i := if i = 1 then t.param else .null
  bindNull t i := store t i .null 0
  bindInt t i v := store t i (.integer v.toInt64) 0
  bindInt64 t i v := store t i (.integer v) 0
  bindDouble t i d := store t i (.ofDouble d) 0
  bindText64 t i p n _ := store t i (.text (readMem p n.toNat)) n.toNat
  bindBlob64 t i p n _ := store t i (.blob (readMem p n.toNat)) n.toNat
  bindZeroblob64 t i n := store t i (.blob (List.replicate n.toNat 0)) n.toNat

def cell (t : SelectParam) (c : Int32) : SqlValue := if c = 0 then t.row.getD .null else .null

instance : ColumnApi SelectParam := ColumnApi.ofCells cell

private theorem store_ok {t : SelectParam} {i : Int32} {v : SqlValue} {size : Nat}
    (h : (store t i v size).1 = SQLITE_OK) :
    BindApi.bound (store t i v size).2 i = v ∧ size ≤ SQLITE_MAX_LENGTH := by
  unfold store at h ⊢
  by_cases hstepped : t.stepped
  · rw [if_pos hstepped] at h
    exact absurd (show SQLITE_MISUSE = SQLITE_OK from h) (by decide)
  · by_cases hi : i = 1
    · by_cases hsize : SQLITE_MAX_LENGTH < size
      · rw [if_neg hstepped, if_neg (not_not.mpr hi), if_pos hsize] at h
        exact absurd (show SQLITE_TOOBIG = SQLITE_OK from h) (by decide)
      · rw [if_neg hstepped, if_neg (not_not.mpr hi), if_neg hsize]
        exact ⟨if_pos hi, Nat.not_lt.mp hsize⟩
    · rw [if_neg hstepped, if_pos hi] at h
      exact absurd (show SQLITE_RANGE = SQLITE_OK from h) (by decide)

theorem bindLaws : BindLaws SelectParam SQLITE_MAX_LENGTH where
  null _ _ h := (store_ok h).1
  int _ _ _ h := (store_ok h).1
  int64 _ _ _ h := (store_ok h).1
  double _ _ _ h := (store_ok h).1
  text _ _ _ _ _ h := (store_ok h).1
  blob _ _ _ _ _ h := (store_ok h).1
  zeroblob _ _ _ h := (store_ok h).1
  text_limit _ _ _ _ _ h := (store_ok h).2
  blob_limit _ _ _ _ _ h := (store_ok h).2
  zeroblob_limit _ _ _ h := (store_ok h).2

theorem rejectsLong : RejectsLong SelectParam where
  text _ _ _ _ hn h := absurd (Nat.le_trans hn (store_ok h).2) (by decide)
  blob _ _ _ _ hn h := absurd (Nat.le_trans hn (store_ok h).2) (by decide)

theorem columnLaws : ColumnLaws SelectParam SQLITE_MAX_LENGTH := ColumnApi.ofCells_columnLaws cell

theorem echoes : Echoes SelectParam 1 0 := by
  intro t hrow
  rcases hr : t.row with _ | v
  · simp [StepApi.step, ColumnApi.column, BindApi.bound, cell, hr]
  · simp only [StepApi.step, hr] at hrow
    exact absurd hrow (by decide)

end SelectParam

/-- Text with a NUL in it, bound to `select ?`: the step after it is on a row. -/
theorem bind_val_roundTrip_embeddedNul :
    let text : StdString := ⟨[97, 0, 98], by decide⟩
    let st := Statement.prepared (⟨.null, none, false⟩ : SelectParam)
    OnRow (Statement.step ((DbValue.string text).bind 0 true st).final).final.calls ∧
      NextRow ((DbValue.string text).bind 0 true) st ((DbValue.string text).ReadAt 0) :=
  ⟨rfl, bind_val_roundTrip SelectParam.bindLaws SelectParam.columnLaws SelectParam.echoes _ _
    fun _ => SelectParam.rejectsLong⟩

end Sqxx
