import Sqxx.Sqlite.Results
import Sqxx.Statement.Copying

/-!
# Values of SQL functions

`context::result<T>` is written beside `statement::bind<T>`, and `value::val<T>` beside
`statement::val<T>`.  On the same data the two encoders and the two decoders do the same.
-/

namespace Sqxx
open Framework

namespace Context

variable {C : Type} [ResultApi C]

/-- `result()`, also called `result_null()`. -/
def resultNull : Cxx C Unit := Prog.perform ResultApi.resultNull

def resultInt (value : Int32) : Cxx C Unit := Prog.perform (ResultApi.resultInt · value)

def resultInt64 (value : Int64) : Cxx C Unit := Prog.perform (ResultApi.resultInt64 · value)

def resultDouble (value : Double) : Cxx C Unit := Prog.perform (ResultApi.resultDouble · value)

def resultCharPtr (value : Option CStr) (copy : Bool) : Cxx C Unit :=
  match value with
  | some value => Prog.perform
    (ResultApi.resultText64 · value.pointer (strlen value) (Statement.copyFlag copy))
  | none => resultNull

def resultString (value : StdString) (copy : Bool) : Cxx C Unit :=
  Prog.perform (ResultApi.resultText64 · value.pointer value.length (Statement.copyFlag copy))

/-- What `sqlite3_result_zeroblob64` returns is not looked at. -/
def resultBlob (value : Blob) (copy : Bool) : Cxx C Unit :=
  match value.data with
  | some data =>
    Prog.perform (ResultApi.resultBlob64 · data value.length (Statement.copyFlag copy))
  | none => do
    let _rv ← Prog.effect (ResultApi.resultZeroblob64 · value.length)
    pure ()

end Context

def DbValue.result {C : Type} [ResultApi C] (copy : Bool) : DbValue → Cxx C Unit
  | .int v => Context.resultInt v
  | .int64 v => Context.resultInt64 v
  | .double v => Context.resultDouble v
  | .charPtr v => Context.resultCharPtr v copy
  | .string v => Context.resultString v copy
  | .blob v => Context.resultBlob v copy

def liftExcept {σ α : Type} : Except Raised α → Cxx σ α
  | .ok a => pure a
  | .error r => Prog.raise r

namespace Value

variable {V X : Type} [ValueApi V X]

def valInt : Cxx V Int32 := Prog.effect ValueApi.valueInt

def valInt64 : Cxx V Int64 := Prog.effect ValueApi.valueInt64

def valDouble : Cxx V Double := Prog.effect ValueApi.valueDouble

def valCharPtr : Cxx V (Option Pointer) := Prog.effect ValueApi.valueText

def valString : Cxx V StdString := do
  let text ← Prog.effect ValueApi.valueText
  let bytes ← Prog.effect ValueApi.valueBytes
  liftExcept (stdString text bytes)

def valBlob : Cxx V Blob := do
  let data ← Prog.effect ValueApi.valueBlob
  let len ← Prog.effect ValueApi.valueBytes
  pure (blob data len)

def val : DbType → Cxx V ReadResult
  | .int => do
    let v ← valInt
    pure (.int v)
  | .int64 => do
    let v ← valInt64
    pure (.int64 v)
  | .double => do
    let v ← valDouble
    pure (.double v)
  | .charPtr => do
    let p ← valCharPtr
    pure (.charPtr p)
  | .string => do
    let v ← valString
    pure (.string v)
  | .blob => do
    let v ← valBlob
    pure (.blob v)

def convert (ty : DbType) : Cxx V ReadResult := val ty

end Value

-- `statement::val<T>` over accessors that convert in place
namespace Statement.Converting

variable {T X : Type} [ConvertingColumnApi T X]

def valInt (idx : Int32) : Cxx T Int32 := Prog.effect (ConvertingColumnApi.columnInt · idx)

def valInt64 (idx : Int32) : Cxx T Int64 := Prog.effect (ConvertingColumnApi.columnInt64 · idx)

def valDouble (idx : Int32) : Cxx T Double := Prog.effect (ConvertingColumnApi.columnDouble · idx)

def valCharPtr (idx : Int32) : Cxx T (Option Pointer) :=
  Prog.effect (ConvertingColumnApi.columnText · idx)

def valString (idx : Int32) : Cxx T StdString := do
  let text ← Prog.effect (ConvertingColumnApi.columnText · idx)
  let bytes ← Prog.effect (ConvertingColumnApi.columnBytes · idx)
  liftExcept (stdString text bytes)

def valBlob (idx : Int32) : Cxx T Blob := do
  let data ← Prog.effect (ConvertingColumnApi.columnBlob · idx)
  let bytes ← Prog.effect (ConvertingColumnApi.columnBytes · idx)
  pure (blob data bytes)

def val (idx : Int32) : DbType → Cxx T ReadResult
  | .int => do
    let v ← valInt idx
    pure (.int v)
  | .int64 => do
    let v ← valInt64 idx
    pure (.int64 v)
  | .double => do
    let v ← valDouble idx
    pure (.double v)
  | .charPtr => do
    let p ← valCharPtr idx
    pure (.charPtr p)
  | .string => do
    let v ← valString idx
    pure (.string v)
  | .blob => do
    let v ← valBlob idx
    pure (.blob v)

end Statement.Converting

/-- The two calls make the same SQL value, or fail with the same code. -/
def Encodes {T C : Type} [BindApi T] [ResultApi C] (i : Int32)
    (bound : Exec (Statement T) Raised Unit) (returned : Exec C Raised Unit) : Prop :=
  returned.outcome = .ok () ∧
    ((bound.outcome = .ok () ∧
        ResultApi.returned returned.final = .ok (BindApi.bound bound.final.handle i)) ∨
      ∃ rv, bound.outcome = .error (.exception (staticError rv)) ∧
        ResultApi.returned returned.final = .error rv)

private theorem encodes_checkedCall {T C : Type} [BindApi T] [ResultApi C] {i : Int32}
    {f : T → Int × T}
    {returned : Exec C Raised Unit} {st : Statement T} (hok : returned.outcome = .ok ())
    (hstores : StoresLike i (f st.handle) returned.final) :
    Encodes i (Statement.checkedCall f st) returned := by
  obtain ⟨hout, hfin⟩ := Statement.checkedCall_run f st
  refine ⟨hok, ?_⟩
  by_cases hrv : (f st.handle).1 = SQLITE_OK
  · left
    rw [hout, hfin, if_pos hrv]
    exact ⟨rfl, hstores.1 hrv⟩
  · right
    refine ⟨(f st.handle).1, ?_, hstores.2 hrv⟩
    rw [hout, if_neg hrv]

private theorem result_encodes {T C : Type} [BindApi T] [ResultApi C] {st : Statement T}
    {idx : Int32} {c : C} (hstores : StoresAlike st.handle (idx + 1) c)
    (hlong : StoresLongAlike st.handle (idx + 1) c) (v : DbValue) (copy : Bool) :
    Encodes (idx + 1) (v.bind idx copy st) (v.result copy c) := by
  have htext : ∀ p n d, StoresLike (idx + 1) (BindApi.bindText64 st.handle (idx + 1) p n d)
      (ResultApi.resultText64 c p n d) :=
    fun p n d => (Nat.lt_or_ge n.toNat (2 ^ 63)).elim (hstores.text p n d) (hlong.text p n d)
  have hblob : ∀ p n d, StoresLike (idx + 1) (BindApi.bindBlob64 st.handle (idx + 1) p n d)
      (ResultApi.resultBlob64 c p n d) :=
    fun p n d => (Nat.lt_or_ge n.toNat (2 ^ 63)).elim (hstores.blob p n d) (hlong.blob p n d)
  cases v with
  | int v => exact encodes_checkedCall rfl (hstores.int v)
  | int64 v => exact encodes_checkedCall rfl (hstores.int64 v)
  | double v => exact encodes_checkedCall rfl (hstores.double v)
  | charPtr v =>
    cases v with
    | none => exact encodes_checkedCall rfl hstores.null
    | some s => exact encodes_checkedCall rfl (htext s.pointer (strlen s) _)
  | string v => exact encodes_checkedCall rfl (htext v.pointer v.length _)
  | blob v =>
    obtain ⟨data, length⟩ := v
    cases data with
    | some p => exact encodes_checkedCall rfl (hblob p length _)
    | none => exact encodes_checkedCall rfl (hstores.zeroblob length)

section Decoding

variable {V T X : Type} [ValueApi V X] [ConvertingColumnApi T X]

theorem liftExcept_ends {σ α : Type} (x : Except Raised α) (s : σ) :
    Prog.Ends (liftExcept x) s x s := by
  cases x with
  | ok a => exact Prog.Ends.pure a s
  | error r => exact Prog.Ends.raise r s

private theorem liftExcept_related {σ τ α : Type} {R : σ → τ → Prop} (x : Except Raised α) :
    Prog.Related R (liftExcept x) (liftExcept x) := by
  cases x with
  | ok a => exact Prog.Related.pure a
  | error r => exact Prog.Related.raise r

private theorem val_related (hconverts : ConvertsAlike V T) (i : Int32) (ty : DbType) :
    Prog.Related (HoldSame i) (Value.val ty : Cxx V ReadResult)
      (Statement.Converting.val i ty : Cxx T ReadResult) := by
  cases ty with
  | int =>
    have hint : Prog.Related (HoldSame i) (Value.valInt : Cxx V Int32)
        (Statement.Converting.valInt i : Cxx T Int32) := Prog.Related.effect (hconverts.int i)
    exact hint.bind fun v => Prog.Related.pure _
  | int64 =>
    have hint64 : Prog.Related (HoldSame i) (Value.valInt64 : Cxx V Int64)
        (Statement.Converting.valInt64 i : Cxx T Int64) := Prog.Related.effect (hconverts.int64 i)
    exact hint64.bind fun v => Prog.Related.pure _
  | double =>
    have hdouble : Prog.Related (HoldSame i) (Value.valDouble : Cxx V Double)
        (Statement.Converting.valDouble i : Cxx T Double) :=
      Prog.Related.effect (hconverts.double i)
    exact hdouble.bind fun v => Prog.Related.pure _
  | charPtr =>
    have htext : Prog.Related (HoldSame i) (Value.valCharPtr : Cxx V (Option Pointer))
        (Statement.Converting.valCharPtr i : Cxx T (Option Pointer)) :=
      Prog.Related.effect (hconverts.text i)
    exact htext.bind fun p => Prog.Related.pure _
  | string =>
    have hstring : Prog.Related (HoldSame i) (Value.valString : Cxx V StdString)
        (Statement.Converting.valString i : Cxx T StdString) := by
      apply (Prog.Related.effect (hconverts.text i)).bind
      intro text
      apply (Prog.Related.effect (hconverts.bytes i)).bind
      intro bytes
      exact liftExcept_related (stdString text bytes)
    exact hstring.bind fun v => Prog.Related.pure _
  | blob =>
    have hblob : Prog.Related (HoldSame i) (Value.valBlob : Cxx V Blob)
        (Statement.Converting.valBlob i : Cxx T Blob) := by
      apply (Prog.Related.effect (hconverts.blob i)).bind
      intro data
      apply (Prog.Related.effect (hconverts.bytes i)).bind
      intro len
      exact Prog.Related.pure (blob data len)
    exact hblob.bind fun v => Prog.Related.pure _

end Decoding

section Pure

variable {T : Type} [ColumnApi T]

@[reducible] def ConvertingColumnApi.ofColumns : ConvertingColumnApi T SqlValue where
  held := ColumnApi.column
  columnInt t c := (ColumnApi.columnInt t c, t)
  columnInt64 t c := (ColumnApi.columnInt64 t c, t)
  columnDouble t c := (ColumnApi.columnDouble t c, t)
  columnText t c := (ColumnApi.columnText t c, t)
  columnBlob t c := (ColumnApi.columnBlob t c, t)
  columnBytes t c := (ColumnApi.columnBytes t c, t)

/-- Read as their own type, columns need no conversion and `val<T>` is the pure one. -/
theorem converting_val_ofColumns (ty : DbType) (c : Int32) (st : Statement T) :
    (@Statement.Converting.val T SqlValue ConvertingColumnApi.ofColumns c ty st.handle).outcome =
      Statement.val ty c st := by
  cases ty with
  | string =>
    have hread : Prog.Ends (@Statement.Converting.valString T SqlValue
        ConvertingColumnApi.ofColumns c) st.handle (Statement.valString c st) st.handle := by
      apply (Prog.Ends.effect _ st.handle).bind
      apply (Prog.Ends.effect _ st.handle).bind
      exact liftExcept_ends _ _
    rw [Statement.val]
    rcases hval : Statement.valString c st with r | v
    · rw [hval] at hread
      exact hread.bind_error.outcome
    · rw [hval] at hread
      have hpure := Prog.Ends.pure (ε := Raised) (ReadResult.string v) st.handle
      exact (hread.bind hpure).outcome
  | _ => rfl

end Pure

/-- Both encoders make the same SQL value of every value and both decoders read the same from every
SQL value, so that what a registered identity function returns is what would be bound after reading
its argument directly. -/
theorem value_interfaces_agree {T U C V X : Type} [BindApi T] [ResultApi C] [ValueApi V X]
    [ConvertingColumnApi U X] {st : Statement T} {idx : Int32} {c : C}
    (hstores : StoresAlike st.handle (idx + 1) c)
    (hlong : StoresLongAlike st.handle (idx + 1) c) (hconverts : ConvertsAlike V U) :
    (∀ v copy, Encodes (idx + 1) (DbValue.bind idx copy v st) (v.result copy c)) ∧
      (∀ ty i (v : V) (u : U), HoldSame i v u →
        (Value.val ty v).outcome = (Statement.Converting.val i ty u).outcome ∧
          (Value.convert ty v).outcome = (Statement.Converting.val i ty u).outcome) ∧
      ∀ ty i (v : V) (u : U) r d, HoldSame i v u → (Value.convert ty v).outcome = .ok r →
        r.Denotes d → (Statement.Converting.val i ty u).outcome = .ok r ∧
          Encodes (idx + 1) (d.bind idx true st) (d.result true c) := by
  have hreads : ∀ ty i (v : V) (u : U), HoldSame i v u →
      (Value.val ty v).outcome = (Statement.Converting.val i ty u).outcome :=
    fun ty i v u hsame => (val_related hconverts i ty v u hsame).1
  refine ⟨?_, ?_, ?_⟩
  · intro v copy
    exact result_encodes hstores hlong v copy
  · intro ty i v u hsame
    exact ⟨hreads ty i v u hsame, hreads ty i v u hsame⟩
  · intro ty i v u r d hsame hr _
    exact ⟨(hreads ty i v u hsame).symm.trans hr, result_encodes hstores hlong d true⟩

namespace SqlValue

instance : ValueApi SqlValue SqlValue where
  held x := x
  valueInt x := (x.toInt64.1.toInt32, x)
  valueInt64 := toInt64
  valueDouble := toDouble
  valueText := toText
  valueBlob := toBlob
  valueBytes := toBytes

instance : ConvertingColumnApi SqlValue SqlValue where
  held x _ := x
  columnInt x _ := (x.toInt64.1.toInt32, x)
  columnInt64 x _ := x.toInt64
  columnDouble x _ := x.toDouble
  columnText x _ := x.toText
  columnBlob x _ := x.toBlob
  columnBytes x _ := x.toBytes

theorem convertsAlike : ConvertsAlike SqlValue SqlValue := by
  have hsame : ∀ {α : Type} (i : Int32) (f : SqlValue → α × SqlValue),
      ConvertsLike i f fun x _ => f x := by
    intro α i f v t h
    have heq : v = t := h
    subst heq
    exact ⟨rfl, rfl⟩
  constructor
  · intro i
    exact hsame i fun x => (x.toInt64.1.toInt32, x)
  · intro i
    exact hsame i toInt64
  · intro i
    exact hsame i toDouble
  · intro i
    exact hsame i toText
  · intro i
    exact hsame i toBlob
  · intro i
    exact hsame i toBytes

end SqlValue

structure FunctionContext where
  result : Except Int SqlValue

namespace FunctionContext

def set (v : SqlValue) (size : Nat) : FunctionContext :=
  if SQLITE_MAX_LENGTH < size then ⟨.error SQLITE_TOOBIG⟩ else ⟨.ok v⟩

instance : ResultApi FunctionContext where
  returned c := c.result
  resultNull _ := set .null 0
  resultInt _ v := set (.integer v.toInt64) 0
  resultInt64 _ v := set (.integer v) 0
  resultDouble _ d := set (.ofDouble d) 0
  resultText64 _ p n _ := set (.text (readMem p n.toNat)) n.toNat
  resultBlob64 _ p n _ := set (.blob (readMem p n.toNat)) n.toNat
  resultZeroblob64 _ n := (if SQLITE_MAX_LENGTH < n.toNat then SQLITE_TOOBIG else SQLITE_OK,
    set (.blob (List.replicate n.toNat 0)) n.toNat)

private theorem set_storesLike (v : SqlValue) (size : Nat) :
    StoresLike (0 + 1) (SelectParam.target.handle.store (0 + 1) v size) (set v size) := by
  by_cases hsize : SQLITE_MAX_LENGTH < size
  · simp [StoresLike, SelectParam.store, SelectParam.target, Statement.prepared, set, hsize,
      ResultApi.returned, SQLITE_TOOBIG, SQLITE_OK]
  · simp [StoresLike, SelectParam.store, SelectParam.target, Statement.prepared, set, hsize,
      ResultApi.returned, BindApi.bound]

theorem storesAlike (c : FunctionContext) : StoresAlike SelectParam.target.handle (0 + 1) c where
  null := set_storesLike _ _
  int _ := set_storesLike _ _
  int64 _ := set_storesLike _ _
  double _ := set_storesLike _ _
  text _ _ _ _ := set_storesLike _ _
  blob _ _ _ _ := set_storesLike _ _
  zeroblob _ := set_storesLike _ _

theorem storesLongAlike (c : FunctionContext) :
    StoresLongAlike SelectParam.target.handle (0 + 1) c where
  text _ _ _ _ := set_storesLike _ _
  blob _ _ _ _ := set_storesLike _ _

end FunctionContext

/-- A blob of no data and length three, and an integer read as text. -/
theorem value_interfaces_agree_zeroblob :
    Encodes (0 + 1) ((DbValue.blob ⟨none, 3⟩).bind 0 true SelectParam.target)
        ((DbValue.blob ⟨none, 3⟩).result true (⟨.ok .null⟩ : FunctionContext)) ∧
      (Value.val .string (SqlValue.integer 7)).outcome =
        (Statement.Converting.val 0 .string (SqlValue.integer 7)).outcome := by
  obtain ⟨hencode, hdecode, -⟩ := value_interfaces_agree
    (FunctionContext.storesAlike ⟨.ok .null⟩) (FunctionContext.storesLongAlike ⟨.ok .null⟩)
    SqlValue.convertsAlike
  exact ⟨hencode _ true, (hdecode .string 0 _ _ rfl).1⟩

end Sqxx
