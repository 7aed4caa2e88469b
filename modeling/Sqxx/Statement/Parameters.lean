import Sqxx.Sqlite.Parameters
import Sqxx.Statement.Values

/-!
# Parameters by index and by name

Parameter indexes of the wrapper start at zero.  A parameter can be bound by its index, by its name,
and through a parameter object made from either.
-/

namespace Sqxx
open Framework

/-- The text as a message has it, one character for each byte. -/
def CStr.text (s : CStr) : String := String.ofList (s.bytes.map fun b => Char.ofNat b.toNat)

def cannotFindParameter (name : CStr) : Exn :=
  .error SQLITE_RANGE (.text ("cannot find parameter \"" ++ name.text ++ "\""))

def cannotDetermineParameterName : Exn :=
  .error SQLITE_RANGE (.text "cannot determine parameter name")

/-- The overloads of `bind`: without a value, and with one. `copy` is for the types with memory. -/
inductive BindForm
  | null
  | value (v : DbValue) (copy : Bool)

/-- A `parameter`; its member `stmt` is the statement it is used with. -/
structure Parameter where
  idx : Int32
  deriving DecidableEq, Repr

namespace Statement

variable {T : Type} [api : ParamApi T]

def paramIndex (name : CStr) : Cxx (Statement T) Int32 := do
  let idx ← Prog.reading fun st => api.parameterIndex st.handle name
  if idx = 0 then
    Cxx.throw (cannotFindParameter name)
  else
    pure (idx - 1)

def paramIndexStd (name : StdString) : Cxx (Statement T) Int32 := paramIndex name.cStr

def paramCount (st : Statement T) : Int32 := api.parameterCount st.handle

def param (idx : Int32) : Parameter := ⟨idx⟩

def paramByName (name : CStr) : Cxx (Statement T) Parameter := do
  let idx ← paramIndex name
  pure (param idx)

def paramByNameStd (name : StdString) : Cxx (Statement T) Parameter := paramByName name.cStr

end Statement

namespace BindForm

variable {T : Type} [api : ParamApi T]

def bind (idx : Int32) : BindForm → Cxx (Statement T) Unit
  | .null => Statement.bind idx
  | .value v copy => v.bind idx copy

def bindByName (name : CStr) (form : BindForm) : Cxx (Statement T) Unit := do
  let idx ← Statement.paramIndex name
  form.bind idx

def bindByNameStd (name : StdString) (form : BindForm) : Cxx (Statement T) Unit :=
  form.bindByName name.cStr

def toSql : BindForm → SqlValue
  | .null => .null
  | .value v _ => v.toSql

def size : BindForm → Nat
  | .null => 0
  | .value v _ => v.size

/-- The call on the library that `bind` makes. -/
def toCall : BindForm → BindCall
  | .null => .null
  | .value (.int v) _ => .int v
  | .value (.int64 v) _ => .int64 v
  | .value (.double v) _ => .double v
  | .value (.charPtr none) _ => .null
  | .value (.charPtr (some s)) copy => .text64 s.pointer (strlen s) (Statement.copyFlag copy)
  | .value (.string v) copy => .text64 v.pointer v.length (Statement.copyFlag copy)
  | .value (.blob ⟨some data, length⟩) copy => .blob64 data length (Statement.copyFlag copy)
  | .value (.blob ⟨none, length⟩) _ => .zeroblob64 length

end BindForm

namespace Parameter

variable {T : Type} [api : ParamApi T]

def name (p : Parameter) : Cxx (Statement T) CStr := do
  match ← Prog.reading fun st => api.parameterName st.handle (p.idx + 1) with
  | none => Cxx.throw cannotDetermineParameterName
  | some n => pure n

/-- `parameter::bind`, with the statement's `bind` of the same type. -/
def bind (p : Parameter) (form : BindForm) : Cxx (Statement T) Unit := form.bind p.idx

end Parameter

/-! ## One parameter -/

section Slots

variable {T : Type} [api : ParamApi T]

/-- What `bind(idx, ...)` owes: the library's call has been made on the parameter `idx + 1` alone,
its value is stored or its error thrown, and a value without a length is always stored. -/
structure SetsOneSlot (form : BindForm) (idx : Int32) (st : Statement T)
    (r : Exec (Statement T) Raised Unit) : Prop where
  returns : (form.toCall.call (idx + 1) st.handle).1 = SQLITE_OK → r.outcome = .ok ()
  stored : (form.toCall.call (idx + 1) st.handle).1 = SQLITE_OK → form.size < 2 ^ 63 →
    api.bound r.final.handle (idx + 1) = form.toSql
  rejected : (form.toCall.call (idx + 1) st.handle).1 ≠ SQLITE_OK →
    r.outcome = .error (.exception (staticError (form.toCall.call (idx + 1) st.handle).1))
  others : ∀ j, j ≠ idx + 1 → api.bound r.final.handle j = api.bound st.handle j
  scalar : form.toCall.Scalar → r.outcome = .ok ()

/-- What `bind(idx, ...)` owes for an index that is none: it throws and nothing is stored. Only of a
blob without data can the length be what is thrown for. -/
structure SetsNoSlot (form : BindForm) (st : Statement T) (r : Exec (Statement T) Raised Unit) :
    Prop where
  throws : r.outcome = .error (.exception (staticError SQLITE_RANGE)) ∨
    (∃ n, form.toCall = .zeroblob64 n) ∧
      r.outcome = .error (.exception (staticError SQLITE_TOOBIG))
  kept : api.bound r.final.handle = api.bound st.handle

theorem bind_eq (form : BindForm) (idx : Int32) :
    form.bind idx =
      (Statement.checkedCall (form.toCall.call (idx + 1)) : Cxx (Statement T) Unit) := by
  rcases form with _ | ⟨v, copy⟩
  · rfl
  · rcases v with v | v | v | v | v | ⟨data, length⟩
    · rfl
    · rfl
    · rfl
    · cases v <;> rfl
    · rfl
    · cases data <;> rfl

theorem toCall_value (form : BindForm) : form.toCall.value = form.toSql := by
  rcases form with _ | ⟨v, copy⟩
  · rfl
  · rcases v with v | v | v | v | v | ⟨data, length⟩
    · rfl
    · rfl
    · rfl
    · cases v with
      | none => rfl
      | some s =>
        rw [BindForm.toCall, BindCall.value, strlen_toNat, CStr.pointer, readMem_memoryOf]
        rfl
    · rw [BindForm.toCall, BindCall.value, StdString.length_toNat, StdString.pointer,
        readMem_memoryOf]
      rfl
    · cases data <;> rfl

theorem toCall_inMemory {form : BindForm} (hsize : form.size < 2 ^ 63) :
    form.toCall.InMemory := by
  rcases form with _ | ⟨v, copy⟩
  · trivial
  · rw [BindForm.size] at hsize
    rcases v with v | v | v | v | v | ⟨data, length⟩
    · trivial
    · trivial
    · trivial
    · cases v with
      | none => trivial
      | some s =>
        rw [DbValue.size, ← strlen_toNat] at hsize
        exact hsize
    · rw [DbValue.size, ← StdString.length_toNat] at hsize
      exact hsize
    · rw [DbValue.size, Blob.bytes_length] at hsize
      cases data with
      | none => trivial
      | some p => exact hsize

theorem bound_of_ok (laws : ParamStores T) {form : BindForm} (hsize : form.size < 2 ^ 63) {t : T}
    {i : Int32} (hok : (form.toCall.call i t).1 = SQLITE_OK) :
    api.bound (form.toCall.call i t).2 i = form.toSql :=
  (laws.stores t i form.toCall (toCall_inMemory hsize) hok).trans (toCall_value form)

private theorem bind_setsOneSlot (laws : ParamLaws T) {st : Statement T}
    (hfresh : api.stepped st.handle = false) {idx : Int32} (hparam : IsParam st.handle (idx + 1))
    (form : BindForm) : SetsOneSlot form idx st (form.bind idx st) := by
  obtain ⟨hout, hfin⟩ := Statement.checkedCall_run (form.toCall.call (idx + 1)) st
  rw [bind_eq]
  constructor
  · intro hok
    rw [hout, if_pos hok]
  · intro hok hsize
    rw [hfin]
    exact bound_of_ok laws.toParamStores hsize hok
  · intro hno
    rw [hout, if_neg hno]
  · intro j hj
    rw [hfin]
    exact laws.others st.handle (idx + 1) form.toCall j hj
  · intro hscalar
    rw [hout, if_pos (laws.scalar st.handle (idx + 1) form.toCall hfresh hparam hscalar)]

private theorem bind_setsNoSlot (laws : ParamLaws T) {st : Statement T}
    (hfresh : api.stepped st.handle = false) {idx : Int32}
    (hparam : ¬ IsParam st.handle (idx + 1)) (form : BindForm) :
    SetsNoSlot form st (form.bind idx st) := by
  obtain ⟨hout, hfin⟩ := Statement.checkedCall_run (form.toCall.call (idx + 1)) st
  obtain ⟨hcode, hslots⟩ := laws.range st.handle (idx + 1) form.toCall hfresh hparam
  rw [bind_eq]
  constructor
  · rcases hcode with hrange | ⟨hzeroblob, hbig⟩
    · left
      rw [hout, hrange]
      exact if_neg (by decide)
    · right
      rw [hout, hbig]
      exact ⟨hzeroblob, if_neg (by decide)⟩
  · rw [hfin]
    exact hslots

/-! ## The two numberings -/

/-- The sum is computed with 32 bits: after the greatest index comes the least number. -/
theorem isParam_iff {t : T} {idx : Int32} :
    IsParam t (idx + 1) ↔ 0 ≤ idx.toInt ∧ idx.toInt < (api.parameterCount t).toInt := by
  have hlow := idx.le_toInt
  have hhigh := idx.toInt_lt
  have hcount := (api.parameterCount t).toInt_lt
  have hone : (1 : Int32).toInt = 1 := rfl
  rw [IsParam, Int32.toInt_add, hone]
  by_cases hlast : idx.toInt = 2 ^ 31 - 1
  · have hwrap : (idx.toInt + 1).bmod (2 ^ 32) = -2 ^ 31 := by
      rw [hlast]
      rfl
    omega
  · have hnext : (idx.toInt + 1).bmod (2 ^ 32) = idx.toInt + 1 :=
      Int.bmod_eq_of_le (by omega) (by omega)
    omega

private theorem paramIndex_run (laws : ParamLaws T) {st : Statement T} {i : Int32} {name : CStr}
    (hname : api.parameterName st.handle i = some name) :
    Statement.paramIndex name st = ⟨.ok (i - 1), st, []⟩ := by
  have hindex : api.parameterIndex st.handle name = i := laws.index st.handle i name hname
  have hne : i ≠ 0 := by
    rintro rfl
    exact absurd (laws.isParam st.handle 0 name hname).1 (by decide)
  rw [Statement.paramIndex, Prog.bind_run, Prog.reading_run, Exec.andThen_ok, Exec.prepend_nil,
    hindex, if_neg hne]
  rfl

private theorem paramIndex_throws (laws : ParamLaws T) {st : Statement T} {name : CStr}
    (hno : ∀ i, api.parameterName st.handle i ≠ some name) :
    Prog.Ends (Statement.paramIndex name) st (.error (.exception (cannotFindParameter name)))
      st := by
  apply (Prog.Ends.reading _ st).bind
  rw [laws.unknown st.handle name hno, if_pos rfl]
  exact Prog.Ends.raise _ st

private theorem name_ends {st : Statement T} {idx : Int32} {name : CStr}
    (hname : api.parameterName st.handle (idx + 1) = some name) :
    Prog.Ends (Statement.param idx).name st (.ok name) st := by
  apply (Prog.Ends.reading _ st).bind
  rw [Statement.param, hname]
  exact Prog.Ends.pure name st

private theorem name_throws {st : Statement T} {idx : Int32}
    (hname : api.parameterName st.handle (idx + 1) = none) :
    Prog.Ends (Statement.param idx).name st (.error (.exception cannotDetermineParameterName))
      st := by
  apply (Prog.Ends.reading _ st).bind
  rw [Statement.param, hname]
  exact Prog.Ends.raise _ st

omit api in
private theorem lookup_bind {A B : Type} {x : Cxx (Statement T) A} {st : Statement T} {a : A}
    (hx : x st = ⟨.ok a, st, []⟩) (f : A → Cxx (Statement T) B) : (x >>= f) st = f a st := by
  rw [Prog.bind_run, hx, Exec.andThen_ok, Exec.prepend_nil]

/-- The name and the index are those of one parameter: each is found by the other, and each way to
bind the parameter has the effect of `bind(idx, ...)`. -/
structure NamesParameter (form : BindForm) (name : CStr) (idx : Int32) (st : Statement T) :
    Prop where
  inRange : 0 ≤ idx.toInt ∧ idx.toInt < (Statement.paramCount st).toInt
  index : Prog.Ends (Statement.paramIndex name) st (.ok idx) st
  nameOfIndex : Prog.Ends (do
    let i ← Statement.paramIndex name
    (Statement.param i).name) st (.ok name) st
  bindByName : form.bindByName name st = form.bind idx st
  bindAtIndex : (do
    let i ← Statement.paramIndex name
    form.bind i) st = form.bind idx st
  paramByName : (do
    let p ← Statement.paramByName name
    p.bind form) st = form.bind idx st
  paramAtIndex : (do
    let i ← Statement.paramIndex name
    (Statement.param i).bind form) st = form.bind idx st
  std : ∀ s : StdString, s.cStr = name →
    (Statement.paramIndexStd s : Cxx (Statement T) Int32) = Statement.paramIndex name ∧
      (Statement.paramByNameStd s : Cxx (Statement T) Parameter) = Statement.paramByName name ∧
      (form.bindByNameStd s : Cxx (Statement T) Unit) = form.bindByName name
  sets : SetsOneSlot form idx st (form.bind idx st)

private theorem namesParameter (laws : ParamLaws T) {st : Statement T}
    (hfresh : api.stepped st.handle = false) (form : BindForm) {i : Int32} {name : CStr}
    (hname : api.parameterName st.handle i = some name) :
    NamesParameter form name (i - 1) st := by
  have hrun := paramIndex_run laws hname
  have hback : i - 1 + 1 = i := Int32.sub_add_cancel i 1
  have hparam : IsParam st.handle (i - 1 + 1) := hback.symm ▸ laws.isParam st.handle i name hname
  have hname' : api.parameterName st.handle (i - 1 + 1) = some name := hback.symm ▸ hname
  have hindex : Prog.Ends (Statement.paramIndex name) st (.ok (i - 1)) st := by
    constructor <;> rw [hrun]
  have hbyName : Statement.paramByName name st = ⟨.ok (Statement.param (i - 1)), st, []⟩ := by
    rw [Statement.paramByName, lookup_bind hrun]
    rfl
  refine ⟨isParam_iff.mp hparam, hindex, hindex.bind (name_ends hname'), lookup_bind hrun _,
    lookup_bind hrun _, lookup_bind hbyName _, lookup_bind hrun _, ?_,
    bind_setsOneSlot laws hfresh hparam form⟩
  rintro s rfl
  exact ⟨rfl, rfl, rfl⟩

/-- Every way to a parameter leads to the same one.  A name that there is has an index, and binding
by one or the other sets one slot; of a name that there is not, and of an index that is none, every
call throws and no slot changes. -/
theorem parameters_addressed (laws : ParamLaws T) {st : Statement T}
    (hfresh : api.stepped st.handle = false) (form : BindForm) :
    (∀ i name, api.parameterName st.handle i = some name →
        ∃ idx, idx + 1 = i ∧ NamesParameter form name idx st) ∧
      (∀ name, (∀ i, api.parameterName st.handle i ≠ some name) →
        let thrown : Raised := .exception (cannotFindParameter name)
        Prog.Ends (Statement.paramIndex name) st (.error thrown) st ∧
          Prog.Ends (form.bindByName name) st (.error thrown) st ∧
          Prog.Ends (Statement.paramByName name) st (.error thrown) st) ∧
      (∀ idx : Int32, 0 ≤ idx.toInt ∧ idx.toInt < (Statement.paramCount st).toInt →
        SetsOneSlot form idx st (form.bind idx st) ∧
          SetsOneSlot form idx st ((Statement.param idx).bind form st)) ∧
      ∀ idx : Int32, ¬ (0 ≤ idx.toInt ∧ idx.toInt < (Statement.paramCount st).toInt) →
        SetsNoSlot form st (form.bind idx st) ∧
          SetsNoSlot form st ((Statement.param idx).bind form st) ∧
          Prog.Ends (Statement.param idx).name st
            (.error (.exception cannotDetermineParameterName)) st := by
  refine ⟨?_, ?_, ?_, ?_⟩
  · intro i name hname
    exact ⟨i - 1, Int32.sub_add_cancel i 1, namesParameter laws hfresh form hname⟩
  · intro name hno
    have hthrows := paramIndex_throws laws hno
    exact ⟨hthrows, hthrows.bind_error, hthrows.bind_error⟩
  · intro idx hidx
    have hsets := bind_setsOneSlot laws hfresh (isParam_iff.mpr hidx) form
    exact ⟨hsets, hsets⟩
  · intro idx hidx
    have hparam : ¬ IsParam st.handle (idx + 1) := fun h => hidx (isParam_iff.mp h)
    have hthrows := bind_setsNoSlot laws hfresh hparam form
    have hname : api.parameterName st.handle (idx + 1) = none := by
      rcases hname : api.parameterName st.handle (idx + 1) with _ | name
      · rfl
      · exact (hparam (laws.isParam _ _ name hname)).elim
    exact ⟨hthrows, hthrows, name_throws hname⟩

end Slots

/-- The parameter `:a` of `select :a, ?` and the greatest `int`. -/
theorem parameters_addressed_twoParams :
    let st := Statement.prepared TwoParams.fresh
    let form : BindForm := .value (.int 7) true
    (∃ idx, idx + 1 = 1 ∧ NamesParameter form TwoParams.nameA idx st) ∧
      (form.bind (2 ^ 31 - 1) st).outcome = .error (.exception (staticError SQLITE_RANGE)) := by
  intro st form
  have hfresh : ParamApi.stepped st.handle = false := rfl
  obtain ⟨hnamed, -, -, hnone⟩ := parameters_addressed TwoParams.paramLaws hfresh form
  refine ⟨hnamed 1 TwoParams.nameA rfl, ?_⟩
  rcases (hnone (2 ^ 31 - 1) (by decide)).1.throws with hrange | ⟨⟨n, hn⟩, -⟩
  · exact hrange
  · cases hn

end Sqxx
