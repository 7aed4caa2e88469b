import Sqxx.Sqlite.Values

/-!
# Parameters inside the C library

The parameters of a statement are numbered from one; some of them have names, with the prefix they
are written with.
-/

namespace Sqxx

/-- `sqlite3_bind_parameter_*`. `stepped` tells whether the statement was stepped since its last
reset; it is no function of the library. -/
class ParamApi (T : Type) extends BindApi T where
  parameterCount : T → Int32
  parameterIndex : T → CStr → Int32
  parameterName : T → Int32 → Option CStr
  stepped : T → Bool

/-- A call of one of the binding functions, short of the statement and the parameter. -/
inductive BindCall
  | null
  | int (v : Int32)
  | int64 (v : Int64)
  | double (d : Double)
  | text64 (p : Pointer) (n : UInt64) (d : Destructor)
  | blob64 (p : Pointer) (n : UInt64) (d : Destructor)
  | zeroblob64 (n : UInt64)

namespace BindCall

variable {T : Type}

def call [BindApi T] (i : Int32) (t : T) : BindCall → Int × T
  | .null => BindApi.bindNull t i
  | .int v => BindApi.bindInt t i v
  | .int64 v => BindApi.bindInt64 t i v
  | .double d => BindApi.bindDouble t i d
  | .text64 p n d => BindApi.bindText64 t i p n d
  | .blob64 p n d => BindApi.bindBlob64 t i p n d
  | .zeroblob64 n => BindApi.bindZeroblob64 t i n

/-- The value the call is about. Memory given with `SQLITE_STATIC` stays as it is. -/
def value : BindCall → SqlValue
  | .null => .null
  | .int v => .integer v.toInt64
  | .int64 v => .integer v
  | .double d => .ofDouble d
  | .text64 p n _ => .text (readMem p n.toNat)
  | .blob64 p n _ => .blob (readMem p n.toNat)
  | .zeroblob64 n => .blob (List.replicate n.toNat 0)

/-- The value has no length that the library could find too big. -/
def Scalar : BindCall → Prop
  | .null | .int _ | .int64 _ | .double _ => True
  | .text64 _ _ _ | .blob64 _ _ _ | .zeroblob64 _ => False

/-- There can be memory of the length given. -/
def InMemory : BindCall → Prop
  | .text64 _ n _ | .blob64 _ n _ => n.toNat < 2 ^ 63
  | _ => True

end BindCall

section Laws

variable {T : Type} [api : ParamApi T]

def IsParam (t : T) (i : Int32) : Prop :=
  1 ≤ i.toInt ∧ i.toInt ≤ (api.parameterCount t).toInt

/-- A binding call stores its value in one parameter, unless it answers an error. -/
structure ParamStores (T : Type) [BindApi T] : Prop where
  stores : ∀ (t : T) i (c : BindCall), c.InMemory → (c.call i t).1 = SQLITE_OK →
    BindApi.bound (c.call i t).2 i = c.value
  others : ∀ (t : T) i (c : BindCall) j, j ≠ i →
    BindApi.bound (c.call i t).2 j = BindApi.bound t j

/-- Besides, each name is the name of one parameter; and on a statement that was not stepped since
its last reset a value without a length is stored, and a number that is no parameter's is reported
without effect. The length of a zeroblob may be reported before its number. -/
structure ParamLaws (T : Type) [api : ParamApi T] : Prop extends ParamStores T where
  isParam : ∀ (t : T) i name, api.parameterName t i = some name → IsParam t i
  index : ∀ (t : T) i name, api.parameterName t i = some name → api.parameterIndex t name = i
  unknown : ∀ (t : T) name, (∀ i, api.parameterName t i ≠ some name) →
    api.parameterIndex t name = 0
  scalar : ∀ (t : T) i (c : BindCall), api.stepped t = false → IsParam t i → c.Scalar →
    (c.call i t).1 = SQLITE_OK
  range : ∀ (t : T) i (c : BindCall), api.stepped t = false → ¬ IsParam t i →
    ((c.call i t).1 = SQLITE_RANGE ∨ (∃ n, c = .zeroblob64 n) ∧ (c.call i t).1 = SQLITE_TOOBIG) ∧
      api.bound (c.call i t).2 = api.bound t

end Laws

inductive Phase
  | ready
  | onRow
  | finished
  deriving DecidableEq, Repr

/-- The statement `select :a, ?` of a library. It may be bound until it is stepped, and again after
a reset. -/
structure TwoParams where
  phase : Phase
  slot : Int32 → SqlValue

namespace TwoParams

def nameA : CStr := ⟨[58, 97], by decide, by decide⟩

def fresh : TwoParams := ⟨.ready, fun _ => .null⟩

def put (t : TwoParams) (i : Int32) (v : SqlValue) (size : Nat) : Int × TwoParams :=
  if t.phase ≠ .ready then (SQLITE_MISUSE, t)
  else if ¬ (1 ≤ i.toInt ∧ i.toInt ≤ 2) then (SQLITE_RANGE, t)
  else if SQLITE_MAX_LENGTH < size then (SQLITE_TOOBIG, t)
  else (SQLITE_OK, { t with slot := Function.update t.slot i v })

instance : ParamApi TwoParams where
  bound t := t.slot
  bindNull t i := put t i .null 0
  bindInt t i v := put t i (.integer v.toInt64) 0
  bindInt64 t i v := put t i (.integer v) 0
  bindDouble t i d := put t i (.ofDouble d) 0
  bindText64 t i p n _ := put t i (.text (readMem p n.toNat)) n.toNat
  bindBlob64 t i p n _ := put t i (.blob (readMem p n.toNat)) n.toNat
  bindZeroblob64 t i n :=
    if SQLITE_MAX_LENGTH < n.toNat then (SQLITE_TOOBIG, t)
    else put t i (.blob (List.replicate n.toNat 0)) n.toNat
  parameterCount _ := 2
  parameterIndex _ name := if name = nameA then 1 else 0
  parameterName _ i := if i = 1 then some nameA else none
  stepped t := t.phase ≠ .ready

instance : ColumnApi TwoParams := ColumnApi.ofCells fun t c => t.slot (c + 1)

/-- Every binding function of this library is `put`, but for a zeroblob that is too big. -/
theorem call_cases (t : TwoParams) (i : Int32) (c : BindCall) :
    (∃ size, c.call i t = put t i c.value size ∧ c.value.size ≤ size ∧ (c.Scalar → size = 0)) ∨
      (∃ n, c = .zeroblob64 n) ∧ c.call i t = (SQLITE_TOOBIG, t) := by
  cases c with
  | null => exact .inl ⟨0, rfl, Nat.le_refl 0, fun _ => rfl⟩
  | int v => exact .inl ⟨0, rfl, Nat.le_refl 0, fun _ => rfl⟩
  | int64 v => exact .inl ⟨0, rfl, Nat.le_refl 0, fun _ => rfl⟩
  | double d =>
    refine .inl ⟨0, rfl, ?_, fun _ => rfl⟩
    rw [BindCall.value, SqlValue.ofDouble]
    split <;> exact Nat.le_refl 0
  | text64 p n d =>
    exact .inl ⟨n.toNat, rfl, Nat.le_of_eq (readMem_length p n.toNat), fun h => h.elim⟩
  | blob64 p n d =>
    exact .inl ⟨n.toNat, rfl, Nat.le_of_eq (readMem_length p n.toNat), fun h => h.elim⟩
  | zeroblob64 n =>
    by_cases hbig : SQLITE_MAX_LENGTH < n.toNat
    · exact .inr ⟨⟨n, rfl⟩, if_pos hbig⟩
    · exact .inl ⟨n.toNat, if_neg hbig, Nat.le_of_eq List.length_replicate, fun h => h.elim⟩

theorem toobig_ne_ok : SQLITE_TOOBIG ≠ SQLITE_OK := by decide

theorem put_ok {t : TwoParams} {i : Int32} {v : SqlValue} {size : Nat}
    (hok : (put t i v size).1 = SQLITE_OK) :
    size ≤ SQLITE_MAX_LENGTH ∧ (put t i v size).2.slot = Function.update t.slot i v := by
  unfold put at hok ⊢
  by_cases hstepped : t.phase ≠ .ready
  · rw [if_pos hstepped] at hok
    exact absurd (show SQLITE_MISUSE = SQLITE_OK from hok) (by decide)
  · rw [if_neg hstepped] at hok ⊢
    by_cases hinside : ¬ (1 ≤ i.toInt ∧ i.toInt ≤ 2)
    · rw [if_pos hinside] at hok
      exact absurd (show SQLITE_RANGE = SQLITE_OK from hok) (by decide)
    · rw [if_neg hinside] at hok ⊢
      by_cases hsize : SQLITE_MAX_LENGTH < size
      · rw [if_pos hsize] at hok
        exact absurd hok toobig_ne_ok
      · rw [if_neg hsize]
        exact ⟨Nat.le_of_not_lt hsize, rfl⟩

private theorem put_others (t : TwoParams) (i : Int32) (v : SqlValue) (size : Nat) {j : Int32}
    (hj : j ≠ i) : (put t i v size).2.slot j = t.slot j := by
  unfold put
  split
  · rfl
  · split
    · rfl
    · split
      · rfl
      · exact Function.update_of_ne hj v t.slot

private theorem phase_of_fresh {t : TwoParams} (h : ParamApi.stepped t = false) :
    ¬ t.phase ≠ .ready := of_decide_eq_false h

private theorem parameterName_some {t : TwoParams} {i : Int32} {name : CStr}
    (h : ParamApi.parameterName t i = some name) : i = 1 ∧ name = nameA := by
  have hi : i = 1 := by
    by_contra hne
    simp [ParamApi.parameterName, hne] at h
  subst hi
  simp only [ParamApi.parameterName, if_pos, Option.some.injEq] at h
  exact ⟨rfl, h.symm⟩

theorem paramLaws : ParamLaws TwoParams where
  stores t i c _ hok := by
    obtain ⟨size, hput, -⟩ | ⟨-, hbig⟩ := call_cases t i c
    · rw [hput] at hok ⊢
      exact (congrFun (put_ok hok).2 i).trans (Function.update_self i c.value t.slot)
    · rw [hbig] at hok
      exact absurd hok toobig_ne_ok
  others t i c j hj := by
    obtain ⟨size, hput, -⟩ | ⟨-, hbig⟩ := call_cases t i c
    · rw [hput]
      exact put_others t i _ size hj
    · rw [hbig]
  isParam t i name h := by
    obtain ⟨rfl, -⟩ := parameterName_some h
    exact (show 1 ≤ Int32.toInt 1 ∧ Int32.toInt 1 ≤ Int32.toInt 2 by decide)
  index t i name h := by
    obtain ⟨rfl, rfl⟩ := parameterName_some h
    exact if_pos rfl
  unknown t name h := by
    have hne : name ≠ nameA := by
      rintro rfl
      exact h 1 rfl
    exact if_neg hne
  scalar t i c hfresh hparam hscalar := by
    obtain ⟨size, hput, -, hsize⟩ | ⟨⟨n, rfl⟩, -⟩ := call_cases t i c
    · have hinside : 1 ≤ i.toInt ∧ i.toInt ≤ 2 := hparam
      rw [hput, hsize hscalar, put, if_neg (phase_of_fresh hfresh), if_neg (not_not.mpr hinside)]
      rfl
    · exact hscalar.elim
  range t i c hfresh hparam := by
    obtain ⟨size, hput, -⟩ | ⟨hzeroblob, hbig⟩ := call_cases t i c
    · have houtside : ¬ (1 ≤ i.toInt ∧ i.toInt ≤ 2) := hparam
      rw [hput, put, if_neg (phase_of_fresh hfresh), if_pos houtside]
      exact ⟨.inl rfl, rfl⟩
    · rw [hbig]
      exact ⟨.inr ⟨hzeroblob, rfl⟩, rfl⟩

end TwoParams

end Sqxx
