import Sqxx.Framework.Refinement
import Sqxx.Statement.Parameters
import Sqxx.Function.Values

/-!
# Bound parameters over executions

What a statement is executed with: the values bound last, by index, by name or through a parameter
object.  Resetting and stepping leave them alone, so that they serve every further execution until
they are bound again or cleared.
-/

namespace Sqxx
open Framework

inductive BindingEvent
  | bind (idx : Int32) (form : BindForm)
  | bindByName (name : CStr) (form : BindForm)
  | bindByNameStd (name : StdString) (form : BindForm)
  | bindParam (p : Parameter) (form : BindForm)
  | clearBindings
  | step
  | reset

/-- What is known of the parameters; a bind that failed may have left the old value or none. -/
abbrev KnownParams := Int32 → Option SqlValue

/-- The parameters of a statement keep their names, and nothing but binding and clearing changes
their values.  A value that was stored is within the limit. -/
structure KeepsParams (T : Type) [api : ParamApi T] [StepApi T] (names : CStr → Int32)
    (limit : Nat) : Prop where
  names : ∀ (t : T) name, api.parameterIndex t name = names name
  step : ∀ t : T, api.bound (StepApi.step t).2 = api.bound t
  reset : ∀ t : T, api.bound (StepApi.reset t).2 = api.bound t
  cleared : ∀ t : T, (StepApi.clearBindings t).1 = SQLITE_OK →
    ∀ i, api.bound (StepApi.clearBindings t).2 i = .null
  notCleared : ∀ t : T, (StepApi.clearBindings t).1 ≠ SQLITE_OK →
    api.bound (StepApi.clearBindings t).2 = api.bound t
  limit : ∀ (t : T) i (c : BindCall), c.InMemory → (c.call i t).1 = SQLITE_OK →
    c.value.size ≤ limit

/-- A row has in column `c` what its statement was given in parameter `i`. -/
def EchoesParam (T : Type) [api : ParamApi T] [StepApi T] [ColumnApi T]
    (i c : Int32) : Prop :=
  ∀ (t : T) x, (StepApi.step t).1 = SQLITE_ROW → api.bound t i = x →
    ColumnApi.column (StepApi.step t).2 c = x

namespace BindingEvent

variable {T : Type} [api : ParamApi T]

def op [StepApi T] : BindingEvent → Cxx (Statement T) Unit
  | .bind idx form => form.bind idx
  | .bindByName name form => form.bindByName name
  | .bindByNameStd name form => form.bindByNameStd name
  | .bindParam p form => p.bind form
  | .clearBindings => Statement.clearBindings
  | .step => Statement.step
  | .reset => Statement.reset

def machine [StepApi T] : Machine (Statement T) (BindingEvent) (Except Raised Unit) :=
  fun st e => ((op e st).outcome, (op e st).final)

/-- The number of the parameter with the name, if there is one. -/
def numberOf (names : CStr → Int32) (name : CStr) : Option Int32 :=
  if names name = 0 then none else some (names name)

def stored (form : BindForm) : Except Raised Unit → Option SqlValue
  | .ok () => if form.size < 2 ^ 63 then some form.toSql else none
  | .error _ => none

def storeNamed (names : CStr → Int32) (known : KnownParams)
    (name : CStr) (form : BindForm) (out : Except Raised Unit) : KnownParams :=
  match numberOf names name with
  | some i => Function.update known i (stored form out)
  | none => known

/-- The parameters as a partial map, told how the calls end. -/
def store (names : CStr → Int32) (known : KnownParams) :
    BindingEvent × Except Raised Unit → KnownParams
  | (.bind idx form, out) => Function.update known (idx + 1) (stored form out)
  | (.bindByName name form, out) => storeNamed names known name form out
  | (.bindByNameStd name form, out) => storeNamed names known name.cStr form out
  | (.bindParam p form, out) => Function.update known (p.idx + 1) (stored form out)
  | (.clearBindings, .ok ()) => fun _ => some (.null)
  | (.clearBindings, .error _) => known
  | (.step, _) | (.reset, _) => known

end BindingEvent

section Params

variable {T : Type} [api : ParamApi T] {names : CStr → Int32} {limit : Nat}

/-- What is known is so, and within the limit. -/
def Knows (limit : Nat) (st : Statement T) (known : KnownParams) : Prop :=
  ∀ i v, known i = some v → api.bound st.handle i = v ∧ v.size ≤ limit

namespace Knows

variable {st : Statement T} {known : KnownParams}

private theorem of_slot (hst : Knows limit st known) {st' : Statement T}
    (hbound : api.bound st'.handle = api.bound st.handle) : Knows limit st' known := by
  intro i v hv
  rw [hbound]
  exact hst i v hv

theorem update (hst : Knows limit st known) {st' : Statement T} {i : Int32}
    (hothers : ∀ j, j ≠ i → api.bound st'.handle j = api.bound st.handle j)
    {entry : Option SqlValue}
    (hentry : ∀ v, entry = some v → api.bound st'.handle i = v ∧ v.size ≤ limit) :
    Knows limit st' (Function.update known i entry) := by
  intro j v hv
  by_cases hj : j = i
  · subst hj
    rw [Function.update_self] at hv
    exact hentry v hv
  · rw [Function.update_of_ne hj] at hv
    rw [hothers j hj]
    exact hst j v hv

variable [StepApi T]

theorem bind (laws : ParamStores T) (hkeeps : KeepsParams T names limit)
    (hst : Knows limit st known) (idx : Int32) (form : BindForm) :
    Knows limit (form.bind idx st).final (Function.update known (idx + 1)
      (BindingEvent.stored form (form.bind idx st).outcome)) := by
  obtain ⟨hout, hfin⟩ := Statement.checkedCall_run (form.toCall.call (idx + 1)) st
  have hothers : ∀ j, j ≠ idx + 1 →
      api.bound (form.bind idx st).final.handle j = api.bound st.handle j := by
    intro j hj
    rw [bind_eq, hfin]
    exact laws.others st.handle (idx + 1) form.toCall j hj
  apply hst.update hothers
  rw [bind_eq, hout, hfin]
  intro v hv
  by_cases hok : (form.toCall.call (idx + 1) st.handle).1 = SQLITE_OK
  · rw [if_pos hok, BindingEvent.stored] at hv
    by_cases hsize : form.size < 2 ^ 63
    · rw [if_pos hsize] at hv
      obtain rfl : form.toSql = v := Option.some.inj hv
      have hlimit := hkeeps.limit st.handle (idx + 1) form.toCall (toCall_inMemory hsize) hok
      rw [toCall_value] at hlimit
      exact ⟨bound_of_ok laws hsize hok, hlimit⟩
    · rw [if_neg hsize] at hv
      cases hv
  · rw [if_neg hok] at hv
    cases hv

end Knows

private theorem bindByName_run [StepApi T] (hkeeps : KeepsParams T names limit) (name : CStr)
    (form : BindForm) (st : Statement T) :
    form.bindByName name st =
      match BindingEvent.numberOf names name with
      | some i => form.bind (i - 1) st
      | none => ⟨.error (.exception (cannotFindParameter name)), st, []⟩ := by
  rw [BindForm.bindByName, Prog.bind_run, Statement.paramIndex, Prog.bind_run, Prog.reading_run,
    Exec.andThen_ok, Exec.prepend_nil, hkeeps.names, BindingEvent.numberOf]
  by_cases hzero : names name = 0
  · rw [if_pos hzero, if_pos hzero]
    rfl
  · rw [if_neg hzero, if_neg hzero]
    exact Exec.prepend_nil _

theorem Knows.bindByName [StepApi T] (laws : ParamStores T) (hkeeps : KeepsParams T names limit)
    {st : Statement T} {known : KnownParams} (hst : Knows limit st known) (name : CStr)
    (form : BindForm) :
    Knows limit (form.bindByName name st).final
      (BindingEvent.storeNamed names known name form (form.bindByName name st).outcome) := by
  rw [bindByName_run hkeeps, BindingEvent.storeNamed]
  rcases BindingEvent.numberOf names name with _ | i
  · exact hst
  · have hbind := hst.bind laws hkeeps (i - 1) form
    rw [Int32.sub_add_cancel] at hbind
    exact hbind

theorem Knows.next [StepApi T] (laws : ParamStores T) (hkeeps : KeepsParams T names limit)
    {st : Statement T} {known : KnownParams} (hst : Knows limit st known) (e : BindingEvent) :
    Knows limit (BindingEvent.machine.next st e)
      (BindingEvent.store names known (e, (BindingEvent.machine st e).1)) := by
  cases e with
  | bind idx form => exact hst.bind laws hkeeps idx form
  | bindByName name form => exact hst.bindByName laws hkeeps name form
  | bindByNameStd name form => exact hst.bindByName laws hkeeps name.cStr form
  | bindParam p form => exact hst.bind laws hkeeps p.idx form
  | clearBindings =>
    have hfin : (BindingEvent.machine.next st .clearBindings).handle =
        (StepApi.clearBindings st.handle).2 :=
      congrArg Statement.handle (Statement.clearBindings_final st)
    have hout : (BindingEvent.machine st .clearBindings).1 =
        if (StepApi.clearBindings st.handle).1 = SQLITE_OK then .ok ()
        else .error (.exception (staticError (StepApi.clearBindings st.handle).1)) := by
      simp [BindingEvent.machine, BindingEvent.op, Statement.clearBindings, Cxx.checkOk_run]
    rw [hout]
    by_cases hok : (StepApi.clearBindings st.handle).1 = SQLITE_OK
    · rw [if_pos hok]
      intro i v hv
      obtain rfl : .null = v := Option.some.inj hv
      rw [hfin]
      exact ⟨hkeeps.cleared st.handle hok i, Nat.zero_le limit⟩
    · rw [if_neg hok]
      apply hst.of_slot
      rw [hfin]
      exact hkeeps.notCleared st.handle hok
  | step =>
    apply hst.of_slot
    have hfin : (BindingEvent.machine.next st .step).handle = (StepApi.step st.handle).2 :=
      congrArg Statement.handle (Statement.step_run st).2
    rw [hfin]
    exact hkeeps.step st.handle
  | reset =>
    apply hst.of_slot
    have hfin : (BindingEvent.machine.next st .reset).handle = (StepApi.reset st.handle).2 :=
      congrArg Statement.handle (Statement.reset_final st)
    rw [hfin]
    exact hkeeps.reset st.handle

theorem size_toSql (v : DbValue) : v.toSql.size = v.size := by
  cases v with
  | double v =>
    rw [DbValue.toSql, SqlValue.ofDouble]
    split <;> rfl
  | charPtr s => cases s <;> rfl
  | _ => rfl

/-- After any calls, each parameter holds what the last bind for it stored, unless it was cleared
since or that bind failed; and a row of the next execution reads as the values bound, each as its
own type. -/
theorem execution_reads_bound [StepApi T] [ColumnApi T] (laws : ParamStores T)
    (hkeeps : KeepsParams T names limit) (hcol : ColumnLaws T limit) {st : Statement T}
    {known : KnownParams} (hst : Knows limit st known) (es : List (BindingEvent)) :
    let st' := run BindingEvent.machine.next st es
    let known' := run (BindingEvent.store names) known (BindingEvent.machine.history st es)
    Knows limit st' known' ∧
      ∀ i c (v : DbValue), EchoesParam T i c → known' i = some v.toSql →
        OnRow (Statement.step st').final.calls → v.ReadAt c (Statement.step st').final := by
  intro st' known'
  have hknows : Knows limit st' known' :=
    Machine.follows_run (fun _ _ e hst => hst.next laws hkeeps e) hst es
  refine ⟨hknows, ?_⟩
  intro i c v hecho hv hrow
  obtain ⟨hbound, hsize⟩ := hknows i _ hv
  rw [(Statement.step_run st').2] at hrow ⊢
  apply DbValue.readAt_of_column hcol
  · exact hecho st'.handle v.toSql hrow hbound
  · exact Nat.le_trans (Nat.le_of_eq (size_toSql v).symm) hsize

end Params

namespace TwoParams

instance : StepApi TwoParams where
  step t := match t.phase with
    | .onRow => (SQLITE_DONE, { t with phase := .finished })
    | .ready | .finished => (SQLITE_ROW, { t with phase := .onRow })
  reset t := (SQLITE_OK, { t with phase := .ready })
  clearBindings t := (SQLITE_OK, { t with slot := fun _ => .null })

def names (name : CStr) : Int32 := if name = nameA then 1 else 0

theorem keepsParams : KeepsParams TwoParams names SQLITE_MAX_LENGTH where
  names _ _ := rfl
  step t := by
    rcases t with ⟨phase, slot⟩
    cases phase <;> rfl
  reset _ := rfl
  cleared _ _ _ := rfl
  notCleared _ hno := absurd rfl hno
  limit t i c _ hok := by
    obtain ⟨size, hput, hvalue, -⟩ | ⟨-, hbig⟩ := call_cases t i c
    · rw [hput] at hok
      exact Nat.le_trans hvalue (put_ok hok).1
    · rw [hbig] at hok
      exact absurd hok toobig_ne_ok

theorem echoesParam : EchoesParam TwoParams 1 0 := by
  rintro ⟨phase, slot⟩ x hrow hslot
  cases phase with
  | onRow => exact absurd (show SQLITE_DONE = SQLITE_ROW from hrow) (by decide)
  | ready | finished => exact hslot

end TwoParams

/-- `:a` is bound by its name, the statement is executed and reset, and binding an index that is
none fails: the second execution is on a row and reads the value again. -/
theorem execution_reads_bound_again :
    let st := Statement.prepared TwoParams.fresh
    let es : List BindingEvent :=
      [.bindByName TwoParams.nameA (.value (.int 7) true), .step, .reset, .bind 2 .null]
    let st' := run BindingEvent.machine.next st es
    OnRow (Statement.step st').final.calls ∧
      (DbValue.int 7).ReadAt 0 (Statement.step st').final := by
  intro st es st'
  have hst : Knows SQLITE_MAX_LENGTH st fun _ => none := fun _ _ h => by cases h
  have hrow : OnRow (Statement.step st').final.calls := by decide
  exact ⟨hrow, (execution_reads_bound TwoParams.paramLaws.toParamStores
    TwoParams.keepsParams
    (ColumnApi.ofCells_columnLaws _) hst es).2 1 0 (.int 7) TwoParams.echoesParam (by decide) hrow⟩

end Sqxx
