import Sqxx.Function.AggregateStates
import Sqxx.Function.Query

/-!
# An aggregate, registered, stepped and read

The library hands the rows of a group to the step callback of the aggregate that is registered under
the name, and its result to the column of a row.  What comes out is the fold of the rows, or the
error of the first callback that threw.
-/

namespace Sqxx
open Framework

variable {Q Ctx S V U C : Type} {n : Nat}

/-- What an aggregate of values computes: a fold that may fail, and a last step. -/
structure AggregateFold (S : Type) (n : Nat) where
  zero : S
  step : S → List.Vector DbValue n → Except Exn S
  final : S → Except Exn DbValue

def AggregateFold.value (fold : AggregateFold S n) (rows : List (List.Vector DbValue n)) :
    Except Exn DbValue :=
  rows.foldlM fold.step fold.zero >>= fold.final

/-- The exceptions that come out are errors by which SQL can know them. -/
structure AggregateFold.Errs (fold : AggregateFold S n) (isError : Int → Prop) : Prop where
  step : ∀ x row e, fold.step x row = .error e → isError e.code
  final : ∀ x e, fold.final x = .error e → isError e.code

theorem AggregateFold.Errs.value {fold : AggregateFold S n} {isError : Int → Prop}
    (herrs : fold.Errs isError) (rows : List (List.Vector DbValue n)) (x : S) {e : Exn}
    (he : (rows.foldlM fold.step x >>= fold.final) = .error e) : isError e.code := by
  induction rows generalizing x with
  | nil => exact herrs.final x e he
  | cons row rows ih =>
    rw [List.foldlM_cons] at he
    rcases hstep : fold.step x row with e' | x'
    · rw [hstep] at he
      cases he
      exact herrs.step x row e hstep
    · rw [hstep] at he
      exact ih x' he

namespace AggregateData

/-- The parameters behind the state have the types `tys`. -/
def Takes [ValueApi V SqlValue] (data : AggregateData S V ReadResult DbValue U n)
    (tys : Fin n → DbType) : Prop :=
  ∀ i v r, (Value.convert (tys i) v).outcome = .ok r → data.convert i v = .ok r

/-- What the code does depends on the state and the values of the arguments alone, and is the fold;
copies are good. -/
structure Computes (data : AggregateData S V ReadResult DbValue U n) (fold : AggregateFold S n) :
    Prop where
  zero : data.stateZero = fold.zero
  copy : ∀ u, (data.copyState data.stateZero u).1 = .ok data.stateZero
  step : ∀ x (args : List.Vector ReadResult n) ds u, (∀ i, (args.get i).Carries (ds.get i)) →
    match fold.step x ds with
    | .ok x' => (data.stepfun x args u).1 = (.ok (), x')
    | .error e => (data.stepfun x args u).1.1 = .error e
  final : ∀ x u, (data.finalfun x u).1 = fold.final x

end AggregateData

section Groups

variable [api : AggregateApi Q Ctx S] [errors : ErrorResultApi C]

def answerOf (c : C) (reports : List (SqlResult DbValue)) : Except Int SqlValue :=
  errors.returned (reports.foldl (fun c r => (r.deliver c).final) c)

/-- The library hands the rows of a group to the step callback, until one reports an error.  The
result of the final callback counts if there was none. -/
def groupReply (data : AggregateData S V ReadResult DbValue U n) (order : EvalOrder n) (ctx : Ctx)
    (c : C) : AggregateWorld Q U → List (List V) → Except Int SqlValue
  | w, [] => answerOf c (data.machine order w (ctx, .xFinal)).1.2
  | w, row :: rows => do
    let _none ← answerOf c (data.machine order w (ctx, .xStep row)).1.2
    groupReply data order ctx c ((data.machine order).next w (ctx, .xStep row)) rows

variable {limit : Nat} {c : C}

omit api in
private theorem answerOf_outcome (hresults : ResultLaws c limit) {o : Except Exn DbValue}
    (ho : ∀ e, o = .error e → e.code ≠ SQLITE_OK) :
    answerOf c [.ofOutcome o] = sqlOutcome limit o :=
  deliver_returned hresults ho

theorem AggregateData.Computes.enter {data : AggregateData S V ReadResult DbValue U n}
    {fold : AggregateFold S n} (hcomputes : data.Computes fold) (s : AggregateStates Ctx S U)
    (ctx : Ctx) : ∃ u, data.enter s ctx = (.ok ((s.states ctx).getD fold.zero), u) := by
  rw [AggregateData.enter]
  rcases s.states ctx with _ | x
  · have hcopy := hcomputes.copy s.user
    refine ⟨(data.copyState data.stateZero s.user).2, Prod.ext ?_ rfl⟩
    rw [Option.getD_none, ← hcomputes.zero]
    exact hcopy
  · exact ⟨s.user, rfl⟩

theorem AggregateData.Computes.foldRow [ValueApi V SqlValue] (hvalues : ValueLaws V limit)
    {data : AggregateData S V ReadResult DbValue U n} {fold : AggregateFold S n}
    (hcomputes : data.Computes fold) (order : EvalOrder n) {ds : List.Vector DbValue n}
    (htakes : data.Takes fun i => (ds.get i).type) (hsize : ∀ i, (ds.get i).size ≤ limit)
    {argv : List.Vector V n} (hheld : ∀ i, ValueApi.held (argv.get i) = (ds.get i).toSql) (x : S)
    (u : U) :
    (∃ x' u', fold.step x ds = .ok x' ∧ data.foldRow order x u argv = ((.ok (), x'), u')) ∨
      ∃ e x' u', fold.step x ds = .error e ∧
        data.foldRow order x u argv = ((.error e, x'), u') := by
  let f : Callable V ReadResult DbValue n := ⟨data.convert, fun _ => .error .badAlloc⟩
  obtain ⟨args, hargs, hcarries⟩ := f.convert_args hvalues htakes hsize hheld
  have hstep := hcomputes.step x args ds u hcarries
  have hfold : data.foldRow order x u argv = data.stepfun x args u := by
    unfold AggregateData.foldRow
    rw [order.converted_ok hargs]
  rw [hfold]
  rcases hstepfun : data.stepfun x args u with ⟨⟨o, x'⟩, u'⟩
  rw [hstepfun] at hstep
  rcases hout : fold.step x ds with e | y
  · rw [hout] at hstep
    obtain rfl : o = .error e := hstep
    exact Or.inr ⟨e, x', u', rfl, rfl⟩
  · rw [hout] at hstep
    cases hstep
    exact Or.inl ⟨x', u', rfl, rfl⟩

/-- The reply for a group with a state in its context, or without one. -/
theorem groupReply_folds [ValueApi V SqlValue] [DecidableEq Ctx] (laws : AggregateLaws Q Ctx S)
    (halloc : NoAllocFailure Q Ctx S) (hvalues : ValueLaws V limit) (hresults : ResultLaws c limit)
    (hfresh : errors.returned c = .ok .null) {data : AggregateData S V ReadResult DbValue U n}
    {fold : AggregateFold S n} (hcomputes : data.Computes fold) {tys : Fin n → DbType}
    (htakes : data.Takes tys) (herrs : fold.Errs (· ≠ SQLITE_OK)) (order : EvalOrder n) (ctx : Ctx)
    {rows : List (List.Vector V n)} {table : List (List.Vector DbValue n)}
    (hrows : List.Forall₂
      (fun argv ds => ∀ i, ValueApi.held (argv.get i) = (ds.get i).toSql) rows table)
    (htable : ∀ ds ∈ table, ∀ i, (ds.get i).type = tys i ∧ (ds.get i).size ≤ limit)
    {w : AggregateWorld Q U} {s : AggregateStates Ctx S U} (hw : Represents w s.user s.states) :
    groupReply data order ctx c w (rows.map List.Vector.toList) =
      sqlOutcome limit (table.foldlM fold.step ((s.states ctx).getD fold.zero) >>= fold.final) := by
  induction hrows generalizing w s with
  | nil =>
    obtain ⟨hreport, -⟩ := machine_step laws halloc data order w s (ctx, .xFinal) hw trivial
    rcases hout : data.finalfun ((s.states ctx).getD data.stateZero) s.user with ⟨o, u'⟩
    have hfinal : fold.final ((s.states ctx).getD fold.zero) = o := by
      rw [← hcomputes.zero, ← hcomputes.final _ s.user, hout]
    rw [List.map_nil, groupReply, hreport, states_xFinal hout]
    change answerOf c [.ofOutcome o] = sqlOutcome limit (fold.final _)
    rw [hfinal]
    exact answerOf_outcome hresults fun e he => herrs.final _ e (hfinal.trans he)
  | @cons argv ds rows table hheld hrows ih =>
    obtain ⟨hrow, htable'⟩ := List.forall_mem_cons.mp htable
    have htypes : (fun i => (ds.get i).type) = tys := funext fun i => (hrow i).1
    obtain ⟨u, henter⟩ := hcomputes.enter s ctx
    obtain ⟨hreport, hnext⟩ := machine_step laws halloc data order w s
      (ctx, .xStep argv.toList) hw fun _ => ⟨_, u, henter⟩
    rw [List.map_cons, groupReply, List.foldlM_cons, hreport]
    rcases hcomputes.foldRow hvalues order (htypes ▸ htakes) (fun i => (hrow i).2) hheld
      ((s.states ctx).getD fold.zero) u with
      ⟨x', u', hstep, hfold⟩ | ⟨e, x', u', hstep, hfold⟩
    · -- the row is folded in, nothing is reported and the next one follows
      have hstates := states_xStep argv.toList_length henter hfold
      have hanswer : answerOf c (AggregateData.thrownReport (.ok ())) = .ok .null := hfresh
      have hhere : (Function.update s.states ctx (some x') ctx).getD fold.zero = x' := by
        rw [Function.update_self, Option.getD_some]
      have hrest := ih htable' (s := ⟨u', Function.update s.states ctx (some x')⟩)
        (by rwa [Machine.next, Machine.next, hstates] at hnext)
      rw [hstates, hstep, hanswer]
      exact hrest.trans (congrArg (fun x => sqlOutcome limit (table.foldlM _ x >>= _)) hhere)
    · have hstates := states_xStep argv.toList_length henter hfold
      have hanswer : answerOf c (AggregateData.thrownReport (.error e)) = .error e.code := by
        apply answerOf_outcome hresults (o := .error e)
        intro e' he
        cases he
        exact herrs.step _ _ e hstep
      rw [hstates, hstep, hanswer]
      rfl

end Groups

section Queries

variable {F P K T : Type} [StepApi T] [ColumnApi T] [ValueApi V SqlValue]
  [AggregateApi Q Ctx S] [ErrorResultApi C] [DecidableEq Ctx] [DecidableEq K]
  [api : RegistryApi P K]
  (aggregateOf : F → Option ((n : Nat) × AggregateData S V ReadResult DbValue U n))

def Entry.aggregate (h : Heap F) :
    Entry → Option ((n : Nat) × AggregateData S V ReadResult DbValue U n)
  | ⟨.object id, .aggregateCalls, _⟩ => (h.cell id).bind aggregateOf
  | _ => none

/-- SQL's evaluation of the name on the rows of a group, in the context `ctx`. -/
def sqlGroup (w : RegistryWorld P F) (K : Type) [api : RegistryApi P K]
    (order : (n : Nat) → EvalOrder n) (ctx : Ctx) (c : C) (blocks : AggregateWorld Q U)
    (name : CStr) (argc : Nat) (rows : List (List V)) : Except Int SqlValue :=
  match (api.entry w.sqlite (api.functionKey (Q := P) name argc)).bind
      (Entry.aggregate aggregateOf w.callables) with
  | some ⟨n, data⟩ => groupReply data (order n) ctx c blocks rows
  | none => .error SQLITE_ERROR

omit [StepApi T] [ColumnApi T] [ValueApi V SqlValue] [AggregateApi Q Ctx S] [ErrorResultApi C]
  [DecidableEq Ctx] [DecidableEq K] api in
private theorem Entry.aggregate_of_target {h : Heap F} {e : Entry} {adat : F}
    (htarget : e.target h = some (.aggregate adat)) :
    e.aggregate aggregateOf h = aggregateOf adat := by
  obtain ⟨data, callback, destroy⟩ := e
  cases callback with
  | aggregateCalls =>
    cases data with
    | object id =>
      obtain ⟨found, hcell, hfound⟩ := Option.map_eq_some_iff.mp htarget
      cases hfound
      rw [Entry.aggregate, hcell, Option.bind_some]
    | functionPointer fptr => cases htarget
    | null => cases htarget
  | functionCallPtr =>
    cases data with
    | object id =>
      obtain ⟨found, -, hfound⟩ := Option.map_eq_some_iff.mp htarget
      cases hfound
    | functionPointer fptr => cases htarget
    | null => cases htarget
  | collationComparePtr =>
    cases data with
    | object id =>
      obtain ⟨found, -, hfound⟩ := Option.map_eq_some_iff.mp htarget
      cases hfound
    | functionPointer fptr => cases htarget
    | null => cases htarget
  | functionCallStaticfptr fptr => cases data <;> cases htarget
  | collationCompareStaticfptr fptr => cases data <;> cases htarget

/-- After any registrations and removals, a step that evaluates the name on the rows of a group
delivers the fold of the aggregate registered last, whatever contexts of other groups are in use: a
row that reads as its value, or the error of the first row, or of the final function, that threw. -/
theorem query_delivers_aggregate {limit : Nat} (hvalues : ValueLaws V limit) {c : C}
    (hresults : ResultLaws c limit) (hfresh : ResultApi.returned c = .ok .null)
    (hcol : ColumnLaws T limit) (memory : AggregateLaws Q Ctx S) (halloc : NoAllocFailure Q Ctx S)
    (laws : RegistryLaws P K) {p : P} (hp : ∀ k : K, api.entry p k = none)
    (es : List (RegistryEvent F)) (order : (n : Nat) → EvalOrder n) (name : CStr) {n : Nat}
    {adat : F} {data : AggregateData S V ReadResult DbValue U n}
    (hlast : lastTarget p es (api.functionKey (Q := P) name n) = some (.aggregate adat))
    (hf : aggregateOf adat = some ⟨n, data⟩) {fold : AggregateFold S n}
    (hcomputes : data.Computes fold) {tys : Fin n → DbType} (htakes : data.Takes tys)
    (herrs : fold.Errs IsErrorCode) {blocks : AggregateWorld Q U} {s : AggregateStates Ctx S U}
    (hblocks : Represents blocks s.user s.states) {ctx : Ctx} (hctx : s.states ctx = none)
    {table : List (List.Vector DbValue n)}
    (htable : ∀ ds ∈ table, ∀ i, (ds.get i).type = tys i ∧ (ds.get i).size ≤ limit)
    {i : Int32} {st : Statement T}
    (hselects : SelectsGroup i (table.map fun ds => ds.map DbValue.toSql)
      (sqlGroup aggregateOf (run (RegistryEvent.exec K) (.fresh p) es) K order ctx c blocks name n)
      st.handle) :
    Delivers limit i (Statement.step st) (fold.value table) := by
  let w := run (RegistryEvent.exec K) (.fresh p : RegistryWorld P F) es
  have htarget : targetAt K w (api.functionKey (Q := P) name n) = some (.aggregate adat) :=
    (targetAt_run laws hp es _).trans hlast
  rw [targetAt] at htarget
  obtain ⟨e, hentry, he⟩ := Option.bind_eq_some_iff.mp htarget
  obtain ⟨rows, hrows, hanswers⟩ := hselects
  have hheld : List.Forall₂ (fun argv ds => ∀ i, ValueApi.held (argv.get i) = (ds.get i).toSql)
      rows table := by
    rw [List.forall₂_map_right_iff] at hrows
    apply hrows.imp
    intro argv ds hboth j
    rw [hboth j, List.Vector.get_map]
  have hgroup : sqlGroup aggregateOf w K order ctx c blocks name n (rows.map List.Vector.toList) =
      groupReply data (order n) ctx c blocks (rows.map List.Vector.toList) := by
    rw [sqlGroup, hentry, Option.bind_some, Entry.aggregate_of_target aggregateOf he, hf]
  have hfolds := groupReply_folds memory halloc hvalues hresults hfresh hcomputes htakes
    ⟨fun x row e he => Int.ne_of_gt (herrs.step x row e he).1,
      fun x e he => Int.ne_of_gt (herrs.final x e he).1⟩ (order n) ctx hheld htable hblocks
  rw [hctx, Option.getD_none] at hfolds
  apply delivers_of_answers hcol (fun e he => herrs.value table fold.zero he)
  rwa [hgroup, hfolds] at hanswers

end Queries

namespace CheckedSum

def add (x : Int32) : Option Int32 → Except Exn Int32
  | some v => if v < 0 then .error (.stdException "negative") else .ok (x + v)
  | none => .error (.other 0)

/-- The sum of a column of `int`s, by a step function that throws for a negative one. -/
def fold : AggregateFold Int32 1 where
  zero := 0
  step x ds := add x (Quotient.dbInt? (ds.get 0))
  final x := .ok (.int x)

def stepped (x : Int32) : Except Exn Int32 → Except Exn Unit × Int32
  | .ok x' => (.ok (), x')
  | .error e => (.error e, x)

def data : AggregateData Int32 SqlValue ReadResult DbValue Unit 1 where
  sizeofInvocationData := ⟨8, by decide⟩
  stateZero := 0
  copyState x u := (.ok x, u)
  convert _ v := Quotient.converted (Value.convert .int v).outcome
  stepfun x args u := (stepped x (add x (Quotient.int? (args.get 0))), u)
  finalfun x u := (.ok (.int x), u)

def argv (v : Int32) : List.Vector SqlValue 1 := ⟨[.integer v.toInt64], rfl⟩

def values (v : Int32) : List.Vector DbValue 1 := ⟨[.int v], rfl⟩

theorem held (vs : List Int32) :
    List.Forall₂ (fun argv xs => ∀ i, ValueApi.held (argv.get i) = xs.get i) (vs.map argv)
      ((vs.map values).map fun ds => ds.map DbValue.toSql) := by
  induction vs with
  | nil => exact .nil
  | cons v vs ih => exact .cons (Fin.forall_fin_one.mpr rfl) ih

theorem computes : data.Computes fold where
  zero := rfl
  copy _ := rfl
  step x args ds u hcarries := by
    have hstep : data.stepfun x args u = (stepped x (fold.step x ds), u) := by
      change (stepped x (add x (Quotient.int? (args.get 0))), u) = _
      rw [Quotient.int?_of_carries (hcarries 0)]
      rfl
    rw [hstep]
    rcases fold.step x ds with e | x' <;> rfl
  final _ _ := rfl

theorem takes : data.Takes fun _ => .int := by
  intro i v r hr
  exact congrArg Quotient.converted hr

private theorem add_errs {x : Int32} {v : Option Int32} {e : Exn} (h : add x v = .error e) :
    IsErrorCode e.code := by
  cases v with
  | none =>
    cases h
    decide
  | some v =>
    rw [add] at h
    split at h
    · cases h
      decide
    · cases h

private theorem errs : fold.Errs IsErrorCode where
  step _ _ _ he := add_errs he
  final x e he := by cases he

end CheckedSum

structure OneGroup (reply : Except Int SqlValue) where
  onRow : Bool

namespace OneGroup

variable {reply : Except Int SqlValue}

def stepped (t : OneGroup reply) : Except Int SqlValue → Int × OneGroup reply
  | .ok _ => if t.onRow then (SQLITE_DONE, ⟨false⟩) else (SQLITE_ROW, ⟨true⟩)
  | .error rv => (rv, t)

instance : StepApi (OneGroup reply) where
  step t := stepped t reply
  reset _ := (SQLITE_OK, ⟨false⟩)
  clearBindings t := (SQLITE_OK, t)

instance : ColumnApi (OneGroup reply) := ColumnApi.ofCells fun _ _ => reply.toOption.getD .null

private theorem stepAnswers : StepAnswers (⟨false⟩ : OneGroup reply) 0 reply := by
  rcases reply with rv | x
  · intro _
    rfl
  · exact ⟨rfl, rfl⟩

end OneGroup

/-- The second aggregate of the name sums a column; a negative value makes the step throw. -/
theorem query_delivers_aggregate_sum :
    let name : CStr := ⟨[115], by decide, by decide⟩
    let es : List (RegistryEvent Nat) :=
      [.createAggregate name 1 2 none, .createAggregate name 1 3 none]
    let aggregateOf (adat : Nat) :
        Option ((n : Nat) × AggregateData Int32 SqlValue ReadResult DbValue Unit n) :=
      if adat = 3 then some ⟨1, CheckedSum.data⟩ else none
    let blocks : AggregateWorld (BlockTable Int32) Unit := ⟨fun _ => none, ()⟩
    let evaluate := sqlGroup aggregateOf
      (run (RegistryEvent.exec (CStr × Option Int)) (.fresh (∅ : EntryTable)) es)
      (CStr × Option Int) EvalOrder.leftToRight 0 (⟨.ok .null⟩ : FunctionContext) blocks name 1
    let row (vs : List Int32) := Statement.step (Statement.prepared
      (⟨false⟩ : OneGroup (evaluate ((vs.map CheckedSum.argv).map List.Vector.toList))))
    (DbValue.int 12).ReadAt 0 (row [5, 7]).final ∧
      (row [5, -1, 7]).outcome = .error (.exception (staticError SQLITE_ERROR)) := by
  intro name es aggregateOf blocks evaluate row
  have hlast : lastTarget (K := CStr × Option Int) (∅ : EntryTable) es (name, some 1) =
      some (.aggregate 3) := rfl
  have hdelivers : ∀ vs : List Int32, Delivers SQLITE_MAX_LENGTH 0 (row vs)
      (CheckedSum.fold.value (vs.map CheckedSum.values)) := by
    intro vs
    have htable : ∀ ds ∈ vs.map CheckedSum.values, ∀ i : Fin 1,
        (ds.get i).type = .int ∧ (ds.get i).size ≤ SQLITE_MAX_LENGTH := by
      intro ds hds
      obtain ⟨v, -, rfl⟩ := List.mem_map.mp hds
      exact Fin.forall_fin_one.mpr ⟨rfl, Nat.zero_le _⟩
    exact query_delivers_aggregate aggregateOf SqlValue.valueLaws (FunctionContext.resultLaws _) rfl
      (ColumnApi.ofCells_columnLaws _) aggregateLaws_blockTable noAllocFailure_blockTable
      EntryTable.registryLaws (fun _ => rfl) es EvalOrder.leftToRight name hlast rfl
      CheckedSum.computes CheckedSum.takes CheckedSum.errs
      (s := ⟨(), fun _ => none⟩) ⟨rfl, fun _ => rfl⟩ rfl htable
      ⟨vs.map CheckedSum.argv, CheckedSum.held vs, OneGroup.stepAnswers⟩
  have hsum : CheckedSum.fold.value ([5, 7].map CheckedSum.values) = .ok (.int 12) := rfl
  have hnegative : CheckedSum.fold.value ([5, -1, 7].map CheckedSum.values) =
      .error (.stdException "negative") := rfl
  have hsize : (DbValue.int 12).size ≤ SQLITE_MAX_LENGTH := Nat.zero_le _
  have hrow := hdelivers [5, 7]
  have hthrown := hdelivers [5, -1, 7]
  rw [hsum, Delivers, if_pos hsize] at hrow
  rw [hnegative] at hthrown
  exact ⟨hrow.2.2, hthrown⟩

end Sqxx
