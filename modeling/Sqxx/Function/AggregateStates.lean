import Sqxx.Framework.Refinement
import Sqxx.Function.Scalar
import Sqxx.Function.StateLifetime

/-!
# Aggregates as states of contexts

To the user's code an aggregate is a state for each context that has one.  The blocks of memory that
the library hands out, with their flags, constructions and destructions, implement that, whatever
the code throws and however the callbacks on the contexts interleave.
-/

namespace Sqxx
open Framework

variable {Q Ctx S V A R U : Type} {n : Nat}

private theorem not_mem_none {i : Fin n} (h : i ∈ ([] : List (Fin n))) : False := List.not_mem_nil h

private theorem mem_rest {i j : Fin n} {order : List (Fin n)} (h : i ∈ j :: order) (hij : i ≠ j) :
    i ∈ order :=
  (List.mem_cons.mp h).resolve_left hij

def convertedFrom (convert : Fin n → V → Except Exn A) (vals : List.Vector V n) :
    (order : List (Fin n)) → Except Exn ((i : Fin n) → i ∈ order → A)
  | [] => .ok fun _ h => (not_mem_none h).elim
  | j :: order => do
    let a ← convert j (vals.get j)
    let rest ← convertedFrom convert vals order
    pure fun i h => if hij : i = j then a else rest i (mem_rest h hij)

def EvalOrder.converted (order : EvalOrder n) (convert : Fin n → V → Except Exn A)
    (vals : List.Vector V n) : Except Exn (List.Vector A n) :=
  (convertedFrom convert vals order.order).map fun args =>
    List.Vector.ofFn fun i => args i (order.complete i)

/-- The state of the user's code, and those of the contexts that have one. -/
structure AggregateStates (Ctx S U : Type) where
  user : U
  states : Ctx → Option S

namespace AggregateData

/-- The state that a row is folded into; a context without one gets a copy of the zero state. -/
def enter (data : AggregateData S V A R U n) (s : AggregateStates Ctx S U) (c : Ctx) :
    Except Exn S × U :=
  match s.states c with
  | some x => (.ok x, s.user)
  | none => data.copyState data.stateZero s.user

def foldRow (data : AggregateData S V A R U n) (order : EvalOrder n) (x : S) (u : U)
    (row : List.Vector V n) : (Except Exn Unit × S) × U :=
  match order.converted data.convert row with
  | .error e => ((.error e, x), u)
  | .ok args => data.stepfun x args u

abbrev Ending (R : Type) := Except Raised Unit × List (SqlResult R)

def thrownReport : Except Exn Unit → List (SqlResult R)
  | .ok () => []
  | .error e => [.ofExn e]

variable [DecidableEq Ctx]

def states (data : AggregateData S V A R U n) (order : EvalOrder n) :
    Machine (AggregateStates Ctx S U) (Ctx × AggregateCallback V) (Ending R)
  | s, (c, .xStep argv) =>
    if h : argv.length = n then
      match data.enter s c with
      | (.error e, u) => ((.ok (), thrownReport (.error e)), ⟨u, s.states⟩)
      | (.ok x, u) =>
        let ((outcome, x), u) := data.foldRow order x u ⟨argv, h⟩
        ((.ok (), thrownReport outcome), ⟨u, Function.update s.states c (some x)⟩)
    else
      ((.ok (), [.errorCode SQLITE_MISUSE]), s)
  | s, (c, .xFinal) =>
    let (outcome, u) := data.finalfun ((s.states c).getD data.stateZero) s.user
    ((.ok (), [.ofOutcome outcome]), ⟨u, Function.update s.states c none⟩)

/-- The copy of the zero state, where one is made, does not throw. -/
def Enters (data : AggregateData S V A R U n) (s : AggregateStates Ctx S U) :
    Ctx × AggregateCallback V → Prop
  | (c, .xStep argv) => argv.length = n → ∃ x u, data.enter s c = (.ok x, u)
  | (_, .xFinal) => True

omit [DecidableEq Ctx] in
/-- The callbacks of the code, on the library's blocks. -/
def machine [api : AggregateApi Q Ctx S] (data : AggregateData S V A R U n)
    (order : EvalOrder n) :
    Machine (AggregateWorld Q U) (Ctx × AggregateCallback V) (Ending R)
  | w, (c, .xStep argv) =>
    let r := data.callStep order c argv ⟨w, []⟩
    ((r.outcome, results r.final.trace), r.final.world)
  | w, (c, .xFinal) =>
    let r := data.callFinal c ⟨w, []⟩
    ((r.outcome, results r.final.trace),
      { r.final.world with sqlite := api.release r.final.world.sqlite c })

end AggregateData

/-! ## Conversions -/

section Conversions

variable {convert : Fin n → V → Except Exn A} {vals : List.Vector V n}

private theorem convertedFrom_ok {args : Fin n → A} {order : List (Fin n)}
    (hargs : ∀ i ∈ order, convert i (vals.get i) = .ok (args i)) :
    convertedFrom convert vals order = .ok fun i _ => args i := by
  induction order with
  | nil =>
    rw [convertedFrom]
    congr 1
    funext i h
    cases h
  | cons j order ih =>
    obtain ⟨hj, horder⟩ := List.forall_mem_cons.mp hargs
    rw [convertedFrom, hj, ih horder]
    change Except.ok _ = Except.ok _
    congr 1
    funext i h
    by_cases hij : i = j
    · rw [dif_pos hij, hij]
    · rw [dif_neg hij]

private theorem convertedFrom_error {done rest : List (Fin n)} {i : Fin n} {e : Exn}
    (hdone : ∀ j ∈ done, ∃ a, convert j (vals.get j) = .ok a)
    (hi : convert i (vals.get i) = .error e) :
    convertedFrom convert vals (done ++ i :: rest) = .error e := by
  induction done with
  | nil =>
    rw [List.nil_append, convertedFrom, hi]
    rfl
  | cons j done ih =>
    obtain ⟨⟨a, ha⟩, hrest⟩ := List.forall_mem_cons.mp hdone
    rw [List.cons_append, convertedFrom, ha, ih hrest]
    rfl

theorem EvalOrder.converted_ok (order : EvalOrder n) {args : List.Vector A n}
    (hargs : ∀ i, convert i (vals.get i) = .ok (args.get i)) :
    order.converted convert vals = .ok args := by
  rw [EvalOrder.converted, convertedFrom_ok fun i _ => hargs i]
  exact congrArg Except.ok (List.Vector.ofFn_get args)

private theorem invoke_converted {W B : Type} (order : EvalOrder n)
    (convert : Fin n → V → Except Exn A)
    (body : List.Vector A n → Cxx (Invocation W A R) B) (vals : List.Vector V n)
    (s : Invocation W A R) :
    (∃ e es, order.converted convert vals = .error e ∧ results es = [] ∧
        Prog.Ends (invoke order convert body vals) s (.error (.exception e)) (s.noting es)) ∨
      ∃ args es, order.converted convert vals = .ok args ∧ results es = [] ∧
        ∀ o t, Prog.Ends (body args) (s.noting es) o t →
          Prog.Ends (invoke order convert body vals) s o t := by
  rcases converted_or_throws convert vals order with
    ⟨args, hargs⟩ | ⟨done, rest, i, e, horder, hdone, hi⟩
  · right
    refine ⟨args, conversions order.order ++ [.call args.toList], order.converted_ok hargs, ?_,
      fun o t hbody => invoke_ends_ok order hargs hbody⟩
    rw [results_append, results_conversions]
    rfl
  · left
    refine ⟨e, conversions (done ++ [i]), ?_, results_conversions _,
      invoke_ends_error order horder hdone hi s⟩
    have hthrows : convertedFrom convert vals order.order = .error e := by
      rw [horder]
      exact convertedFrom_error hdone hi
    rw [EvalOrder.converted, hthrows]
    rfl

end Conversions

/-! ## Callbacks -/

abbrev blocksOf (st : Ctx → Option S) (c : Ctx) : Option (InvocationData S) :=
  (st c).map fun x => ⟨true, some x⟩

/-- The user's state is `u`; a context with a state has a block in which it was built, and no other
context has a block. -/
structure Represents [api : AggregateApi Q Ctx S] (w : AggregateWorld Q U) (u : U)
    (st : Ctx → Option S) : Prop where
  user : w.user = u
  block : ∀ c, api.block w.sqlite c = blocksOf st c

section Callbacks

variable [api : AggregateApi Q Ctx S] [DecidableEq Ctx] {st : Ctx → Option S} {c : Ctx} {x : S}
  {u : U} {t : AggregateCall Q U A R}

private theorem BlockIs.represents (h : BlockIs (blocksOf st) c ⟨true, some x⟩ t)
    (hu : t.world.user = u) : Represents t.world u (Function.update st c (some x)) where
  user := hu
  block d := by
    by_cases hd : d = c
    · subst hd
      rw [h.here, blocksOf, Function.update_self]
      rfl
    · rw [h.elsewhere d hd, blocksOf, blocksOf, Function.update_of_ne hd]

private theorem Represents.blockIs (h : Represents t.world u (Function.update st c (some x))) :
    BlockIs (blocksOf st) c ⟨true, some x⟩ t where
  here := by
    rw [h.block, blocksOf, Function.update_self]
    rfl
  elsewhere d hd := by
    rw [h.block, blocksOf, blocksOf, Function.update_of_ne hd]

omit [DecidableEq Ctx] in
private theorem writeState_writes {before : Ctx → Option (InvocationData S)} {b : InvocationData S}
    (laws : AggregateLaws Q Ctx S) (h : BlockIs before c b t) (state : Option S) :
    ∃ t', Prog.Ends (writeState c state) t (.ok ()) t' ∧
      BlockIs before c { b with state := state } t' ∧ t'.world.user = t.world.user ∧
      t'.trace = t.trace :=
  ⟨_, (readBlock_ends h).bind (Prog.Ends.effect _ t), h.stored laws _, rfl, rfl⟩

omit [DecidableEq Ctx] in
private theorem rethrow_ends {B : Type} (o : Except Exn B) (t : AggregateCall Q U A R) :
    Prog.Ends (rethrow o) t (o.mapError Raised.exception) t := by
  cases o with
  | ok b => exact Prog.Ends.pure b t
  | error e => exact Prog.Ends.raise _ t

private theorem getStateCreate_enters (laws : AggregateLaws Q Ctx S)
    (halloc : NoAllocFailure Q Ctx S)
    (data : AggregateData S V A R U n) {s : AggregateStates Ctx S U}
    (h : Represents t.world s.user s.states) (henter : data.enter s c = (.ok x, u)) :
    ∃ t', Prog.Ends (data.getStateCreate c) t (.ok ()) t' ∧
      Represents t'.world u (Function.update s.states c (some x)) ∧ t'.trace = t.trace := by
  let bytes := data.sizeofInvocationData
  let t₁ : AggregateCall Q U A R :=
    ⟨⟨(api.aggregateContext t.world.sqlite c bytes).2, t.world.user⟩, t.trace⟩
  have htrue := halloc t.world.sqlite c bytes bytes.2
  have hcreate : Prog.Ends (inSqlite fun q => api.aggregateContext q c bytes) t (.ok true) t₁ := by
    rw [← htrue]
    exact Prog.Ends.effect _ t
  have hblock : BlockIs (blocksOf s.states) c ((blocksOf s.states c).getD .zeroed) t₁ := by
    constructor
    · rw [← h.block]
      exact laws.create _ c bytes bytes.2 htrue
    · intro d hd
      exact (laws.create_other _ c d bytes hd).trans (h.block d)
  rw [AggregateData.enter] at henter
  rcases hstate : s.states c with _ | y
  · -- the block is new, the flag is set and the state is copied into it
    rw [hstate] at henter
    rw [blocksOf, hstate] at hblock
    obtain ⟨t₂, hflag, hblock₂, htrace₂⟩ := writeBlock_ends laws hblock ⟨true, none⟩
    have huser₂ : t₂.world.user = t₁.world.user :=
      congrArg (fun t => t.world.user) hflag.final.symm
    have hcopied : data.copyState data.stateZero t₂.world.user = (.ok x, u) := by
      rw [huser₂, ← henter]
      exact congrArg _ h.user
    obtain ⟨t', hwrite, hblock', huser', htrace'⟩ :=
      writeState_writes laws (hblock₂.inUser u) (some x)
    refine ⟨t', ?_, hblock'.represents huser', htrace'.trans htrace₂⟩
    apply hcreate.bind
    apply (readBlock_ends hblock).bind
    apply (readBlock_ends hblock).bind
    apply hflag.bind
    apply (inUser_ends hcopied).bind
    apply (Prog.Ends.pure x _).bind
    exact hwrite
  · rw [hstate] at henter
    cases henter
    rw [blocksOf, hstate] at hblock
    refine ⟨t₁, ?_, hblock.represents h.user, rfl⟩
    apply hcreate.bind
    apply (readBlock_ends hblock).bind
    exact Prog.Ends.pure () t₁

private theorem applyStep_represents (laws : AggregateLaws Q Ctx S)
    (data : AggregateData S V A R U n)
    (h : Represents t.world u (Function.update st c (some x))) {args : List.Vector A n}
    {o : Except Exn Unit} {x' : S} {u' : U} (hstep : data.stepfun x args u = ((o, x'), u')) :
    ∃ t', Prog.Ends (data.applyStep c args) t (o.mapError Raised.exception) t' ∧
      Represents t'.world u' (Function.update st c (some x')) ∧ t'.trace = t.trace := by
  have hblock := h.blockIs
  have hcall : data.stepfun x args t.world.user = ((o, x'), u') := by
    rw [h.user]
    exact hstep
  obtain ⟨t', hwrite, hblock', huser', htrace'⟩ :=
    writeState_writes laws (hblock.inUser u') (some x')
  refine ⟨t', ?_, hblock'.represents huser', htrace'⟩
  apply (readState_ends hblock rfl).bind
  apply (inUser_ends hcall).bind
  apply hwrite.bind
  exact rethrow_ends o t'

private theorem stepCall_represents (laws : AggregateLaws Q Ctx S) (halloc : NoAllocFailure Q Ctx S)
    (data : AggregateData S V A R U n) (order : EvalOrder n) {s : AggregateStates Ctx S U}
    (h : Represents t.world s.user s.states) {argv : List V} (hlen : argv.length = n)
    (henter : data.enter s c = (.ok x, u)) {o : Except Exn Unit} {x' : S} {u' : U}
    (hfold : data.foldRow order x u ⟨argv, hlen⟩ = ((o, x'), u')) :
    ∃ t', Prog.Ends (data.stepCall order c argv) t (o.mapError Raised.exception) t' ∧
      Represents t'.world u' (Function.update s.states c (some x')) ∧
      results t'.trace = results t.trace := by
  obtain ⟨t₁, hcreate, h₁, htrace₁⟩ := getStateCreate_enters laws halloc data h henter
  let read := t₁.noting ((List.range n).map .read)
  have hread : results read.trace = results t.trace := by
    change results (t₁.trace ++ _) = _
    rw [results_append, results_map_read, List.append_nil, htrace₁]
  have hstepCall {o : Except Raised Unit} {t' : AggregateCall Q U A R}
      (hinvoke : Prog.Ends (invoke order data.convert (data.applyStep c) ⟨argv, hlen⟩) read o t') :
      Prog.Ends (data.stepCall order c argv) t o t' := by
    rw [AggregateData.stepCall, if_neg (not_not.mpr hlen)]
    exact hcreate.bind (applyValueArray_ends hlen hinvoke)
  unfold AggregateData.foldRow at hfold
  rcases invoke_converted order data.convert (data.applyStep c) ⟨argv, hlen⟩ read with
    ⟨e, es, hconv, hes, hinvoke⟩ | ⟨args, es, hconv, hes, hinvoke⟩
  · rw [hconv] at hfold
    cases hfold
    refine ⟨_, hstepCall hinvoke, ⟨h₁.user, h₁.block⟩, ?_⟩
    change results (read.trace ++ es) = _
    rw [results_append, hes, List.append_nil, hread]
  · rw [hconv] at hfold
    have hreached : Represents (read.noting es).world u (Function.update s.states c (some x)) :=
      ⟨h₁.user, h₁.block⟩
    obtain ⟨t', happly, h', htrace'⟩ := applyStep_represents laws data hreached hfold
    refine ⟨t', hstepCall (hinvoke _ t' happly), h', ?_⟩
    rw [htrace']
    change results (read.trace ++ es) = _
    rw [results_append, hes, List.append_nil, hread]

private theorem callStep_represents (laws : AggregateLaws Q Ctx S) (halloc : NoAllocFailure Q Ctx S)
    (data : AggregateData S V A R U n) (order : EvalOrder n) {s : AggregateStates Ctx S U}
    (h : Represents t.world s.user s.states) {argv : List V} (hlen : argv.length = n)
    (henter : data.enter s c = (.ok x, u)) {o : Except Exn Unit} {x' : S} {u' : U}
    (hfold : data.foldRow order x u ⟨argv, hlen⟩ = ((o, x'), u')) :
    ∃ t', Prog.Ends (data.callStep order c argv) t (.ok ()) t' ∧
      Represents t'.world u' (Function.update s.states c (some x')) ∧
      results t'.trace = results t.trace ++ AggregateData.thrownReport o := by
  obtain ⟨t', hcall, h', hresults⟩ :=
    stepCall_represents laws halloc data order h hlen henter hfold
  cases o with
  | ok _ =>
    exact ⟨t', catchToResult_ends_ok hcall, h', hresults.trans (List.append_nil _).symm⟩
  | error e =>
    refine ⟨_, catchToResult_ends_error hcall, ⟨h'.user, h'.block⟩, ?_⟩
    change results (t'.trace ++ _) = _
    rw [results_append, hresults]
    rfl

omit [DecidableEq Ctx] in
private theorem callStep_misuse (data : AggregateData S V A R U n) (order : EvalOrder n)
    {argv : List V} (hlen : argv.length ≠ n) :
    Prog.Ends (data.callStep order c argv) t (.ok ())
      (t.noting [.result (.errorCode SQLITE_MISUSE)]) := by
  apply catchToResult_ends_ok
  rw [AggregateData.stepCall, if_pos hlen]
  exact note_ends _ t

omit [DecidableEq Ctx] api in
/-- A program reports the value, or it reports nothing and throws. -/
def Reports (x : Cxx (AggregateCall Q U A R) Unit) (t : AggregateCall Q U A R) (o : Except Exn R)
    (t' : AggregateCall Q U A R) : Prop :=
  match o with
  | .ok r => Prog.Ends x t (.ok ()) t' ∧ results t'.trace = results t.trace ++ [.value r]
  | .error e => Prog.Ends x t (.error (.exception e)) t' ∧ results t'.trace = results t.trace

section Reporting

variable {x : Cxx (AggregateCall Q U A R) Unit} {t t' : AggregateCall Q U A R} {o : Except Exn R}

theorem Reports.caught (h : Reports x t o t') :
    ∃ t'', Prog.Ends (catchToResult x) t (.ok ()) t'' ∧ t''.world = t'.world ∧
      results t''.trace = results t.trace ++ [.ofOutcome o] := by
  cases o with
  | ok r => exact ⟨t', catchToResult_ends_ok h.1, rfl, h.2⟩
  | error e =>
    refine ⟨_, catchToResult_ends_error h.1, rfl, ?_⟩
    change results (t'.trace ++ _) = _
    rw [results_append, h.2]
    rfl

theorem Reports.inScope {destructor : Cxx (AggregateCall Q U A R) Unit}
    {t'' : AggregateCall Q U A R} (h : Reports x t o t')
    (hdestructor : Prog.Ends destructor t' (.ok ()) t'') (htrace : t''.trace = t'.trace) :
    Reports (Cxx.inScope x destructor) t o t'' := by
  cases o with
  | ok r => exact ⟨Cxx.inScope_ends h.1 nofun hdestructor, htrace ▸ h.2⟩
  | error e => exact ⟨Cxx.inScope_ends h.1 nofun hdestructor, htrace ▸ h.2⟩

theorem Reports.after {B : Type} {y : Cxx (AggregateCall Q U A R) B}
    {f : B → Cxx (AggregateCall Q U A R) Unit} {t₀ : AggregateCall Q U A R} {b : B}
    (hy : Prog.Ends y t₀ (.ok b) t) (htrace : t.trace = t₀.trace) (h : Reports (f b) t o t') :
    Reports (y >>= f) t₀ o t' := by
  cases o with
  | ok r => exact ⟨hy.bind h.1, htrace ▸ h.2⟩
  | error e => exact ⟨hy.bind h.1, htrace ▸ h.2⟩

end Reporting

omit api [DecidableEq Ctx] in
private theorem finalfun_reports (data : AggregateData S V A R U n) {o : Except Exn R} {u' : U}
    (hfinal : data.finalfun x t.world.user = (o, u')) :
    ∃ t', Reports (do
        let outcome ← inUser (data.finalfun x)
        let r ← rethrow outcome
        Context.result r) t o t' ∧ t'.world = { t.world with user := u' } := by
  have hcall := inUser_ends (t := t) hfinal
  cases o with
  | ok r =>
    refine ⟨_, ⟨hcall.bind ((Prog.Ends.pure r _).bind (note_ends _ _)), ?_⟩, rfl⟩
    exact results_append _ _
  | error e =>
    exact ⟨_, ⟨hcall.bind (Prog.Ends.raise _ _).bind_error, rfl⟩, rfl⟩

omit [DecidableEq Ctx] in
private theorem callFinal_represents (laws : AggregateLaws Q Ctx S)
    (data : AggregateData S V A R U n)
    {s : AggregateStates Ctx S U} (h : Represents t.world s.user s.states) {o : Except Exn R}
    {u' : U} (hfinal : data.finalfun ((s.states c).getD data.stateZero) s.user = (o, u')) :
    ∃ t', Prog.Ends (data.callFinal c) t (.ok ()) t' ∧ t'.world.user = u' ∧
      (∀ d, d ≠ c → api.block t'.world.sqlite d = blocksOf s.states d) ∧
      results t'.trace = results t.trace ++ [.ofOutcome o] := by
  let t₁ : AggregateCall Q U A R :=
    ⟨⟨(api.aggregateContext t.world.sqlite c 0).2, t.world.user⟩, t.trace⟩
  have hexisting : Prog.Ends (data.getStateExisting c) t (.ok (blocksOf s.states c).isSome) t₁ := by
    rw [← h.block, ← laws.existing]
    exact Prog.Ends.effect _ t
  have hsame : ∀ d, api.block t₁.world.sqlite d = blocksOf s.states d :=
    fun d => (laws.existing_block _ c d).trans (h.block d)
  rw [← h.user] at hfinal
  rcases hstate : s.states c with _ | y
  · rw [hstate] at hfinal
    rw [blocksOf, hstate] at hexisting
    obtain ⟨t₂, hbody, hworld⟩ := finalfun_reports (t := t₁) data hfinal
    have hcall : Reports (data.finalCall c) t o t₂ := Reports.after hexisting rfl hbody
    obtain ⟨t', hends, hworld', hresults⟩ := hcall.caught
    refine ⟨t', hends, ?_, ?_, hresults⟩
    · rw [hworld', hworld]
    · intro d _
      rw [hworld', hworld]
      exact hsame d
  · rw [hstate] at hfinal
    rw [blocksOf, hstate] at hexisting
    have hblock : BlockIs (blocksOf s.states) c ⟨true, some y⟩ t₁ := by
      refine ⟨?_, fun d _ => hsame d⟩
      rw [hsame, blocksOf, hstate]
      rfl
    obtain ⟨t₂, hbody, hworld⟩ := finalfun_reports (t := t₁) data hfinal
    have hblock₂ : BlockIs (blocksOf s.states) c ⟨true, some y⟩ t₂ := by
      constructor
      · rw [hworld]
        exact hblock.here
      · rw [hworld]
        exact hblock.elsewhere
    -- the state is destroyed whether the final function returned or threw
    obtain ⟨t₃, hdestroy, hblock₃, huser₃, htrace₃⟩ := writeState_writes laws hblock₂ none
    have hdestructor : Prog.Ends (data.destroyState c) t₂ (.ok ()) t₃ :=
      (readState_ends hblock₂ rfl).bind hdestroy
    have hcall : Reports (data.finalCall c) t o t₃ :=
      Reports.after hexisting rfl
        ((Reports.after (readState_ends hblock rfl) rfl hbody).inScope hdestructor htrace₃)
    obtain ⟨t', hends, hworld', hresults⟩ := hcall.caught
    refine ⟨t', hends, ?_, ?_, hresults⟩
    · rw [hworld', huser₃, hworld]
    · intro d hd
      rw [hworld']
      exact hblock₃.elsewhere d hd

end Callbacks

section Runs

variable [api : AggregateApi Q Ctx S] [DecidableEq Ctx]

omit [DecidableEq Ctx] in
private theorem machine_xStep {data : AggregateData S V A R U n} {order : EvalOrder n}
    {w : AggregateWorld Q U} {c : Ctx} {argv : List V} {o : Except Raised Unit}
    {t : AggregateCall Q U A R} (h : Prog.Ends (data.callStep order c argv) ⟨w, []⟩ o t) :
    data.machine order w (c, .xStep argv) = ((o, results t.trace), t.world) := by
  rw [AggregateData.machine, h.outcome, h.final]

omit [DecidableEq Ctx] in
private theorem machine_xFinal {data : AggregateData S V A R U n} {order : EvalOrder n}
    {w : AggregateWorld Q U} {c : Ctx} {o : Except Raised Unit} {t : AggregateCall Q U A R}
    (h : Prog.Ends (data.callFinal c) ⟨w, []⟩ o t) :
    data.machine order w (c, .xFinal) =
      ((o, results t.trace), { t.world with sqlite := api.release t.world.sqlite c }) := by
  rw [AggregateData.machine, h.outcome, h.final]

omit api in
theorem states_xStep {data : AggregateData S V A R U n} {order : EvalOrder n}
    {s : AggregateStates Ctx S U} {c : Ctx} {argv : List V} (hlen : argv.length = n) {x : S} {u : U}
    (henter : data.enter s c = (.ok x, u)) {o : Except Exn Unit} {x' : S} {u' : U}
    (hfold : data.foldRow order x u ⟨argv, hlen⟩ = ((o, x'), u')) :
    data.states order s (c, .xStep argv) =
      ((.ok (), AggregateData.thrownReport o), ⟨u', Function.update s.states c (some x')⟩) := by
  simp only [AggregateData.states, dif_pos hlen, henter, hfold]

omit api in
theorem states_xFinal {data : AggregateData S V A R U n} {order : EvalOrder n}
    {s : AggregateStates Ctx S U} {c : Ctx} {o : Except Exn R} {u' : U}
    (hfinal : data.finalfun ((s.states c).getD data.stateZero) s.user = (o, u')) :
    data.states order s (c, .xFinal) =
      ((.ok (), [.ofOutcome o]), ⟨u', Function.update s.states c none⟩) := by
  simp only [AggregateData.states, hfinal]

/-- One callback: it ends and reports as the states have it, and stands for the new ones. -/
theorem machine_step (laws : AggregateLaws Q Ctx S) (halloc : NoAllocFailure Q Ctx S)
    (data : AggregateData S V A R U n) (order : EvalOrder n) (w : AggregateWorld Q U)
    (s : AggregateStates Ctx S U) (e : Ctx × AggregateCallback V)
    (h : Represents w s.user s.states) (henters : data.Enters s e) :
    (data.machine order w e).1 = (data.states order s e).1 ∧
      Represents ((data.machine order).next w e) ((data.states order).next s e).user
        ((data.states order).next s e).states := by
  rw [Machine.next, Machine.next]
  obtain ⟨c, argv | _⟩ := e
  · by_cases hlen : argv.length = n
    · obtain ⟨x, u, henter⟩ := henters hlen
      rcases hfold : data.foldRow order x u ⟨argv, hlen⟩ with ⟨⟨o, x'⟩, u'⟩
      obtain ⟨t, hends, ht, hresults⟩ :=
        callStep_represents (t := ⟨w, []⟩) laws halloc data order h hlen henter hfold
      rw [machine_xStep hends, states_xStep hlen henter hfold, hresults]
      exact ⟨rfl, ht⟩
    · have hends := callStep_misuse (t := (⟨w, []⟩ : AggregateCall Q U A R)) (c := c) data order
        hlen
      have hstates : data.states order s (c, .xStep argv) =
          ((.ok (), [.errorCode SQLITE_MISUSE]), s) := by
        simp only [AggregateData.states, dif_neg hlen]
      rw [machine_xStep hends, hstates]
      exact ⟨rfl, h.user, h.block⟩
  · rcases hfinal : data.finalfun ((s.states c).getD data.stateZero) s.user with ⟨o, u'⟩
    obtain ⟨t, hends, huser, hothers, hresults⟩ :=
      callFinal_represents (t := ⟨w, []⟩) laws data h hfinal
    rw [machine_xFinal hends, states_xFinal hfinal, hresults]
    refine ⟨rfl, huser, fun d => ?_⟩
    change api.block (api.release t.world.sqlite c) d = blocksOf (Function.update s.states c none) d
    by_cases hd : d = c
    · subst hd
      rw [laws.release_self, blocksOf, Function.update_self]
      rfl
    · rw [laws.release_other _ c d hd, hothers d hd, blocksOf, blocksOf, Function.update_of_ne hd]

end Runs

/-- For every user code and every interleaving of callbacks over any contexts: as long as no copy of
the zero state throws, every callback returns, and what it reports to SQL, and the user's state, are
what a map from contexts to states makes of them. -/
theorem aggregates_follow_states [api : AggregateApi Q Ctx S] [DecidableEq Ctx]
    (laws : AggregateLaws Q Ctx S) (halloc : NoAllocFailure Q Ctx S)
    (data : AggregateData S V A R U n) (order : EvalOrder n) {q : Q}
    (hq : ∀ c : Ctx, api.block q c = none) (u : U) {es : List (Ctx × AggregateCallback V)}
    (henters : StepsMeet (data.states order).next data.Enters ⟨u, fun _ => none⟩ es) :
    (data.machine order).history ⟨q, u⟩ es =
        (data.states order).history ⟨u, fun _ => none⟩ es ∧
      (run (data.machine order).next ⟨q, u⟩ es).user =
        (run (data.states order).next ⟨u, fun _ => none⟩ es).user := by
  have hstart : Represents (⟨q, u⟩ : AggregateWorld Q U) u fun _ => none := ⟨rfl, hq⟩
  obtain ⟨hhistory, hfinal⟩ := Machine.refines_run (R := fun w s => Represents w s.user s.states)
    (fun w s e h henters => machine_step laws halloc data order w s e h henters) hstart henters
  exact ⟨hhistory, hfinal.user⟩

/-- Two groups at once; in one of them a row makes the step function throw, after it has changed the
state, and another has too many values. -/
theorem aggregates_follow_states_groups :
    let es : List (Nat × AggregateCallback Int) :=
      [(0, .xStep [5]), (1, .xStep [7]), (0, .xStep [-1]), (0, .xStep [1, 2]), (1, .xStep [1]),
        (1, .xFinal), (0, .xFinal)]
    (((throwingSum false).machine (.leftToRight 1)).history
        (⟨fun _ => none, ()⟩ : AggregateWorld (BlockTable Int) Unit) es).map (·.2.2) =
      [[], [], [.errorCode SQLITE_MISUSE], [.errorCode SQLITE_MISUSE], [], [.value 8],
        [.value 4]] := by
  intro es
  have henters : StepsMeet ((throwingSum false).states (.leftToRight 1)).next
      (throwingSum false).Enters ⟨(), fun _ => none⟩ es :=
    ⟨fun _ => ⟨_, _, rfl⟩, fun _ => ⟨_, _, rfl⟩, fun _ => ⟨_, _, rfl⟩, fun _ => ⟨_, _, rfl⟩,
      fun _ => ⟨_, _, rfl⟩, trivial, trivial, trivial⟩
  rw [(aggregates_follow_states aggregateLaws_blockTable noAllocFailure_blockTable
    (throwingSum false) (.leftToRight 1) (fun _ => rfl) () henters).1]
  rfl

end Sqxx
