import Sqxx.Framework.Interleaving
import Sqxx.Function.Callback

/-!
# Aggregate functions

The state of an aggregate lives in a block of memory that the library keeps for each context and
hands out zeroed.  The first row on a context builds the state in it, a copy of `state_zero`; the
final callback destroys the state, and the library then releases the block.
-/

namespace Sqxx
open Framework

/-- `aggregate_invocation_data` in a block: `state` is `none` where no object is built. -/
structure InvocationData (S : Type) where
  initialized : Bool
  state : Option S
  deriving DecidableEq, Repr

def InvocationData.zeroed {S : Type} : InvocationData S := ⟨false, none⟩

/-- The library's side of aggregate contexts. A block is named by its context: `block` and `store`
are reads and writes of memory, `release` what the library does after the final callback. -/
class AggregateApi (Q Ctx S : Type) where
  block : Q → Ctx → Option (InvocationData S)
  aggregateContext : Q → Ctx → Nat → Bool × Q
  store : Q → Ctx → InvocationData S → Q
  release : Q → Ctx → Q

/-- A request of positive size that succeeds returns the context's block, zeroed if it is new; one
of size 0 tells whether there is a block. Contexts have blocks of their own. -/
structure AggregateLaws (Q Ctx S : Type) [api : AggregateApi Q Ctx S] : Prop where
  create : ∀ (q : Q) (c : Ctx) bytes, 0 < bytes → (api.aggregateContext q c bytes).1 = true →
    api.block (api.aggregateContext q c bytes).2 c = some ((api.block q c).getD .zeroed)
  create_other : ∀ (q : Q) (c d : Ctx) bytes, d ≠ c →
    api.block (api.aggregateContext q c bytes).2 d = api.block q d
  existing : ∀ (q : Q) (c : Ctx), (api.aggregateContext q c 0).1 = (api.block q c).isSome
  existing_block : ∀ (q : Q) (c d : Ctx), api.block (api.aggregateContext q c 0).2 d = api.block q d
  store_self : ∀ (q : Q) (c : Ctx) b, (api.block q c).isSome →
    api.block (api.store q c b) c = some b
  store_other : ∀ (q : Q) (c d : Ctx) b, d ≠ c → api.block (api.store q c b) d = api.block q d
  release_self : ∀ (q : Q) (c : Ctx), api.block (api.release q c) c = none
  release_other : ∀ (q : Q) (c d : Ctx), d ≠ c → api.block (api.release q c) d = api.block q d

def NoAllocFailure (Q Ctx S : Type) [api : AggregateApi Q Ctx S] : Prop :=
  ∀ (q : Q) (c : Ctx) bytes, 0 < bytes → (api.aggregateContext q c bytes).1 = true

/-- `aggregate_data`, with what the user's code does. `U` is whatever state that code has besides
the aggregate's; a throwing step function leaves some state behind. -/
structure AggregateData (S V A R U : Type) (n : Nat) where
  sizeofInvocationData : { bytes : Nat // 0 < bytes }
  stateZero : S
  copyState : S → U → Except Exn S × U
  convert : Fin n → V → Except Exn A
  stepfun : S → List.Vector A n → U → (Except Exn Unit × S) × U
  finalfun : S → U → Except Exn R × U

structure AggregateWorld (Q U : Type) where
  sqlite : Q
  user : U

abbrev AggregateCall (Q U A R : Type) := Invocation (AggregateWorld Q U) A R

variable {Q Ctx S V A R U B : Type} {n : Nat}

def inSqlite (f : Q → B × Q) : Cxx (AggregateCall Q U A R) B :=
  Prog.effect fun s =>
    let (b, sqlite) := f s.world.sqlite
    (b, { s with world := { s.world with sqlite := sqlite } })

def inUser (f : U → B × U) : Cxx (AggregateCall Q U A R) B :=
  Prog.effect fun s =>
    let (b, user) := f s.world.user
    (b, { s with world := { s.world with user := user } })

def rethrow (o : Except Exn B) : Cxx (AggregateCall Q U A R) B :=
  match o with
  | .ok b => pure b
  | .error e => Cxx.throw e

section Memory

variable [api : AggregateApi Q Ctx S]

def readBlock (ctx : Ctx) : Cxx (AggregateCall Q U A R) (InvocationData S) := do
  match ← Prog.reading fun s => api.block s.world.sqlite ctx with
  | some b => pure b
  | none => Cxx.undefined

def writeBlock (ctx : Ctx) (b : InvocationData S) : Cxx (AggregateCall Q U A R) Unit :=
  inSqlite fun q => ((), api.store q ctx b)

def readState (ctx : Ctx) : Cxx (AggregateCall Q U A R) S := do
  let as ← readBlock (S := S) ctx
  match as.state with
  | some s => pure s
  | none => Cxx.undefined

def writeState (ctx : Ctx) (state : Option S) : Cxx (AggregateCall Q U A R) Unit := do
  let as ← readBlock (S := S) ctx
  writeBlock ctx { as with state := state }

end Memory

namespace AggregateData

variable [api : AggregateApi Q Ctx S]

/-- The placement `new`, with the member initializers in order: the flag is set before the state
is copied. -/
def constructState (data : AggregateData S V A R U n) (ctx : Ctx) :
    Cxx (AggregateCall Q U A R) Unit := do
  let as ← readBlock (S := S) ctx
  writeBlock ctx { as with initialized := true }
  let copied ← inUser (data.copyState data.stateZero)
  let state ← rethrow copied
  writeState ctx (some state)

def getStateCreate (data : AggregateData S V A R U n) (ctx : Ctx) :
    Cxx (AggregateCall Q U A R) Unit := do
  let allocated ← inSqlite fun q => api.aggregateContext q ctx data.sizeofInvocationData
  if allocated then
    let as ← readBlock (S := S) ctx
    if as.initialized then pure () else data.constructState ctx
  else
    Cxx.throw .badAlloc

def getStateExisting (_data : AggregateData S V A R U n) (ctx : Ctx) :
    Cxx (AggregateCall Q U A R) Bool :=
  inSqlite fun q => api.aggregateContext q ctx 0

/-- The call of the step function, with a reference to the state as first argument. -/
def applyStep (data : AggregateData S V A R U n) (ctx : Ctx) (args : List.Vector A n) :
    Cxx (AggregateCall Q U A R) Unit := do
  let state ← readState (S := S) ctx
  let (outcome, state) ← inUser (data.stepfun state args)
  writeState ctx (some state)
  rethrow outcome

def stepCall (data : AggregateData S V A R U n) (order : EvalOrder n) (ctx : Ctx)
    (values : List V) : Cxx (AggregateCall Q U A R) Unit := do
  if values.length ≠ n then
    Context.resultErrorMisuse
  else
    data.getStateCreate ctx
    applyValueArray n (invoke order data.convert (data.applyStep ctx)) values

def destroyState (_data : AggregateData S V A R U n) (ctx : Ctx) :
    Cxx (AggregateCall Q U A R) Unit := do
  let _state ← readState (S := S) ctx
  writeState (S := S) ctx none

def finalCall (data : AggregateData S V A R U n) (ctx : Ctx) :
    Cxx (AggregateCall Q U A R) Unit := do
  if ← data.getStateExisting ctx then
    Cxx.inScope (do
      let state ← readState (S := S) ctx
      let outcome ← inUser (data.finalfun state)
      let r ← rethrow outcome
      Context.result r) (data.destroyState ctx)
  else
    let outcome ← inUser (data.finalfun data.stateZero)
    let r ← rethrow outcome
    Context.result r

def callStep (data : AggregateData S V A R U n) (order : EvalOrder n) (ctx : Ctx)
    (argv : List V) : Cxx (AggregateCall Q U A R) Unit :=
  catchToResult (data.stepCall order ctx argv)

def callFinal (data : AggregateData S V A R U n) (ctx : Ctx) :
    Cxx (AggregateCall Q U A R) Unit :=
  catchToResult (data.finalCall ctx)

end AggregateData

/-- The data of the two-argument `create_aggregate`: the final function returns a copy of the
state. -/
def AggregateData.withoutFinal (data : AggregateData S V A R U n) : AggregateData S V A S U n :=
  { data with finalfun := data.copyState }

/-- The data made from functions that return: the state is copied as it is, a row is converted and
folded in, the result is computed. -/
def AggregateData.ofFunctions (size : { bytes : Nat // 0 < bytes }) (zero : S)
    (step : S → List.Vector A n → S) (final : S → R) (convert : Fin n → V → A) :
    AggregateData S V A R U n where
  sizeofInvocationData := size
  stateZero := zero
  copyState s u := (.ok s, u)
  convert i v := .ok (convert i v)
  stepfun s args u := ((.ok (), step s args), u)
  finalfun s u := (.ok (final s), u)

inductive AggregateEvent (V : Type) (n : Nat)
  | xStep (argv : List.Vector V n)
  | xFinal

namespace AggregateData

/-- A callback of the library on a context; after the final one it releases the block. -/
def exec [api : AggregateApi Q Ctx S] (data : AggregateData S V A R U n) (order : EvalOrder n)
    (w : AggregateWorld Q U) : Ctx × AggregateEvent V n → AggregateWorld Q U
  | (ctx, .xStep argv) => (data.callStep order ctx argv.toList ⟨w, []⟩).final.world
  | (ctx, .xFinal) =>
    let w := (data.callFinal ctx ⟨w, []⟩).final.world
    { w with sqlite := api.release w.sqlite ctx }

end AggregateData

def collectRow (rows : List (List.Vector V n)) : AggregateEvent V n → List (List.Vector V n)
  | .xStep argv => rows ++ [argv]
  | .xFinal => []

def pendingRows (es : List (AggregateEvent V n)) : List (List.Vector V n) := run collectRow [] es

def convertRow (convert : Fin n → V → A) (argv : List.Vector V n) : List.Vector A n :=
  List.Vector.ofFn fun i => convert i (argv.get i)

/-- The state a block stands for: the zero state where there is none yet. -/
def stateOf (zero : S) (b : Option (InvocationData S)) : S := (b.bind (·.state)).getD zero

/-- Between callbacks a context has no block or one with a state in it. -/
def Settled (Ctx S : Type) [api : AggregateApi Q Ctx S] (w : AggregateWorld Q U) : Prop :=
  ∀ (c : Ctx) b, api.block w.sqlite c = some b → ∃ s, b = ⟨true, some s⟩

/-- The block of `c` is `b`, those of the other contexts are as `before` has them. -/
structure BlockIs [api : AggregateApi Q Ctx S] (before : Ctx → Option (InvocationData S)) (c : Ctx)
    (b : InvocationData S) (t : AggregateCall Q U A R) : Prop where
  here : api.block t.world.sqlite c = some b
  elsewhere : ∀ d, d ≠ c → api.block t.world.sqlite d = before d

section Memory

variable [api : AggregateApi Q Ctx S] {before : Ctx → Option (InvocationData S)} {c : Ctx}
  {b : InvocationData S} {t : AggregateCall Q U A R}

theorem readBlock_ends (h : BlockIs before c b t) : Prog.Ends (readBlock c) t (.ok b) t := by
  apply (Prog.Ends.reading _ t).bind
  rw [h.here]
  exact Prog.Ends.pure b t

theorem readState_ends {s : S} (h : BlockIs before c b t) (hs : b.state = some s) :
    Prog.Ends (readState c) t (.ok s) t := by
  apply (readBlock_ends h).bind
  rw [hs]
  exact Prog.Ends.pure s t

theorem BlockIs.stored (laws : AggregateLaws Q Ctx S) (h : BlockIs before c b t)
    (b' : InvocationData S) :
    BlockIs before c b'
      { t with world := { t.world with sqlite := api.store t.world.sqlite c b' } } := by
  constructor
  · exact laws.store_self _ c b' (by rw [h.here, Option.isSome_some])
  · intro d hd
    rw [← h.elsewhere d hd]
    exact laws.store_other _ c d b' hd

theorem writeBlock_ends (laws : AggregateLaws Q Ctx S) (h : BlockIs before c b t)
    (b' : InvocationData S) :
    ∃ t', Prog.Ends (writeBlock c b') t (.ok ()) t' ∧ BlockIs before c b' t' ∧
      t'.trace = t.trace :=
  ⟨_, Prog.Ends.effect _ t, h.stored laws b', rfl⟩

private theorem writeState_ends (laws : AggregateLaws Q Ctx S) (h : BlockIs before c b t)
    (state : Option S) :
    ∃ t', Prog.Ends (writeState c state) t (.ok ()) t' ∧
      BlockIs before c { b with state := state } t' ∧ t'.trace = t.trace := by
  obtain ⟨t', hwrite, hblock, htrace⟩ := writeBlock_ends laws h { b with state := state }
  exact ⟨t', (readBlock_ends h).bind hwrite, hblock, htrace⟩

omit api in
theorem inUser_ends {B : Type} {f : U → B × U} {a : B} {u : U} (hf : f t.world.user = (a, u)) :
    Prog.Ends (inUser f) t (.ok a) { t with world := { t.world with user := u } } := by
  constructor
  · exact congrArg (fun r => Except.ok r.1) hf
  · exact congrArg (fun r => { t with world := { t.world with user := r.2 } }) hf

theorem BlockIs.inUser (h : BlockIs before c b t) (u : U) :
    BlockIs before c b { t with world := { t.world with user := u } } :=
  ⟨h.here, h.elsewhere⟩

theorem BlockIs.noting (h : BlockIs before c b t) (es : List (Effect A R)) :
    BlockIs before c b (t.noting es) :=
  ⟨h.here, h.elsewhere⟩

end Memory

section Folding

variable [api : AggregateApi Q Ctx S] (size : { bytes : Nat // 0 < bytes }) (zero : S)
  (step : S → List.Vector A n → S) (final : S → R) (convert : Fin n → V → A)

private theorem getStateCreate_ends (laws : AggregateLaws Q Ctx S) (halloc : NoAllocFailure Q Ctx S)
    (c : Ctx) {t : AggregateCall Q U A R} (ht : Settled Ctx S t.world) :
    let data : AggregateData S V A R U n := .ofFunctions size zero step final convert
    ∃ t', Prog.Ends (data.getStateCreate c) t (.ok ()) t' ∧
      BlockIs (api.block t.world.sqlite) c
        ⟨true, some (stateOf zero (api.block t.world.sqlite c))⟩ t' ∧
      t'.trace = t.trace := by
  intro data
  let bytes := data.sizeofInvocationData
  let t₁ : AggregateCall Q U A R :=
    ⟨⟨(api.aggregateContext t.world.sqlite c bytes).2, t.world.user⟩, t.trace⟩
  have htrue := halloc t.world.sqlite c bytes bytes.2
  have hcreate : Prog.Ends (inSqlite fun q => api.aggregateContext q c bytes) t (.ok true) t₁ := by
    rw [← htrue]
    exact Prog.Ends.effect _ t
  have hblock : BlockIs (api.block t.world.sqlite) c
      ((api.block t.world.sqlite c).getD .zeroed) t₁ :=
    ⟨laws.create _ c bytes bytes.2 htrue, fun d hd => laws.create_other _ c d bytes hd⟩
  rcases hb : api.block t.world.sqlite c with _ | b
  · -- the first row on this context: the block is raw and zeroed
    rw [hb] at hblock
    obtain ⟨t₂, hflag, hblock₂, htrace₂⟩ := writeBlock_ends laws hblock ⟨true, none⟩
    have hblock₃ := hblock₂.inUser t₂.world.user
    obtain ⟨t', hwrite, hblock', htrace'⟩ := writeState_ends laws hblock₃ (some zero)
    refine ⟨t', ?_, hblock', htrace'.trans htrace₂⟩
    apply hcreate.bind
    apply (readBlock_ends hblock).bind
    apply (readBlock_ends hblock).bind
    apply hflag.bind
    apply (Prog.Ends.effect _ t₂).bind
    apply (Prog.Ends.pure zero _).bind
    exact hwrite
  · obtain ⟨s, rfl⟩ := ht c b hb
    rw [hb] at hblock
    refine ⟨t₁, ?_, hblock, rfl⟩
    apply hcreate.bind
    apply (readBlock_ends hblock).bind
    exact Prog.Ends.pure () t₁

private theorem applyStep_ends (laws : AggregateLaws Q Ctx S)
    {before : Ctx → Option (InvocationData S)}
    {c : Ctx} {s : S} {t : AggregateCall Q U A R} (ht : BlockIs before c ⟨true, some s⟩ t)
    (args : List.Vector A n) :
    let data : AggregateData S V A R U n := .ofFunctions size zero step final convert
    ∃ t', Prog.Ends (data.applyStep c args) t (.ok ()) t' ∧
      BlockIs before c ⟨true, some (step s args)⟩ t' ∧ t'.trace = t.trace := by
  intro data
  have hblock := ht.inUser t.world.user
  obtain ⟨t', hwrite, hblock', htrace⟩ := writeState_ends laws hblock (some (step s args))
  refine ⟨t', ?_, hblock', htrace⟩
  apply (readState_ends ht rfl).bind
  apply (Prog.Ends.effect _ t).bind
  apply hwrite.bind
  exact Prog.Ends.pure () t'

private theorem callStep_ends (laws : AggregateLaws Q Ctx S) (halloc : NoAllocFailure Q Ctx S)
    (order : EvalOrder n) (c : Ctx) {t : AggregateCall Q U A R}
    (ht : Settled Ctx S t.world) (row : List.Vector V n) :
    let data : AggregateData S V A R U n := .ofFunctions size zero step final convert
    let s := stateOf zero (api.block t.world.sqlite c)
    ∃ t', Prog.Ends (data.callStep order c row.toList) t (.ok ()) t' ∧
      BlockIs (api.block t.world.sqlite) c ⟨true, some (step s (convertRow convert row))⟩ t' ∧
      t'.trace = t.trace ++ ((List.range n).map .read ++ conversions order.order ++
        [.call (convertRow convert row).toList]) := by
  intro data s
  obtain ⟨t₁, hcreate, hblock₁, htrace₁⟩ :=
    getStateCreate_ends size zero step final convert laws halloc c ht
  have hblock₂ := (hblock₁.noting ((List.range n).map .read)).noting
    (conversions order.order ++ [.call (convertRow convert row).toList])
  obtain ⟨t', happly, hblock', htrace'⟩ :=
    applyStep_ends size zero step final convert laws hblock₂ (convertRow convert row)
  have hargs : ∀ i, data.convert i (row.get i) = .ok ((convertRow convert row).get i) := by
    intro i
    rw [convertRow, List.Vector.get_ofFn]
    rfl
  refine ⟨t', ?_, hblock', ?_⟩
  · apply catchToResult_ends_ok
    rw [AggregateData.stepCall, if_neg (not_not.mpr row.toList_length)]
    apply hcreate.bind
    apply applyValueArray_ends row.toList_length
    exact invoke_ends_ok order hargs happly
  · rw [htrace', ← htrace₁]
    simp [Invocation.noting]

omit api in
private theorem finalfun_ends (s : S) (t : AggregateCall Q U A R) :
    let data : AggregateData S V A R U n := .ofFunctions size zero step final convert
    Prog.Ends (do
        let outcome ← inUser (data.finalfun s)
        let r ← rethrow outcome
        Context.result r : Cxx (AggregateCall Q U A R) Unit) t (.ok ())
      (t.noting [.result (.value (final s))]) := by
  intro data
  apply (Prog.Ends.effect _ t).bind
  apply (Prog.Ends.pure (final s) _).bind
  exact note_ends _ t

private theorem callFinal_ends (laws : AggregateLaws Q Ctx S) (c : Ctx) {t : AggregateCall Q U A R}
    (ht : Settled Ctx S t.world) :
    let data : AggregateData S V A R U n := .ofFunctions size zero step final convert
    let s := stateOf zero (api.block t.world.sqlite c)
    ∃ t', Prog.Ends (data.callFinal c) t (.ok ()) t' ∧
      (∀ d, d ≠ c → api.block t'.world.sqlite d = api.block t.world.sqlite d) ∧
      t'.trace = t.trace ++ [.result (.value (final s))] := by
  intro data s
  let t₁ : AggregateCall Q U A R :=
    ⟨⟨(api.aggregateContext t.world.sqlite c 0).2, t.world.user⟩, t.trace⟩
  have hexisting : Prog.Ends (data.getStateExisting c) t
      (.ok (api.block t.world.sqlite c).isSome) t₁ := by
    rw [← laws.existing]
    exact Prog.Ends.effect _ t
  have hsame : ∀ d, api.block t₁.world.sqlite d = api.block t.world.sqlite d :=
    laws.existing_block _ c
  let t₂ : AggregateCall Q U A R := t₁.noting [.result (.value (final s))]
  rcases hb : api.block t.world.sqlite c with _ | b
  · have hs : s = zero := by
      simp [s, hb, stateOf]
    refine ⟨t₂, ?_, fun d _ => hsame d, rfl⟩
    apply catchToResult_ends_ok
    rw [hb] at hexisting
    apply hexisting.bind
    have ht₂ : t₂ = t₁.noting [.result (.value (final zero))] := by
      rw [← hs]
    rw [ht₂]
    exact finalfun_ends size zero step final convert zero t₁
  · obtain ⟨s', rfl⟩ := ht c b hb
    have hs : s = s' := by
      simp [s, hb, stateOf]
    have hblock : BlockIs (api.block t.world.sqlite) c ⟨true, some s'⟩ t₁ :=
      ⟨(hsame c).trans hb, fun d _ => hsame d⟩
    have hblock₂ : BlockIs (api.block t.world.sqlite) c ⟨true, some s'⟩ t₂ := hblock.noting _
    obtain ⟨t', hdestroy, hblock', htrace⟩ := writeState_ends laws hblock₂ none
    refine ⟨t', ?_, hblock'.elsewhere, htrace⟩
    apply catchToResult_ends_ok
    rw [hb] at hexisting
    apply hexisting.bind
    -- the body of the scope returns, so the destructor runs once, after the result is set
    have hbody : Prog.Ends (do
        let state ← readState (S := S) c
        let outcome ← inUser (data.finalfun state)
        let r ← rethrow outcome
        Context.result r : Cxx (AggregateCall Q U A R) Unit) t₁ (.ok ()) t₂ := by
      have ht₂ : t₂ = t₁.noting [.result (.value (final s'))] := by
        rw [← hs]
      rw [ht₂]
      exact (readState_ends hblock rfl).bind (finalfun_ends size zero step final convert s' t₁)
    apply (Prog.Ends.catching_ok hbody).bind
    have hdestructor : Prog.Ends (data.destroyState c) t₂ (.ok ()) t' :=
      (readState_ends hblock₂ rfl).bind hdestroy
    apply hdestructor.bind
    exact Prog.Ends.pure () t'

def blockStep (b : Option (InvocationData S)) : AggregateEvent V n → Option (InvocationData S)
  | .xStep row => some ⟨true, some (step (stateOf zero b) (convertRow convert row))⟩
  | .xFinal => none

def foldRows (rows : List (List.Vector V n)) : S :=
  rows.foldl (fun s row => step s (convertRow convert row)) zero

private theorem stateOf_run_blockStep (es : List (AggregateEvent V n))
    (b : Option (InvocationData S))
    (rows : List (List.Vector V n)) (h : stateOf zero b = foldRows zero step convert rows) :
    stateOf zero (run (blockStep zero step convert) b es) =
      foldRows zero step convert (run collectRow rows es) := by
  induction es generalizing b rows with
  | nil => exact h
  | cons e es ih =>
    rw [run_cons, run_cons]
    apply ih
    cases e with
    | xStep row =>
      have hstep : foldRows zero step convert (rows ++ [row]) =
          step (foldRows zero step convert rows) (convertRow convert row) := by
        simp [foldRows]
      rw [collectRow, hstep, ← h]
      rfl
    | xFinal => rfl

private theorem settled_of_blocks [DecidableEq Ctx] {w : AggregateWorld Q U}
    {before : Ctx → Option (InvocationData S)} {c : Ctx}
    (hbefore : ∀ d b, before d = some b → ∃ s, b = ⟨true, some s⟩)
    (hhere : ∀ b, api.block w.sqlite c = some b → ∃ s, b = ⟨true, some s⟩)
    (helse : ∀ d, d ≠ c → api.block w.sqlite d = before d) : Settled Ctx S w := by
  intro d b hb
  by_cases hd : d = c
  · subst hd
    exact hhere b hb
  · rw [helse d hd] at hb
    exact hbefore d b hb

private theorem exec_interleaves [DecidableEq Ctx] (laws : AggregateLaws Q Ctx S)
    (halloc : NoAllocFailure Q Ctx S) (order : EvalOrder n) :
    let data : AggregateData S V A R U n := .ofFunctions size zero step final convert
    Interleaves (fun (w : AggregateWorld Q U) (e : Ctx × _) => data.exec order w e)
      (Settled Ctx S)
      (fun w c => api.block w.sqlite c) (blockStep zero step convert) := by
  intro data
  have hown : ∀ (w : AggregateWorld Q U) (c : Ctx) e, Settled Ctx S w →
      api.block (data.exec order w (c, e)).sqlite c =
        blockStep zero step convert (api.block w.sqlite c) e := by
    intro w c e hw
    cases e with
    | xStep row =>
      obtain ⟨t, hends, hblock, -⟩ := callStep_ends size zero step final convert laws halloc order
        c (t := ⟨w, []⟩) hw row
      rw [AggregateData.exec, hends.final]
      exact hblock.here
    | xFinal => exact laws.release_self _ c
  have hother : ∀ (w : AggregateWorld Q U) (c : Ctx) e d, Settled Ctx S w →
      d ≠ c → api.block (data.exec order w (c, e)).sqlite d = api.block w.sqlite d := by
    intro w c e d hw hd
    cases e with
    | xStep row =>
      obtain ⟨t, hends, hblock, -⟩ := callStep_ends size zero step final convert laws halloc order
        c (t := ⟨w, []⟩) hw row
      rw [AggregateData.exec, hends.final]
      exact hblock.elsewhere d hd
    | xFinal =>
      obtain ⟨t, hends, helse, -⟩ := callFinal_ends size zero step final convert laws
        c (t := ⟨w, []⟩) hw
      rw [AggregateData.exec, hends.final]
      exact (laws.release_other _ c d hd).trans (helse d hd)
  refine ⟨?_, hown, hother⟩
  rintro w ⟨c, e⟩ hw
  refine settled_of_blocks (c := c) hw ?_ fun d hd => hother w c e d hw hd
  intro b hb
  rw [hown w c e hw] at hb
  cases e with
  | xStep row => exact ⟨_, (Option.some.inj hb).symm⟩
  | xFinal => cases hb

end Folding

/-- After any interleaving of callbacks over any contexts, the final callback on a context reports
the final function of the fold over that context's rows, the two-argument form the fold itself;
and a row is one call of the step function on its values, with no result. -/
theorem aggregate_folds [api : AggregateApi Q Ctx S] [DecidableEq Ctx]
    (laws : AggregateLaws Q Ctx S) (halloc : NoAllocFailure Q Ctx S)
    (size : { bytes : Nat // 0 < bytes }) (zero : S) (step : S → List.Vector A n → S)
    (final : S → R) (convert : Fin n → V → A) (order : EvalOrder n) {w : AggregateWorld Q U}
    (hw : ∀ c : Ctx, api.block w.sqlite c = none) (es : List (Ctx × AggregateEvent V n)) (c : Ctx)
    (row : List.Vector V n) :
    let data : AggregateData S V A R U n := .ofFunctions size zero step final convert
    let folded := foldRows zero step convert (pendingRows (eventsOf c es))
    let xFinal := data.callFinal c ⟨run (data.exec order) w es, []⟩
    let xFinal₂ := data.withoutFinal.callFinal c ⟨run (data.withoutFinal.exec order) w es, []⟩
    let xStep := data.callStep order c row.toList ⟨run (data.exec order) w es, []⟩
    (xFinal.outcome = .ok () ∧ xFinal.final.trace = [.result (.value (final folded))]) ∧
      (xFinal₂.outcome = .ok () ∧ xFinal₂.final.trace = [.result (.value folded)]) ∧
      xStep.outcome = .ok () ∧ calls xStep.final.trace = [(convertRow convert row).toList] ∧
        results xStep.final.trace = [] := by
  have hsettled : Settled Ctx S w := by
    intro c b hb
    cases (hw c).symm.trans hb
  have hfinal : ∀ {R' : Type} (final' : S → R'),
      let data : AggregateData S V A R' U n := .ofFunctions size zero step final' convert
      let ended := data.callFinal c ⟨run (data.exec order) w es, []⟩
      ended.outcome = .ok () ∧ ended.final.trace =
        [.result (.value (final' (foldRows zero step convert (pendingRows (eventsOf c es)))))] := by
    intro R' final' data ended
    have hinter := exec_interleaves size zero step final' convert laws halloc order (U := U)
    have hreach := hinter.inv_run hsettled es
    have hview := hinter.view_run hsettled es c
    obtain ⟨t, hends, -, htrace⟩ := callFinal_ends size zero step final' convert laws c
      (t := ⟨run (data.exec order) w es, []⟩) hreach
    have hstate : stateOf zero (api.block (run (data.exec order) w es).sqlite c) =
        foldRows zero step convert (pendingRows (eventsOf c es)) := by
      rw [hview, hw c]
      exact stateOf_run_blockStep zero step convert _ none [] rfl
    refine ⟨hends.outcome, ?_⟩
    rw [hends.final, htrace, hstate]
    rfl
  intro data folded xFinal xFinal₂ xStep
  refine ⟨hfinal final, hfinal id, ?_⟩
  have hinter := exec_interleaves size zero step final convert laws halloc order (U := U)
  obtain ⟨t, hends, -, htrace⟩ := callStep_ends size zero step final convert laws halloc order c
    (t := ⟨run (data.exec order) w es, []⟩) (hinter.inv_run hsettled es) row
  refine ⟨hends.outcome, ?_, ?_⟩
  · rw [hends.final, htrace, List.nil_append, calls_append, calls_append, calls_map_read,
      calls_conversions]
    rfl
  · rw [hends.final, htrace, List.nil_append, results_append, results_append, results_map_read,
      results_conversions]
    rfl

/-- Blocks of memory in a table, of which there is always enough. -/
abbrev BlockTable (S : Type) := Nat → Option (InvocationData S)

instance {S : Type} : AggregateApi (BlockTable S) Nat S where
  block q c := q c
  aggregateContext q c bytes :=
    if bytes = 0 then ((q c).isSome, q)
    else (true, Function.update q c (some ((q c).getD .zeroed)))
  store q c b := Function.update q c (some b)
  release q c := Function.update q c none

theorem aggregateLaws_blockTable {S : Type} : AggregateLaws (BlockTable S) Nat S where
  create q c bytes hpos _ := by
    simp [AggregateApi.block, AggregateApi.aggregateContext, Nat.ne_of_gt hpos]
  create_other q c d bytes hd := by
    by_cases hzero : bytes = 0
    · simp [AggregateApi.block, AggregateApi.aggregateContext, hzero]
    · simp [AggregateApi.block, AggregateApi.aggregateContext, hzero, hd]
  existing q c := rfl
  existing_block q c d := rfl
  store_self q c b _ := Function.update_self c (some b) q
  store_other q c d b hd := Function.update_of_ne hd (some b) q
  release_self q c := Function.update_self c none q
  release_other q c d hd := Function.update_of_ne hd none q

theorem noAllocFailure_blockTable {S : Type} : NoAllocFailure (BlockTable S) Nat S := by
  intro q c bytes hpos
  simp [AggregateApi.aggregateContext, Nat.ne_of_gt hpos]

/-- Two groups at once: the sum from 10 of the rows 11 and 22 of one of them, squared. -/
theorem aggregate_folds_groups :
    let data : AggregateData Int Int Int Int Unit 1 :=
      .ofFunctions ⟨8, by decide⟩ 10 (fun s args => s + args.head) (fun s => s * s) fun _ v => v
    let es : List (Nat × AggregateEvent Int 1) :=
      [(0, .xStep ⟨[11], rfl⟩), (1, .xStep ⟨[5], rfl⟩), (0, .xStep ⟨[22], rfl⟩)]
    let start : AggregateWorld (BlockTable Int) Unit := ⟨fun _ => none, ()⟩
    (data.callFinal 0 ⟨run (data.exec (.leftToRight 1)) start es, []⟩).final.trace =
      [.result (.value ((10 + 11 + 22) * (10 + 11 + 22)))] :=
  (aggregate_folds aggregateLaws_blockTable noAllocFailure_blockTable _ _ _ _ _ _
    (fun _ => rfl) _ 0 ⟨[1], rfl⟩).1.2

end Sqxx
