import Sqxx.Framework.Ownership
import Sqxx.Function.Aggregate

/-!
# The lifetime of aggregate states

Everything the user supplies may throw here, and the library may be out of memory.  State objects
get an identity, the number of the completed construction that made them, and a ledger keeps account
of which of them were built and destroyed.
-/

namespace Sqxx
open Framework

/-- The block of a context stays as it is when the library is out of memory. -/
structure AllocationLaws (Q Ctx S : Type) [api : AggregateApi Q Ctx S] : Prop
    extends AggregateLaws Q Ctx S where
  failed : ∀ (q : Q) (c : Ctx) bytes, (api.aggregateContext q c bytes).1 = false →
    api.block (api.aggregateContext q c bytes).2 c = api.block q c

structure StateObject (S : Type) where
  id : Nat
  value : S
  deriving DecidableEq, Repr

/-- The user's side, with the number of states built so far. -/
structure CountedUser (U : Type) where
  user : U
  made : Nat

/-- The library's side, with the ledger of the state objects in its blocks. -/
structure Watched (Q : Type) where
  sqlite : Q
  ledger : Heap Unit

variable {Q Ctx S V A R U : Type} {n : Nat}

/-- The same user code on objects with an identity: a copy is a new object, a step leaves the object
the one it is. The zero state itself is never in a block. -/
def AggregateData.tracked (data : AggregateData S V A R U n) :
    AggregateData (StateObject S) V A R (CountedUser U) n where
  sizeofInvocationData := data.sizeofInvocationData
  stateZero := ⟨0, data.stateZero⟩
  copyState o u :=
    match data.copyState o.value u.user with
    | (.ok s, user) => (.ok ⟨u.made, s⟩, ⟨user, u.made + 1⟩)
    | (.error e, user) => (.error e, ⟨user, u.made⟩)
  convert := data.convert
  stepfun o args u :=
    let ((outcome, s), user) := data.stepfun o.value args u.user
    ((outcome, ⟨o.id, s⟩), ⟨user, u.made⟩)
  finalfun o u :=
    let (outcome, user) := data.finalfun o.value u.user
    (outcome, ⟨user, u.made⟩)

def heldId (b : Option (InvocationData (StateObject S))) : Option Nat :=
  (b.bind (·.state)).map (·.id)

/-- A block that comes to hold another object has had it built there, one that comes to hold none
has had its object destroyed. An object built over another does not destroy that one. -/
def bookStore (before after : Option Nat) (ledger : Heap Unit) : Heap Unit :=
  if after = before then ledger
  else match after with
    | some _ => ledger.alloc ()
    | none => ledger.freeAll before.toList

instance [api : AggregateApi Q Ctx (StateObject S)] :
    AggregateApi (Watched Q) Ctx (StateObject S) where
  block q c := api.block q.sqlite c
  aggregateContext q c bytes :=
    let (allocated, sqlite) := api.aggregateContext q.sqlite c bytes
    (allocated, { q with sqlite := sqlite })
  store q c b :=
    ⟨api.store q.sqlite c b, bookStore (heldId (api.block q.sqlite c)) (heldId (some b)) q.ledger⟩
  release q c := { q with sqlite := api.release q.sqlite c }

/-- The object in the block of each context. -/
def heldIds (Ctx S : Type) [api : AggregateApi Q Ctx (StateObject S)] (q : Watched Q) (c : Ctx) :
    Option Nat :=
  heldId (api.block q.sqlite c)

theorem allocationLaws_watched [api : AggregateApi Q Ctx (StateObject S)]
    (laws : AllocationLaws Q Ctx (StateObject S)) :
    AllocationLaws (Watched Q) Ctx (StateObject S) where
  create q c bytes := laws.create q.sqlite c bytes
  create_other q c d bytes := laws.create_other q.sqlite c d bytes
  existing q c := laws.existing q.sqlite c
  existing_block q c d := laws.existing_block q.sqlite c d
  store_self q c b := laws.store_self q.sqlite c b
  store_other q c d b := laws.store_other q.sqlite c d b
  release_self q c := laws.release_self q.sqlite c
  release_other q c d := laws.release_other q.sqlite c d
  failed q c bytes := laws.failed q.sqlite c bytes

abbrev TrackedWorld (Q U : Type) := AggregateWorld (Watched Q) (CountedUser U)

/-- The world, and whether a callback has had undefined behaviour in it. -/
structure AggregateSession (Q U : Type) where
  world : TrackedWorld Q U
  undefined : Bool

inductive AggregateCallback (V : Type)
  | xStep (argv : List V)
  | xFinal

namespace AggregateSession

variable [api : AggregateApi Q Ctx (StateObject S)]

def start (sqlite : Q) (user : U) : AggregateSession Q U :=
  ⟨⟨⟨sqlite, Heap.empty⟩, ⟨user, 0⟩⟩, false⟩

def callback (data : AggregateData S V A R U n) (order : EvalOrder n) (ctx : Ctx) :
    AggregateCallback V → Cxx (AggregateCall (Watched Q) (CountedUser U) A R) Unit
  | .xStep argv => data.tracked.callStep order ctx argv
  | .xFinal => data.tracked.callFinal ctx

/-- After the final callback the library releases the block. -/
def released (ctx : Ctx) (w : TrackedWorld Q U) : AggregateCallback V → TrackedWorld Q U
  | .xStep _ => w
  | .xFinal => { w with sqlite := AggregateApi.release (S := StateObject S) w.sqlite ctx }

def exec (data : AggregateData S V A R U n) (order : EvalOrder n) (s : AggregateSession Q U)
    (e : Ctx × AggregateCallback V) : AggregateSession Q U :=
  let r := callback data order e.1 e.2 ⟨s.world, []⟩
  ⟨released (S := S) e.1 r.final.world e.2, s.undefined || r.outcome = .error .undefined⟩

/-- No callback has used a state that was not built, and every state that was built is in the block
of one context still or was destroyed exactly once. -/
structure StatesIntact (Ctx S : Type) [api : AggregateApi Q Ctx (StateObject S)]
    (s : AggregateSession Q U) : Prop where
  defined : s.undefined = false
  owned : s.world.sqlite.ledger.Owned (heldIds Ctx S s.world.sqlite)

end AggregateSession

section Books

variable [api : AggregateApi Q Ctx (StateObject S)]

/-- Between callbacks: the books are in order, the next copy gets the number that follows, and in
every block a construction was begun. -/
structure Booked (Ctx S : Type) [api : AggregateApi Q Ctx (StateObject S)] (w : TrackedWorld Q U) :
    Prop where
  owned : w.sqlite.ledger.Owned (heldIds Ctx S w.sqlite)
  fresh : w.user.made = w.sqlite.ledger.next
  begun : ∀ (c : Ctx) b, api.block w.sqlite.sqlite c = some b → b.initialized = true

private theorem owned_bookStore {κ : Type} [DecidableEq κ] {ledger : Heap Unit}
    {own : κ → Option Nat} (ho : ledger.Owned own) {c : κ} {after : Option Nat}
    (hafter : after = own c ∨ after = none ∨ own c = none ∧ after = some ledger.next) :
    (bookStore (own c) after ledger).Owned (Function.update own c after) := by
  unfold bookStore
  by_cases hsame : after = own c
  · rw [if_pos hsame, hsame, Function.update_eq_self]
    exact ho
  · rw [if_neg hsame]
    rcases hafter.resolve_left hsame with rfl | ⟨hnone, rfl⟩
    · exact ho.release c
    · exact ho.take hnone ()

private theorem owned_store [DecidableEq Ctx] (laws : AllocationLaws Q Ctx (StateObject S))
    {q : Watched Q}
    (howned : q.ledger.Owned (heldIds Ctx S q)) {c : Ctx} {b b' : InvocationData (StateObject S)}
    (hblock : api.block q.sqlite c = some b)
    (hafter : heldId (some b') = heldId (some b) ∨ heldId (some b') = none ∨
      heldId (some b) = none ∧ heldId (some b') = some q.ledger.next) :
    (AggregateApi.store q c b').ledger.Owned (heldIds Ctx S (AggregateApi.store q c b')) := by
  have hsome : (api.block q.sqlite c).isSome := by
    rw [hblock, Option.isSome_some]
  have hbefore : heldIds Ctx S q c = heldId (some b) := congrArg heldId hblock
  have hids : heldIds Ctx S (AggregateApi.store q c b') =
      Function.update (heldIds Ctx S q) c (heldId (some b')) := by
    funext d
    by_cases hd : d = c
    · subst hd
      rw [Function.update_self]
      exact congrArg heldId (laws.store_self q.sqlite d b' hsome)
    · rw [Function.update_of_ne hd]
      exact congrArg heldId (laws.store_other q.sqlite c d b' hd)
  rw [hids]
  apply owned_bookStore howned
  rw [hbefore]
  exact hafter

/-- An instant of a callback on `c`, in whose block `b` stands. -/
structure During (before : Ctx → Option (InvocationData (StateObject S))) (c : Ctx)
    (b : InvocationData (StateObject S)) (t : AggregateCall (Watched Q) (CountedUser U) A R) : Prop
    extends BlockIs before c b t where
  owned : t.world.sqlite.ledger.Owned (heldIds Ctx S t.world.sqlite)
  fresh : t.world.user.made = t.world.sqlite.ledger.next

section Instants

variable {before : Ctx → Option (InvocationData (StateObject S))} {c : Ctx}
  {b : InvocationData (StateObject S)} {t : AggregateCall (Watched Q) (CountedUser U) A R}

theorem During.booked [DecidableEq Ctx] (h : During before c b t)
    (hb : b.initialized = true) (hbefore : ∀ d b, before d = some b → b.initialized = true) :
    Booked Ctx S t.world where
  owned := h.owned
  fresh := h.fresh
  begun d b' hb' := by
    by_cases hd : d = c
    · subst hd
      have hsame : b = b' := Option.some.inj (h.here.symm.trans hb')
      rw [← hsame, hb]
    · exact hbefore d b' ((h.elsewhere d hd).symm.trans hb')

theorem During.withUser (h : During before c b t) (user : U) :
    During before c b
      { t with world := { t.world with user := { t.world.user with user := user } } } :=
  ⟨h.toBlockIs.inUser _, h.owned, h.fresh⟩

theorem During.noting (h : During before c b t) (es : List (Effect A R)) :
    During before c b (t.noting es) :=
  ⟨h.toBlockIs.noting es, h.owned, h.fresh⟩

private theorem writeBlock_during [DecidableEq Ctx] (laws : AllocationLaws Q Ctx (StateObject S))
    (h : During before c b t) (b' : InvocationData (StateObject S))
    (hafter : heldId (some b') = heldId (some b) ∨ heldId (some b') = none) :
    ∃ t', Prog.Ends (writeBlock c b') t (.ok ()) t' ∧ During before c b' t' := by
  have hnext : (bookStore (heldIds Ctx S t.world.sqlite c) (heldId (some b'))
      t.world.sqlite.ledger).next = t.world.sqlite.ledger.next := by
    have hbefore : heldIds Ctx S t.world.sqlite c = heldId (some b) := congrArg heldId h.here
    unfold bookStore
    rw [hbefore]
    rcases hafter with hsame | hnone
    · rw [if_pos hsame]
    · rw [hnone]
      split
      · rfl
      · exact Heap.freeAll_next _ _
  have hstored := h.toBlockIs.stored (allocationLaws_watched laws).toAggregateLaws b'
  refine ⟨_, Prog.Ends.effect _ t, hstored, ?_, h.fresh.trans hnext.symm⟩
  exact owned_store laws h.owned h.here (hafter.imp_right Or.inl)

private theorem writeState_new [DecidableEq Ctx] (laws : AllocationLaws Q Ctx (StateObject S))
    (h : During before c b t) (hb : b.state = none) (value : S) (user : U) :
    let o : StateObject S := ⟨t.world.user.made, value⟩
    ∃ t', Prog.Ends (writeState c (some o))
        { t with world := { t.world with user := ⟨user, t.world.user.made + 1⟩ } } (.ok ()) t' ∧
      During before c { b with state := some o } t' := by
  intro o
  have hblock := h.toBlockIs.inUser ⟨user, t.world.user.made + 1⟩
  have hnone : heldIds Ctx S t.world.sqlite c = none := by
    have hbefore : heldIds Ctx S t.world.sqlite c = heldId (some b) := congrArg heldId h.here
    rw [hbefore, heldId, Option.bind_some, hb, Option.map_none]
  have hstored := hblock.stored (allocationLaws_watched laws).toAggregateLaws
    { b with state := some o }
  refine ⟨_, (readBlock_ends hblock).bind (Prog.Ends.effect _ _), hstored, ?_, ?_⟩
  · apply owned_store laws h.owned h.here
    refine Or.inr (Or.inr ⟨?_, ?_⟩)
    · rw [heldId, Option.bind_some, hb, Option.map_none]
    · exact congrArg some h.fresh
  · have hbooks : (bookStore (heldIds Ctx S t.world.sqlite c) (some t.world.user.made)
        t.world.sqlite.ledger).next = t.world.sqlite.ledger.next + 1 := by
      rw [hnone]
      rfl
    rw [← h.fresh] at hbooks
    exact hbooks.symm

private theorem aggregateContext_ends (t : AggregateCall (Watched Q) (CountedUser U) A R) (c : Ctx)
    (bytes : Nat) :
    let call := api.aggregateContext t.world.sqlite.sqlite c bytes
    Prog.Ends (inSqlite fun q : Watched Q =>
        AggregateApi.aggregateContext (S := StateObject S) q c bytes) t (.ok call.1)
      ⟨⟨⟨call.2, t.world.sqlite.ledger⟩, t.world.user⟩, t.trace⟩ :=
  Prog.Ends.effect _ t

/-- The construction in a new block: if the copy throws, the flag is set and there is no object. -/
theorem constructState_cases [DecidableEq Ctx] (laws : AllocationLaws Q Ctx (StateObject S))
    (data : AggregateData S V A R U n) (h : During before c .zeroed t) :
    (∃ e t', Prog.Ends (data.tracked.constructState c) t (.error (.exception e)) t' ∧
        During before c ⟨true, none⟩ t') ∨
      ∃ o t', Prog.Ends (data.tracked.constructState c) t (.ok ()) t' ∧
        During before c ⟨true, some o⟩ t' := by
  obtain ⟨t₁, hflag, h₁⟩ := writeBlock_during laws h ⟨true, none⟩ (Or.inr rfl)
  let u := t₁.world.user
  rcases hcopy : data.copyState data.stateZero u.user with ⟨copied, user⟩
  cases copied with
  | error e =>
    have htracked : data.tracked.copyState data.tracked.stateZero u =
        (.error e, { u with user := user }) := by
      simp [AggregateData.tracked, hcopy]
    refine Or.inl ⟨e, _, ?_, h₁.withUser user⟩
    apply (readBlock_ends h.toBlockIs).bind
    apply hflag.bind
    apply (inUser_ends htracked).bind
    exact (Prog.Ends.raise _ _).bind_error
  | ok value =>
    have htracked : data.tracked.copyState data.tracked.stateZero u =
        (.ok ⟨u.made, value⟩, ⟨user, u.made + 1⟩) := by
      simp [AggregateData.tracked, hcopy]
    obtain ⟨t', hwrite, h'⟩ := writeState_new laws h₁ rfl value user
    refine Or.inr ⟨_, t', ?_, h'⟩
    apply (readBlock_ends h.toBlockIs).bind
    apply hflag.bind
    apply (inUser_ends htracked).bind
    apply (Prog.Ends.pure _ _).bind
    exact hwrite

end Instants

private theorem Booked.sameBlocks {w : TrackedWorld Q U} (h : Booked Ctx S w) {sqlite : Q}
    (hsame : ∀ d : Ctx, api.block sqlite d = api.block w.sqlite.sqlite d) :
    Booked Ctx S (⟨⟨sqlite, w.sqlite.ledger⟩, w.user⟩ : TrackedWorld Q U) where
  owned := by
    have hids : heldIds Ctx S (⟨sqlite, w.sqlite.ledger⟩ : Watched Q) = heldIds Ctx S w.sqlite :=
      funext fun d => congrArg heldId (hsame d)
    rw [hids]
    exact h.owned
  fresh := h.fresh
  begun c b hb := h.begun c b ((hsame c).symm.trans hb)

theorem Booked.withUser {w : TrackedWorld Q U} (h : Booked Ctx S w) (user : U) :
    Booked Ctx S { w with user := { w.user with user := user } } :=
  ⟨h.owned, h.fresh, h.begun⟩

theorem Booked.enter [DecidableEq Ctx] {t : AggregateCall (Watched Q) (CountedUser U) A R}
    (h : Booked Ctx S t.world) {sqlite : Q} {c : Ctx} {b : InvocationData (StateObject S)}
    (hhere : api.block sqlite c = some b)
    (helse : ∀ d, d ≠ c → api.block sqlite d = api.block t.world.sqlite.sqlite d)
    (hheld : heldId (some b) = heldId (api.block t.world.sqlite.sqlite c)) :
    During (api.block t.world.sqlite.sqlite) c b
      (⟨⟨⟨sqlite, t.world.sqlite.ledger⟩, t.world.user⟩, t.trace⟩ :
        AggregateCall (Watched Q) (CountedUser U) A R) where
  here := hhere
  elsewhere := helse
  owned := by
    have hids : heldIds Ctx S (⟨sqlite, t.world.sqlite.ledger⟩ : Watched Q) =
        heldIds Ctx S t.world.sqlite := by
      funext d
      by_cases hd : d = c
      · subst hd
        exact (congrArg heldId hhere).trans hheld
      · exact congrArg heldId (helse d hd)
    rw [hids]
    exact h.owned
  fresh := h.fresh

/-- The construction of the state in the block of `c` was begun and did not complete. -/
def HalfBuilt (S : Type) [api : AggregateApi Q Ctx (StateObject S)] (w : TrackedWorld Q U)
    (c : Ctx) : Prop :=
  api.block w.sqlite.sqlite c = some ⟨true, none⟩

private theorem getStateCreate_existing [DecidableEq Ctx]
    (laws : AllocationLaws Q Ctx (StateObject S)) (data : AggregateData S V A R U n) {c : Ctx}
    {t : AggregateCall (Watched Q) (CountedUser U) A R} (h : Booked Ctx S t.world)
    {state : Option (StateObject S)}
    (hblock : api.block t.world.sqlite.sqlite c = some ⟨true, state⟩)
    (hallocated :
      (api.aggregateContext t.world.sqlite.sqlite c data.sizeofInvocationData).1 = true) :
    ∃ t', Prog.Ends (data.tracked.getStateCreate c) t (.ok ()) t' ∧
      During (api.block t.world.sqlite.sqlite) c ⟨true, state⟩ t' := by
  let bytes := data.sizeofInvocationData
  let call := api.aggregateContext t.world.sqlite.sqlite c bytes
  have hhere := laws.create t.world.sqlite.sqlite c bytes bytes.2 hallocated
  rw [hblock, Option.getD_some] at hhere
  have henter := h.enter hhere (fun d => laws.create_other t.world.sqlite.sqlite c d bytes)
    (by rw [hblock])
  have hcreate := aggregateContext_ends (S := S) t c bytes
  simp only [hallocated, bytes] at hcreate
  refine ⟨_, ?_, henter⟩
  apply hcreate.bind
  apply (readBlock_ends henter.toBlockIs).bind
  exact Prog.Ends.pure () _

private theorem getStateCreate_cases [DecidableEq Ctx] (laws : AllocationLaws Q Ctx (StateObject S))
    (data : AggregateData S V A R U n) (c : Ctx)
    {t : AggregateCall (Watched Q) (CountedUser U) A R} (h : Booked Ctx S t.world) :
    (∃ e t', Prog.Ends (data.tracked.getStateCreate c) t (.error (.exception e)) t' ∧
        Booked Ctx S t'.world) ∨
      (∃ o t', Prog.Ends (data.tracked.getStateCreate c) t (.ok ()) t' ∧
        During (api.block t.world.sqlite.sqlite) c ⟨true, some o⟩ t') ∨
      HalfBuilt S t.world c ∧
        (api.aggregateContext t.world.sqlite.sqlite c data.sizeofInvocationData).1 = true ∧
        ∃ t', Prog.Ends (data.tracked.getStateCreate c) t (.ok ()) t' ∧
          During (api.block t.world.sqlite.sqlite) c ⟨true, none⟩ t' := by
  let bytes := data.sizeofInvocationData
  let call := api.aggregateContext t.world.sqlite.sqlite c bytes
  let t₁ : AggregateCall (Watched Q) (CountedUser U) A R :=
    ⟨⟨⟨call.2, t.world.sqlite.ledger⟩, t.world.user⟩, t.trace⟩
  have hother := fun d => laws.create_other t.world.sqlite.sqlite c d bytes
  have hcreate : Prog.Ends _ t (.ok call.1) t₁ := aggregateContext_ends (S := S) t c bytes
  cases hallocated : call.1 with
  | false =>
    have hsame : ∀ d : Ctx, api.block call.2 d = api.block t.world.sqlite.sqlite d := by
      intro d
      by_cases hd : d = c
      · subst hd
        exact laws.failed t.world.sqlite.sqlite d bytes hallocated
      · exact hother d hd
    rw [hallocated] at hcreate
    refine Or.inl ⟨.badAlloc, t₁, ?_, h.sameBlocks hsame⟩
    apply hcreate.bind
    exact Prog.Ends.raise _ t₁
  | true =>
    rcases hb : api.block t.world.sqlite.sqlite c with _ | ⟨flag, state⟩
    · -- a new block, raw and zeroed
      have hhere := laws.create t.world.sqlite.sqlite c bytes bytes.2 hallocated
      rw [hb, Option.getD_none] at hhere
      have henter := h.enter hhere hother (by rw [hb]; rfl)
      rw [hallocated] at hcreate
      rcases constructState_cases laws data henter with
        ⟨e, t', hconstruct, h'⟩ | ⟨o, t', hconstruct, h'⟩
      · refine Or.inl ⟨e, t', ?_, h'.booked rfl h.begun⟩
        apply hcreate.bind
        apply (readBlock_ends henter.toBlockIs).bind
        exact hconstruct
      · refine Or.inr (Or.inl ⟨o, t', ?_, h'⟩)
        apply hcreate.bind
        apply (readBlock_ends henter.toBlockIs).bind
        exact hconstruct
    · have hflag : flag = true := h.begun c _ hb
      subst hflag
      obtain ⟨t', hends, h'⟩ := getStateCreate_existing laws data h hb hallocated
      cases state with
      | none => exact Or.inr (Or.inr ⟨hb, rfl, t', hends, h'⟩)
      | some o => exact Or.inr (Or.inl ⟨o, t', hends, h'⟩)

/-- The program has no undefined behaviour and leaves the books in order. -/
structure EndsBooked (Ctx S : Type) [api : AggregateApi Q Ctx (StateObject S)] {B : Type}
    (x : Cxx (AggregateCall (Watched Q) (CountedUser U) A R) B)
    (t : AggregateCall (Watched Q) (CountedUser U) A R) : Prop where
  defined : (x t).outcome ≠ .error .undefined
  booked : Booked Ctx S (x t).final.world

section Calls

variable {B B' : Type} {c : Ctx} {t t' : AggregateCall (Watched Q) (CountedUser U) A R}
  {x : Cxx (AggregateCall (Watched Q) (CountedUser U) A R) B}

private theorem EndsBooked.of_ends {o : Except Raised B} (hx : Prog.Ends x t o t')
    (ho : o ≠ .error .undefined) (hb : Booked Ctx S t'.world) : EndsBooked Ctx S x t := by
  constructor
  · rwa [hx.outcome]
  · rwa [hx.final]

theorem EndsBooked.after {f : B → Cxx (AggregateCall (Watched Q) (CountedUser U) A R) B'} {a : B}
    (hx : Prog.Ends x t (.ok a) t') (hf : EndsBooked Ctx S (f a) t') :
    EndsBooked Ctx S (x >>= f) t :=
  .of_ends (hx.bind ⟨rfl, rfl⟩) hf.defined hf.booked

theorem EndsBooked.thrown {f : B → Cxx (AggregateCall (Watched Q) (CountedUser U) A R) B'} {e : Exn}
    (hx : Prog.Ends x t (.error (.exception e)) t') (hb : Booked Ctx S t'.world) :
    EndsBooked Ctx S (x >>= f) t :=
  .of_ends hx.bind_error (by simp) hb

theorem EndsBooked.caught {body : Cxx (AggregateCall (Watched Q) (CountedUser U) A R) Unit}
    (h : EndsBooked Ctx S body t) : EndsBooked Ctx S (catchToResult body) t := by
  have hdefined := h.defined
  rcases hout : (body t).outcome with raised | u
  · cases raised with
    | exception e =>
      have hends := catchToResult_ends_error (⟨hout, rfl⟩ : Prog.Ends body t _ _)
      exact .of_ends hends (by simp) h.booked
    | undefined => exact (hdefined hout).elim
  · exact .of_ends (catchToResult_ends_ok ⟨hout, rfl⟩) (by simp) h.booked

private theorem invoke_booked (order : EvalOrder n) {convert : Fin n → V → Except Exn A}
    {body : List.Vector A n → Cxx (AggregateCall (Watched Q) (CountedUser U) A R) B}
    {vals : List.Vector V n} (hb : Booked Ctx S t.world)
    (hbody : ∀ args es, (∀ i, convert i (vals.get i) = .ok (args.get i)) →
      EndsBooked Ctx S (body args) (t.noting es)) :
    EndsBooked Ctx S (invoke order convert body vals) t := by
  rcases converted_or_throws convert vals order with
    ⟨args, hargs⟩ | ⟨done, rest, i, e, horder, hdone, hi⟩
  · let es : List (Effect A R) := conversions order.order ++ [.call args.toList]
    have hrun := hbody args es hargs
    have hends : Prog.Ends (body args) (t.noting es) _ _ := ⟨rfl, rfl⟩
    exact .of_ends (invoke_ends_ok order hargs hends) hrun.defined hrun.booked
  · exact .of_ends (invoke_ends_error order horder hdone hi t) (by simp) hb

private theorem applyValueArray_booked (order : EvalOrder n) {convert : Fin n → V → Except Exn A}
    {body : List.Vector A n → Cxx (AggregateCall (Watched Q) (CountedUser U) A R) B}
    {argv : List V} (hlen : argv.length = n) (hb : Booked Ctx S t.world)
    (hbody : ∀ args es,
      (∀ i, convert i (List.Vector.get ⟨argv, hlen⟩ i) = .ok (args.get i)) →
        EndsBooked Ctx S (body args) (t.noting es)) :
    EndsBooked Ctx S (applyValueArray n (invoke order convert body) argv) t := by
  let reads : List (Effect A R) := (List.range n).map .read
  have hread : Booked Ctx S (t.noting reads).world := hb
  have hinvoke : EndsBooked Ctx S (invoke order convert body ⟨argv, hlen⟩) (t.noting reads) := by
    apply invoke_booked order hread
    intro args es hargs
    rw [noting_noting]
    exact hbody args (reads ++ es) hargs
  exact .of_ends (applyValueArray_ends hlen ⟨rfl, rfl⟩) hinvoke.defined hinvoke.booked

private theorem applyStep_booked [DecidableEq Ctx] (laws : AllocationLaws Q Ctx (StateObject S))
    (data : AggregateData S V A R U n) {before : Ctx → Option (InvocationData (StateObject S))}
    (hbefore : ∀ d b, before d = some b → b.initialized = true) {o : StateObject S}
    (h : During before c ⟨true, some o⟩ t) (args : List.Vector A n) :
    EndsBooked Ctx S (data.tracked.applyStep c args) t := by
  rcases hstep : data.stepfun o.value args t.world.user.user with ⟨⟨outcome, value⟩, user⟩
  have htracked : data.tracked.stepfun o args t.world.user =
      ((outcome, ⟨o.id, value⟩), { t.world.user with user := user }) := by
    simp [AggregateData.tracked, hstep]
  have hstepped := h.withUser user
  obtain ⟨t', hwrite, h'⟩ :=
    writeBlock_during laws hstepped ⟨true, some ⟨o.id, value⟩⟩ (Or.inl rfl)
  have hb' := h'.booked rfl hbefore
  apply EndsBooked.after (readState_ends h.toBlockIs rfl)
  apply EndsBooked.after (inUser_ends htracked)
  apply EndsBooked.after ((readBlock_ends hstepped.toBlockIs).bind hwrite)
  cases outcome with
  | ok u => exact .of_ends (Prog.Ends.pure u t') (by simp) hb'
  | error e => exact .of_ends (Prog.Ends.raise _ t') (by simp) hb'

end Calls

/-- The callback gets as far as the state in a block that is there. -/
def ReachesState (data : AggregateData S V A R U n) (w : TrackedWorld Q U) (c : Ctx) :
    AggregateCallback V → Prop
  | .xStep argv =>
    (api.aggregateContext w.sqlite.sqlite c data.sizeofInvocationData).1 = true ∧
      ∃ h : argv.length = n, ∀ i, ∃ a, data.convert i (List.Vector.get ⟨argv, h⟩ i) = .ok a
  | .xFinal => True

section Calls

variable [DecidableEq Ctx] {c : Ctx} {t : AggregateCall (Watched Q) (CountedUser U) A R}

theorem callStep_booked (laws : AllocationLaws Q Ctx (StateObject S))
    (data : AggregateData S V A R U n) (order : EvalOrder n) (argv : List V)
    (hb : Booked Ctx S t.world)
    (huse : HalfBuilt S t.world c → ¬ ReachesState data t.world c (.xStep argv)) :
    EndsBooked Ctx S (data.tracked.callStep order c argv) t := by
  apply EndsBooked.caught
  by_cases hlen : argv.length = n
  · rw [AggregateData.stepCall, if_neg (not_not.mpr hlen)]
    rcases getStateCreate_cases laws data c hb with
      ⟨e, t₁, hcreate, h₁⟩ | ⟨o, t₁, hcreate, h₁⟩ | ⟨hhalf, hallocated, t₁, hcreate, h₁⟩
    · exact EndsBooked.thrown hcreate h₁
    · apply EndsBooked.after hcreate
      apply applyValueArray_booked order hlen (h₁.booked rfl hb.begun)
      intro args es _
      exact applyStep_booked laws data hb.begun (h₁.noting es) args
    · -- no step function on a half-built state: a conversion throws
      apply EndsBooked.after hcreate
      apply applyValueArray_booked order hlen (h₁.booked rfl hb.begun)
      intro args es hargs
      exact (huse hhalf ⟨hallocated, hlen, fun i => ⟨args.get i, hargs i⟩⟩).elim
  · rw [AggregateData.stepCall, if_pos hlen]
    exact .of_ends (note_ends _ t) (by simp) hb

omit api [DecidableEq Ctx] in
private theorem finalfun_cases (data : AggregateData S V A R U n) (o : StateObject S)
    (t : AggregateCall (Watched Q) (CountedUser U) A R) :
    ∃ outcome user es, outcome ≠ .error .undefined ∧ Prog.Ends (do
        let outcome ← inUser (data.tracked.finalfun o)
        let r ← rethrow outcome
        Context.result r : Cxx (AggregateCall (Watched Q) (CountedUser U) A R) Unit) t outcome
      (Invocation.noting
        { t with world := { t.world with user := { t.world.user with user := user } } } es) := by
  rcases hfinal : data.finalfun o.value t.world.user.user with ⟨outcome, user⟩
  have htracked : data.tracked.finalfun o t.world.user =
      (outcome, { t.world.user with user := user }) := by
    simp [AggregateData.tracked, hfinal]
  cases outcome with
  | error e =>
    refine ⟨.error (.exception e), user, [], by simp, ?_⟩
    rw [noting_nil]
    apply (inUser_ends htracked).bind
    exact (Prog.Ends.raise _ _).bind_error
  | ok r =>
    refine ⟨.ok (), user, [.result (.value r)], by simp, ?_⟩
    apply (inUser_ends htracked).bind
    apply (Prog.Ends.pure _ _).bind
    exact note_ends _ _

omit [DecidableEq Ctx] in
private theorem finalBody_during (data : AggregateData S V A R U n)
    {before : Ctx → Option (InvocationData (StateObject S))} {o : StateObject S}
    (h : During before c ⟨true, some o⟩ t) :
    ∃ outcome t', Prog.Ends (do
        let state ← readState (S := StateObject S) c
        let outcome ← inUser (data.tracked.finalfun state)
        let r ← rethrow outcome
        Context.result r : Cxx (AggregateCall (Watched Q) (CountedUser U) A R) Unit) t outcome t' ∧
      outcome ≠ .error .undefined ∧ During before c ⟨true, some o⟩ t' := by
  obtain ⟨outcome, user, es, hdefined, hfinal⟩ := finalfun_cases data o t
  exact ⟨outcome, _, (readState_ends h.toBlockIs rfl).bind hfinal, hdefined,
    (h.withUser user).noting es⟩

private theorem finalCall_cases (laws : AllocationLaws Q Ctx (StateObject S))
    (data : AggregateData S V A R U n) (hb : Booked Ctx S t.world)
    (hbuilt : ¬ HalfBuilt S t.world c) :
    ∃ outcome t', Prog.Ends (data.tracked.finalCall c) t outcome t' ∧
      outcome ≠ .error .undefined ∧ Booked Ctx S t'.world ∧
        heldIds Ctx S t'.world.sqlite c = none := by
  rcases hcall : api.aggregateContext t.world.sqlite.sqlite c 0 with ⟨found, sqlite⟩
  have hfound := laws.existing t.world.sqlite.sqlite c
  have hsame := laws.existing_block t.world.sqlite.sqlite c
  rw [hcall] at hfound hsame
  let t₁ : AggregateCall (Watched Q) (CountedUser U) A R :=
    ⟨⟨⟨sqlite, t.world.sqlite.ledger⟩, t.world.user⟩, t.trace⟩
  have hexisting : Prog.Ends (data.tracked.getStateExisting c) t (.ok found) t₁ := by
    have hends := aggregateContext_ends (S := S) t c 0
    simp only [hcall] at hends
    exact hends
  rcases hblock : api.block t.world.sqlite.sqlite c with _ | ⟨flag, state⟩
  · rw [hblock] at hfound
    cases hfound
    obtain ⟨outcome, user, es, hdefined, hfinal⟩ := finalfun_cases data data.tracked.stateZero t₁
    have hnone : heldIds Ctx S t₁.world.sqlite c = none :=
      congrArg heldId ((hsame c).trans hblock)
    exact ⟨outcome, _, hexisting.bind hfinal, hdefined, (hb.sameBlocks hsame).withUser user, hnone⟩
  · have hflag : flag = true := hb.begun c _ hblock
    subst hflag
    rw [hblock] at hfound
    cases hfound
    cases state with
    | none => exact (hbuilt hblock).elim
    | some o =>
      have henter := hb.enter ((hsame c).trans hblock) (fun d _ => hsame d) (by rw [hblock])
      obtain ⟨outcome, t₂, hbody, hdefined, h₂⟩ := finalBody_during data henter
      obtain ⟨t', hwrite, h'⟩ := writeBlock_during laws h₂ ⟨true, none⟩ (Or.inr rfl)
      have hdestroy : Prog.Ends (data.tracked.destroyState c) t₂ (.ok ()) t' := by
        apply (readState_ends h₂.toBlockIs rfl).bind
        apply (readBlock_ends h₂.toBlockIs).bind
        exact hwrite
      refine ⟨outcome, t', ?_, hdefined, h'.booked rfl hb.begun, congrArg heldId h'.here⟩
      apply hexisting.bind
      exact Cxx.inScope_ends hbody hdefined hdestroy

theorem callFinal_booked (laws : AllocationLaws Q Ctx (StateObject S))
    (data : AggregateData S V A R U n) (hb : Booked Ctx S t.world)
    (hbuilt : ¬ HalfBuilt S t.world c) :
    ∃ t', Prog.Ends (data.tracked.callFinal c) t (.ok ()) t' ∧ Booked Ctx S t'.world ∧
      heldIds Ctx S t'.world.sqlite c = none := by
  obtain ⟨outcome, t', hends, hdefined, hb', hnone⟩ := finalCall_cases laws data hb hbuilt
  cases outcome with
  | ok u => exact ⟨t', catchToResult_ends_ok hends, hb', hnone⟩
  | error raised =>
    cases raised with
    | exception e => exact ⟨_, catchToResult_ends_error hends, hb', hnone⟩
    | undefined => exact (hdefined rfl).elim

omit [DecidableEq Ctx] in
private theorem readState_undefined {before : Ctx → Option (InvocationData (StateObject S))}
    (h : During before c ⟨true, none⟩ t) :
    Prog.Ends (readState (S := StateObject S) c) t (.error .undefined) t := by
  apply (readBlock_ends h.toBlockIs).bind
  exact Prog.Ends.raise _ t

/-- On a half-built state the step function is applied to memory without an object. -/
theorem callStep_undefined (laws : AllocationLaws Q Ctx (StateObject S))
    (data : AggregateData S V A R U n) (order : EvalOrder n) (argv : List V)
    (hb : Booked Ctx S t.world) (hhalf : HalfBuilt S t.world c)
    (hreach : ReachesState data t.world c (.xStep argv)) :
    (data.tracked.callStep order c argv t).outcome = .error .undefined := by
  obtain ⟨hallocated, hlen, hconvert⟩ := hreach
  obtain ⟨args, hargs⟩ := exists_converted hconvert
  obtain ⟨t₁, hcreate, h₁⟩ := getStateCreate_existing laws data hb hhalf hallocated
  let reads : List (Effect A R) := (List.range n).map .read
  let es : List (Effect A R) := conversions order.order ++ [.call args.toList]
  have hcall : Prog.Ends (data.tracked.stepCall order c argv) t (.error .undefined)
      ((t₁.noting reads).noting es) := by
    rw [AggregateData.stepCall, if_neg (not_not.mpr hlen)]
    apply hcreate.bind
    apply applyValueArray_ends hlen
    apply invoke_ends_ok order hargs
    exact (readState_undefined ((h₁.noting _).noting _)).bind_error
  exact (catchToResult_ends_undefined hcall).outcome

/-- On a half-built state the final function reads, and the destructor runs, without an object. -/
theorem callFinal_undefined (laws : AllocationLaws Q Ctx (StateObject S))
    (data : AggregateData S V A R U n) (hb : Booked Ctx S t.world) (hhalf : HalfBuilt S t.world c) :
    (data.tracked.callFinal c t).outcome = .error .undefined := by
  let call := api.aggregateContext t.world.sqlite.sqlite c 0
  let t₁ : AggregateCall (Watched Q) (CountedUser U) A R :=
    ⟨⟨⟨call.2, t.world.sqlite.ledger⟩, t.world.user⟩, t.trace⟩
  have hsame := laws.existing_block t.world.sqlite.sqlite c
  have hfound : call.1 = true := by
    have hexisting := laws.existing t.world.sqlite.sqlite c
    rwa [hhalf, Option.isSome_some] at hexisting
  have hexisting : Prog.Ends (data.tracked.getStateExisting c) t (.ok call.1) t₁ :=
    aggregateContext_ends t c 0
  rw [hfound] at hexisting
  have henter := hb.enter ((hsame c).trans hhalf) (fun d _ => hsame d) (by rw [hhalf])
  have hcall : Prog.Ends (data.tracked.finalCall c) t (.error .undefined) t₁ := by
    apply hexisting.bind
    exact Cxx.inScope_undefined (readState_undefined henter).bind_error _
  exact (catchToResult_ends_undefined hcall).outcome

end Calls

namespace AggregateSession

/-- No callback gets as far as the state of a context whose construction was begun and failed. -/
def UsesBuilt (data : AggregateData S V A R U n) (s : AggregateSession Q U)
    (e : Ctx × AggregateCallback V) : Prop :=
  HalfBuilt S s.world e.1 → ¬ ReachesState data s.world e.1 e.2

/-- Nothing has gone wrong so far. -/
structure Sound (Ctx S : Type) [api : AggregateApi Q Ctx (StateObject S)]
    (s : AggregateSession Q U) : Prop where
  defined : s.undefined = false
  booked : Booked Ctx S s.world

private theorem Sound.statesIntact {s : AggregateSession Q U} (h : Sound Ctx S s) :
    StatesIntact Ctx S s :=
  ⟨h.defined, h.booked.owned⟩

theorem sound_start {sqlite : Q} (hfresh : ∀ c : Ctx, api.block sqlite c = none) (user : U) :
    Sound Ctx S (start sqlite user) := by
  refine ⟨rfl, Heap.Owned.init _ fun c => congrArg heldId (hfresh c), rfl, ?_⟩
  intro c b hb
  cases (hfresh c).symm.trans hb

private theorem booked_released [DecidableEq Ctx] (laws : AllocationLaws Q Ctx (StateObject S))
    {w : TrackedWorld Q U} (hb : Booked Ctx S w) {c : Ctx}
    (hnone : heldIds Ctx S w.sqlite c = none) :
    Booked Ctx S (released (S := S) c w (.xFinal : AggregateCallback V)) := by
  have hids : heldIds Ctx S (⟨api.release w.sqlite.sqlite c, w.sqlite.ledger⟩ : Watched Q) =
      heldIds Ctx S w.sqlite := by
    funext d
    by_cases hd : d = c
    · subst hd
      rw [hnone]
      exact congrArg heldId (laws.release_self w.sqlite.sqlite d)
    · exact congrArg heldId (laws.release_other w.sqlite.sqlite c d hd)
  refine ⟨?_, hb.fresh, ?_⟩
  · have howned := hb.owned
    rw [← hids] at howned
    exact howned
  · intro d b hblock
    have hblock' : api.block (api.release w.sqlite.sqlite c) d = some b := hblock
    by_cases hd : d = c
    · subst hd
      rw [laws.release_self] at hblock'
      cases hblock'
    · rw [laws.release_other _ c d hd] at hblock'
      exact hb.begun d b hblock'

theorem exec_sound [DecidableEq Ctx] (laws : AllocationLaws Q Ctx (StateObject S))
    (data : AggregateData S V A R U n) (order : EvalOrder n) (s : AggregateSession Q U)
    (e : Ctx × AggregateCallback V) (hs : Sound Ctx S s) (huse : UsesBuilt data s e) :
    Sound Ctx S (exec data order s e) := by
  obtain ⟨c, e⟩ := e
  cases e with
  | xStep argv =>
    have hstep := callStep_booked laws data order argv (t := ⟨s.world, []⟩) hs.booked huse
    refine ⟨?_, hstep.booked⟩
    change (s.undefined || decide _) = false
    rw [hs.defined, Bool.false_or]
    exact decide_eq_false hstep.defined
  | xFinal =>
    have hbuilt : ¬ HalfBuilt S s.world c := fun hhalf => huse hhalf trivial
    obtain ⟨t, hends, hb, hnone⟩ :=
      callFinal_booked laws data (t := ⟨s.world, []⟩) hs.booked hbuilt
    have hreleased := booked_released (V := V) laws hb hnone
    rw [← hends.final] at hreleased
    refine ⟨?_, hreleased⟩
    change (s.undefined || decide ((data.tracked.callFinal c ⟨s.world, []⟩).outcome = _)) = false
    rw [hs.defined, Bool.false_or, hends.outcome]
    rfl

/-- A callback that gets as far as a state that was not built has undefined behaviour. -/
theorem callback_undefined [DecidableEq Ctx] (laws : AllocationLaws Q Ctx (StateObject S))
    (data : AggregateData S V A R U n) (order : EvalOrder n) (s : AggregateSession Q U)
    (e : Ctx × AggregateCallback V) (hs : Sound Ctx S s) (huse : ¬ UsesBuilt data s e) :
    (callback data order e.1 e.2 ⟨s.world, []⟩).outcome = .error .undefined := by
  obtain ⟨c, e⟩ := e
  obtain ⟨hhalf, hreach⟩ := Classical.not_imp.mp huse
  have hreach := not_not.mp hreach
  cases e with
  | xStep argv =>
    exact callStep_undefined laws data order argv (t := ⟨s.world, []⟩) hs.booked hhalf hreach
  | xFinal => exact callFinal_undefined laws data (t := ⟨s.world, []⟩) hs.booked hhalf

private theorem exec_not_intact [DecidableEq Ctx] (laws : AllocationLaws Q Ctx (StateObject S))
    (data : AggregateData S V A R U n) (order : EvalOrder n) (s : AggregateSession Q U)
    (e : Ctx × AggregateCallback V) (hs : Sound Ctx S s) (huse : ¬ UsesBuilt data s e) :
    ¬ StatesIntact Ctx S (exec data order s e) := by
  have hundefined := callback_undefined laws data order s e hs huse
  intro hintact
  have hdefined := hintact.defined
  change (s.undefined || decide ((callback data order e.1 e.2 ⟨s.world, []⟩).outcome = _)) = false
    at hdefined
  rw [hundefined, decide_eq_true rfl, Bool.or_true] at hdefined
  cases hdefined

end AggregateSession

end Books

/-- With user code and allocations that may throw anywhere: no callback uses a state that was not
built and every state is destroyed once, exactly in the runs in which no callback gets as far as a
state whose construction threw. -/
theorem states_destroyed_once_iff [api : AggregateApi Q Ctx (StateObject S)] [DecidableEq Ctx]
    (laws : AllocationLaws Q Ctx (StateObject S)) (data : AggregateData S V A R U n)
    (order : EvalOrder n) {sqlite : Q} (hfresh : ∀ c : Ctx, api.block sqlite c = none) (user : U)
    (es : List (Ctx × AggregateCallback V)) :
    Always (AggregateSession.exec data order) (AggregateSession.StatesIntact Ctx S)
        (.start sqlite user) es ↔
      StepsMeet (AggregateSession.exec data order) (AggregateSession.UsesBuilt data)
        (.start sqlite user) es :=
  always_iff_stepsMeet (fun _ hs => AggregateSession.Sound.statesIntact hs)
    (AggregateSession.exec_sound laws data order) (AggregateSession.exec_not_intact laws data order)
    (AggregateSession.sound_start hfresh user) es

theorem allocationLaws_blockTable {S : Type} : AllocationLaws (BlockTable S) Nat S where
  toAggregateLaws := aggregateLaws_blockTable
  failed q c bytes hfailed := by
    by_cases hzero : bytes = 0
    · simp [AggregateApi.block, AggregateApi.aggregateContext, hzero]
    · simp [AggregateApi.aggregateContext, hzero] at hfailed

def throwingSum (copyThrows : Bool) : AggregateData Int Int Int Int Unit 1 where
  sizeofInvocationData := ⟨16, by decide⟩
  stateZero := 0
  copyState s u := (if copyThrows then .error .badAlloc else .ok s, u)
  convert _ v := if v = 0 then .error .badAlloc else .ok v
  stepfun s args u := ((if args.head < 0 then .error (.other 0) else .ok (), s + args.head), u)
  finalfun s u := (if s < 0 then .error (.other 1) else .ok s, u)

def noBlocks : BlockTable (StateObject Int) := fun _ => none

/-- Two groups; in one of them the step function throws and then the final function does. -/
theorem states_destroyed_once_iff_groups :
    let es : List (Nat × AggregateCallback Int) :=
      [(0, .xStep [11]), (1, .xStep [-5]), (0, .xStep [22]), (1, .xFinal), (0, .xFinal)]
    Always (AggregateSession.exec (throwingSum false) (.leftToRight 1))
        (AggregateSession.StatesIntact Nat Int) (.start noBlocks ()) es ↔
      StepsMeet (AggregateSession.exec (throwingSum false) (.leftToRight 1))
        (AggregateSession.UsesBuilt (throwingSum false)) (.start noBlocks ()) es :=
  states_destroyed_once_iff allocationLaws_blockTable _ _ (fun _ => rfl) _ _

/-- The copy of the zero state throws on the only row, and the final callback takes the block for a
state. -/
theorem half_built_state_destroyed :
    ¬ Always (AggregateSession.exec (throwingSum true) (.leftToRight 1))
      (AggregateSession.StatesIntact Nat Int) (.start noBlocks ())
      [((0 : Nat), .xStep [11]), (0, .xFinal)] := by
  intro h
  have hdefined := h.last.defined
  exact absurd hdefined (by decide)

end Sqxx
