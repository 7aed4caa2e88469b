import Sqxx.Callbacks.Handlers
import Sqxx.Connection.Exec
import Sqxx.Function.Scalar
import Sqxx.Function.StateLifetime

/-!
# No exception crosses the C boundary

All the C functions that the library calls, with any user code: the hooks, the comparators and the
log handlers report an exception, a function or an aggregate makes it the result, the row callback
of `exec` keeps it for its caller.
-/

namespace Sqxx
open Framework

namespace Cxx

variable {σ α β : Type} {κ : Type*} {p : σ → κ}

/-- When `x` throws, what `p` observes is as it was. -/
def ThrowsKeeping (p : σ → κ) (x : Cxx σ α) : Prop :=
  ∀ s e, (x s).outcome = .error (.exception e) → p (x s).final = p s

def NeverThrows (x : Cxx σ α) : Prop := ∀ s e, (x s).outcome ≠ .error (.exception e)

private theorem ThrowsKeeping.of_keeps {x : Cxx σ α} (hx : Prog.Keeps p x) : ThrowsKeeping p x :=
  fun s _ _ => hx s

theorem ThrowsKeeping.bind {x : Cxx σ α} {f : α → Cxx σ β} (hx : Prog.Keeps p x)
    (hf : ∀ a, ThrowsKeeping p (f a)) : ThrowsKeeping p (x >>= f) := by
  intro s e he
  have hfirst := hx s
  rcases hrun : x s with ⟨outcome, final, visited⟩
  rw [hrun] at hfirst
  rw [Prog.bind_run, hrun] at he ⊢
  cases outcome with
  | ok a => exact (hf a final e he).trans hfirst
  | error raised => exact hfirst

private theorem ThrowsKeeping.bind_neverThrows {x : Cxx σ α} {f : α → Cxx σ β}
    (hx : ThrowsKeeping p x) (hf : ∀ a, NeverThrows (f a)) : ThrowsKeeping p (x >>= f) := by
  intro s e he
  have hfirst := hx s e
  rcases hrun : x s with ⟨outcome, final, visited⟩
  rw [hrun] at hfirst
  rw [Prog.bind_run, hrun] at he ⊢
  cases outcome with
  | ok a => exact (hf a final e he).elim
  | error raised =>
    cases he
    exact hfirst rfl

theorem NeverThrows.bind {x : Cxx σ α} {f : α → Cxx σ β} (hx : NeverThrows x)
    (hf : ∀ a, NeverThrows (f a)) : NeverThrows (x >>= f) := by
  intro s e he
  have hfirst := hx s e
  rcases hrun : x s with ⟨outcome, final, visited⟩
  rw [hrun] at hfirst
  rw [Prog.bind_run, hrun] at he
  cases outcome with
  | ok a => exact hf a final e he
  | error raised =>
    cases he
    exact hfirst rfl

theorem ThrowsKeeping.unwinding {x : Cxx σ α} {cleanup : Cxx σ Unit} (hx : ThrowsKeeping p x)
    (hcleanup : Prog.Keeps p cleanup) : ThrowsKeeping p (unwinding x cleanup) := by
  intro s e he
  have hfirst := hx s
  rcases hrun : x s with ⟨outcome, final, visited⟩
  rw [hrun] at hfirst
  rw [Cxx.unwinding, tryCatch, Prog.catching_run, hrun] at he ⊢
  cases outcome with
  | ok a => cases he
  | error raised =>
    cases raised with
    | undefined => cases he
    | exception e' =>
      have hboth : Prog.Keeps p (cleanup >>= fun _ => (throw e' : Cxx σ α)) :=
        hcleanup.bind fun _ => Prog.Keeps.raise _
      exact (hboth final).trans (hfirst e' rfl)

theorem ThrowsKeeping.inScope {x : Cxx σ α} {destructor : Cxx σ Unit} (hx : ThrowsKeeping p x)
    (hthrows : NeverThrows destructor) (hkeeps : Prog.Keeps p destructor) :
    ThrowsKeeping p (inScope x destructor) := by
  apply (hx.unwinding hkeeps).bind_neverThrows
  intro a
  exact hthrows.bind fun _ s e he => by cases he

end Cxx

private theorem neverThrows_catchToResult {W A R : Type} (body : Cxx (Invocation W A R) Unit) :
    Cxx.NeverThrows (catchToResult body) := by
  intro s ex hthrows
  rcases hout : (body s).outcome with raised | u
  · cases raised with
    | undefined =>
      cases (catchToResult_ends_undefined ⟨hout, rfl⟩).outcome.symm.trans hthrows
    | exception e =>
      cases (catchToResult_ends_error ⟨hout, rfl⟩).outcome.symm.trans hthrows
  · cases (catchToResult_ends_ok ⟨hout, rfl⟩).outcome.symm.trans hthrows

/-! ## What the aggregate callbacks report -/

section Aggregates

variable {Q Ctx S V A R U B : Type} {n : Nat}

def reported {W : Type} (t : Invocation W A R) : List (SqlResult R) := results t.trace

abbrev Reportless {W : Type} (x : Cxx (Invocation W A R) B) : Prop := Prog.Keeps reported x

private theorem reportless_note {W : Type} {e : Effect A R} (he : results [e] = []) :
    Reportless (note e : Cxx (Invocation W A R) Unit) := by
  intro s
  change results (s.trace ++ [e]) = results s.trace
  rw [results_append, he, List.append_nil]

private theorem reportless_inSqlite (f : Q → B × Q) :
    Reportless (inSqlite f : Cxx (AggregateCall Q U A R) B) := fun _ => rfl

private theorem reportless_inUser (f : U → B × U) :
    Reportless (inUser f : Cxx (AggregateCall Q U A R) B) := fun _ => rfl

private theorem reportless_rethrow (o : Except Exn B) :
    Reportless (rethrow o : Cxx (AggregateCall Q U A R) B) := by
  intro s
  cases o <;> rfl

section Memory

variable [api : AggregateApi Q Ctx S]

private theorem reportless_readBlock (c : Ctx) :
    Reportless (readBlock c : Cxx (AggregateCall Q U A R) (InvocationData S)) := by
  apply (Prog.Keeps.reading _).bind
  intro b
  cases b with
  | none => exact Prog.Keeps.raise _
  | some b => exact Prog.Keeps.pure b

private theorem reportless_readState (c : Ctx) :
    Reportless (readState c : Cxx (AggregateCall Q U A R) S) := by
  apply (reportless_readBlock c).bind
  intro as
  cases as.state with
  | none => exact Prog.Keeps.raise _
  | some s => exact Prog.Keeps.pure s

private theorem reportless_writeState (c : Ctx) (state : Option S) :
    Reportless (writeState c state : Cxx (AggregateCall Q U A R) Unit) := by
  apply (reportless_readBlock c).bind
  intro as
  exact reportless_inSqlite _

private theorem neverThrows_readBlock (c : Ctx) :
    Cxx.NeverThrows (readBlock c : Cxx (AggregateCall Q U A R) (InvocationData S)) := by
  apply Cxx.NeverThrows.bind (fun s e he => by cases he)
  intro b s e he
  cases b <;> cases he

private theorem neverThrows_destroyState (data : AggregateData S V A R U n) (c : Ctx) :
    Cxx.NeverThrows (data.destroyState c : Cxx (AggregateCall Q U A R) Unit) := by
  apply Cxx.NeverThrows.bind
  · apply (neverThrows_readBlock c).bind
    intro as s e he
    cases hstate : as.state <;> rw [hstate] at he <;> cases he
  · intro _
    apply (neverThrows_readBlock c).bind
    intro as s e he
    cases he

end Memory

private theorem reportless_readArgv {W : Type} (argv : List V) (i : Nat) :
    Reportless (readArgv argv i : Cxx (Invocation W A R) V) := by
  rw [readArgv]
  cases argv[i]? with
  | none => exact Prog.Keeps.raise _
  | some v =>
    apply (reportless_note rfl).bind
    intro _
    exact Prog.Keeps.pure v

private theorem reportless_convertAll {W : Type} (convert : Fin n → V → Except Exn A)
    (vals : List.Vector V n) (order : List (Fin n)) :
    Reportless (convertAll convert vals order : Cxx (Invocation W A R) _) := by
  induction order with
  | nil => exact Prog.Keeps.pure _
  | cons j order ih =>
    rw [convertAll]
    apply (reportless_note rfl).bind
    intro _
    cases convert j (vals.get j) with
    | error e => exact Prog.Keeps.raise _
    | ok a =>
      apply ih.bind
      intro rest
      exact Prog.Keeps.pure _

private theorem reportless_invoke {W : Type} (order : EvalOrder n)
    (convert : Fin n → V → Except Exn A)
    {body : List.Vector A n → Cxx (Invocation W A R) B} (hbody : ∀ args, Reportless (body args))
    (vals : List.Vector V n) : Reportless (invoke order convert body vals) := by
  apply (reportless_convertAll convert vals order.order).bind
  intro converted
  apply (reportless_note rfl).bind
  intro _
  exact hbody _

private theorem reportless_applyValueArraySt {W : Type}
    {f : List.Vector V n → Cxx (Invocation W A R) B}
    (hf : ∀ vals, Reportless (f vals)) (argv : List V) (remaining I : Nat) (h : I + remaining = n)
    (args : List.Vector V I) : Reportless (applyValueArraySt f argv remaining I h args) := by
  induction remaining generalizing I with
  | zero => exact hf _
  | succ remaining ih =>
    apply (reportless_readArgv argv I).bind
    intro v
    exact ih (I + 1) _ _

namespace AggregateData

variable [api : AggregateApi Q Ctx S]

private theorem reportless_getStateCreate (data : AggregateData S V A R U n) (c : Ctx) :
    Reportless (data.getStateCreate c : Cxx (AggregateCall Q U A R) Unit) := by
  apply (reportless_inSqlite _).bind
  intro allocated
  cases allocated with
  | false => exact Prog.Keeps.raise _
  | true =>
    apply (reportless_readBlock c).bind
    intro as
    cases as.initialized with
    | true => exact Prog.Keeps.pure ()
    | false =>
      apply (reportless_readBlock c).bind
      intro as
      apply (reportless_inSqlite _).bind
      intro _
      apply (reportless_inUser _).bind
      intro copied
      apply (reportless_rethrow copied).bind
      intro state
      exact reportless_writeState c (some state)

private theorem reportless_applyStep (data : AggregateData S V A R U n) (c : Ctx)
    (args : List.Vector A n) :
    Reportless (data.applyStep c args : Cxx (AggregateCall Q U A R) Unit) := by
  apply (reportless_readState c).bind
  intro state
  apply (reportless_inUser _).bind
  intro r
  apply (reportless_writeState c (some r.2)).bind
  intro _
  exact reportless_rethrow r.1

private theorem stepCall_throwsKeeping (data : AggregateData S V A R U n) (order : EvalOrder n)
    (c : Ctx) (argv : List V) : Cxx.ThrowsKeeping reported
      (data.stepCall order c argv : Cxx (AggregateCall Q U A R) Unit) := by
  rw [stepCall]
  by_cases hlen : argv.length ≠ n
  · rw [if_pos hlen]
    intro s e he
    cases he
  · rw [if_neg hlen]
    apply Cxx.ThrowsKeeping.of_keeps
    apply (data.reportless_getStateCreate c).bind
    intro _
    exact reportless_applyValueArraySt (reportless_invoke order data.convert
      (data.reportless_applyStep c)) argv n 0 _ _

private theorem finalCall_throwsKeeping (data : AggregateData S V A R U n) (c : Ctx) :
    Cxx.ThrowsKeeping reported (data.finalCall c : Cxx (AggregateCall Q U A R) Unit) := by
  have hresult : ∀ state, Cxx.ThrowsKeeping reported (do
      let outcome ← inUser (data.finalfun state)
      let r ← rethrow outcome
      Context.result r : Cxx (AggregateCall Q U A R) Unit) := by
    intro state
    apply Cxx.ThrowsKeeping.bind (reportless_inUser _)
    intro outcome
    apply Cxx.ThrowsKeeping.bind (reportless_rethrow outcome)
    intro r s e he
    cases he
  apply Cxx.ThrowsKeeping.bind (reportless_inSqlite _)
  intro found
  cases found with
  | false => exact hresult data.stateZero
  | true =>
    apply Cxx.ThrowsKeeping.inScope
    · apply Cxx.ThrowsKeeping.bind (reportless_readState c)
      exact hresult
    · exact neverThrows_destroyState data c
    · apply (reportless_readState c).bind
      intro _
      exact reportless_writeState c none

end AggregateData

namespace AggregateSession

variable [api : AggregateApi Q Ctx (StateObject S)]

/-- What a callback does inside its `try` block. -/
def tried (data : AggregateData S V A R U n)
    (order : EvalOrder n) (c : Ctx) :
    AggregateCallback V → Cxx (AggregateCall (Watched Q) (CountedUser U) A R) Unit
  | .xStep argv => data.tracked.stepCall order c argv
  | .xFinal => data.tracked.finalCall c

/-- No exception comes out of the callback. -/
def Caught (data : AggregateData S V A R U n)
    (order : EvalOrder n) (s : AggregateSession Q U) (e : Ctx × AggregateCallback V) : Prop :=
  ∀ ex, (callback data order e.1 e.2 ⟨s.world, []⟩).outcome ≠ .error (.exception ex)

/-- The callback returns; what was thrown in it is the one result, and else it has done what its
body does. -/
structure Translated (data : AggregateData S V A R U n)
    (order : EvalOrder n) (s : AggregateSession Q U) (e : Ctx × AggregateCallback V) : Prop where
  returns : (callback data order e.1 e.2 ⟨s.world, []⟩).outcome = .ok ()
  passes : (tried data order e.1 e.2 ⟨s.world, []⟩).outcome = .ok () →
    (callback data order e.1 e.2 ⟨s.world, []⟩).final =
      (tried data order e.1 e.2 ⟨s.world, []⟩).final
  throws : ∀ ex, (tried data order e.1 e.2 ⟨s.world, []⟩).outcome = .error (.exception ex) →
    reported (callback data order e.1 e.2 ⟨s.world, []⟩).final = [.ofExn ex]

private theorem callback_eq (data : AggregateData S V A R U n)
    (order : EvalOrder n) (c : Ctx) (e : AggregateCallback V) :
    callback (Q := Q) data order c e = catchToResult (tried data order c e) := by
  cases e <;> rfl

private theorem tried_throwsKeeping (data : AggregateData S V A R U n) (order : EvalOrder n)
    (c : Ctx) (e : AggregateCallback V) :
    Cxx.ThrowsKeeping reported (tried (Q := Q) data order c e) := by
  cases e with
  | xStep argv => exact data.tracked.stepCall_throwsKeeping order c argv
  | xFinal => exact data.tracked.finalCall_throwsKeeping c

theorem caught (data : AggregateData S V A R U n)
    (order : EvalOrder n) (s : AggregateSession Q U) (e : Ctx × AggregateCallback V) :
    Caught data order s e := by
  intro ex hthrows
  rw [callback_eq] at hthrows
  exact neverThrows_catchToResult _ _ ex hthrows

section Translation

variable [DecidableEq Ctx]

private theorem returns_of_usesBuilt (laws : AllocationLaws Q Ctx (StateObject S))
    (data : AggregateData S V A R U n) (order : EvalOrder n) (s : AggregateSession Q U)
    (e : Ctx × AggregateCallback V) (hs : Sound Ctx S s) (huse : UsesBuilt data s e) :
    (callback data order e.1 e.2 ⟨s.world, []⟩).outcome = .ok () := by
  obtain ⟨c, e⟩ := e
  cases e with
  | xStep argv =>
    have hdefined := (callStep_booked laws data order argv (t := ⟨s.world, []⟩) hs.booked
      huse).defined
    have hcaught := caught data order s (c, .xStep argv)
    change (data.tracked.callStep order c argv ⟨s.world, []⟩).outcome = .ok ()
    rcases hout : (data.tracked.callStep order c argv ⟨s.world, []⟩).outcome with raised | u
    · cases raised with
      | undefined => exact (hdefined hout).elim
      | exception ex => exact (hcaught ex hout).elim
    · rfl
  | xFinal =>
    have hbuilt : ¬ HalfBuilt S s.world c := fun hhalf => huse hhalf trivial
    obtain ⟨t, hends, -, -⟩ := callFinal_booked laws data (t := ⟨s.world, []⟩) hs.booked hbuilt
    exact hends.outcome

private theorem translated_of_usesBuilt (laws : AllocationLaws Q Ctx (StateObject S))
    (data : AggregateData S V A R U n) (order : EvalOrder n) (s : AggregateSession Q U)
    (e : Ctx × AggregateCallback V) (hs : Sound Ctx S s) (huse : UsesBuilt data s e) :
    Translated data order s e where
  returns := returns_of_usesBuilt laws data order s e hs huse
  passes hok := by
    rw [callback_eq]
    exact (catchToResult_ends_ok ⟨hok, rfl⟩).final
  throws ex hthrows := by
    have hnothing := tried_throwsKeeping data order e.1 e.2 ⟨s.world, []⟩ ex hthrows
    have hnone : results (tried data order e.1 e.2 ⟨s.world, []⟩).final.trace = [] := hnothing
    rw [callback_eq, (catchToResult_ends_error ⟨hthrows, rfl⟩).final, reported, Invocation.noting,
      results_append, hnone]
    rfl

private theorem usesBuilt_of_translated (laws : AllocationLaws Q Ctx (StateObject S))
    (data : AggregateData S V A R U n) (order : EvalOrder n) (s : AggregateSession Q U)
    (e : Ctx × AggregateCallback V) (hs : Sound Ctx S s) (h : Translated data order s e) :
    UsesBuilt data s e := by
  by_contra huse
  have hundefined := callback_undefined laws data order s e hs huse
  cases h.returns.symm.trans hundefined

/-- Along a run every callback translates what is thrown exactly if each of them uses built
states. -/
theorem stepsMeet_translated_iff (laws : AllocationLaws Q Ctx (StateObject S))
    (data : AggregateData S V A R U n) (order : EvalOrder n) {s : AggregateSession Q U}
    (hs : Sound Ctx S s) (es : List (Ctx × AggregateCallback V)) :
    StepsMeet (exec data order) (Translated data order) s es ↔
      StepsMeet (exec data order) (UsesBuilt data) s es := by
  have huses := usesBuilt_of_translated laws data order
  constructor
  · intro h
    exact h.of_invariant (fun s e hs ht => exec_sound laws data order s e hs (huses s e hs ht))
      huses hs
  · intro h
    exact h.of_invariant (exec_sound laws data order) (translated_of_usesBuilt laws data order) hs

end Translation

end AggregateSession

end Aggregates

open Callbacks Connection in
/-- Every C function the library calls returns to it, and what is thrown in it is reported, made the
result or kept once. Of the aggregate callbacks this holds exactly in the runs in which none of them
gets as far as a state whose construction threw; an exception comes out of none of them even so. -/
theorem exceptions_contained_iff {Q Ctx S V A R U : Type} {n : Nat}
    [api : AggregateApi Q Ctx (StateObject S)] [DecidableEq Ctx]
    (laws : AllocationLaws Q Ctx (StateObject S)) (data : AggregateData S V A R U n)
    (order : EvalOrder n) {sqlite : Q} (hfresh : ∀ c : Ctx, api.block sqlite c = none) (user : U)
    (es : List (Ctx × AggregateCallback V)) :
    (∀ (c : HandlerCall U) s, GuardedEnds c.userCall c.cbname c.fallback c.entry s) ∧
      (∀ (Row : Type) (fn : ExecHandler U Row) row ctx, Prog.Ends (sqxxCallExecHandler fn row) ctx
        (.ok (if goesOn (fn row ctx.user).1 then 0 else 1)) (afterRow fn row ctx)) ∧
      (∀ (f : Callable V A R n) (argv : List V), ∃ trace, DispatchMeets f argv trace ∧
        (∀ s, Prog.Ends (functionCallStaticfptr f order argv) s (.ok ()) (s.noting trace)) ∧
        ∀ s, s.world = some f →
          Prog.Ends (functionCallPtr order argv) s (.ok ()) (s.noting trace)) ∧
      (∀ (s : AggregateSession Q U) (e : Ctx × AggregateCallback V),
        AggregateSession.Caught data order s e) ∧
      (StepsMeet (AggregateSession.exec data order) (AggregateSession.Translated data order)
          (.start sqlite user) es ↔
        StepsMeet (AggregateSession.exec data order) (AggregateSession.UsesBuilt data)
          (.start sqlite user) es) := by
  refine ⟨HandlerCall.entry_ends, fun _ => sqxxCallExecHandler_ends, ?_,
    AggregateSession.caught data order, ?_⟩
  · intro f argv
    obtain ⟨trace, hmeets, hends⟩ := staticfptr_ends f order argv
    refine ⟨trace, hmeets, hends, ?_⟩
    intro s hs
    have hsame := functionCallPtr_eq order argv hs
    constructor
    · rw [hsame, (hends s).outcome]
    · rw [hsame, (hends s).final]
  · exact AggregateSession.stepsMeet_translated_iff laws data order
      (AggregateSession.sound_start hfresh user) es

/-- Two groups; in one of them the step function throws and then the final function does. -/
theorem exceptions_contained_iff_groups :
    let es : List (Nat × AggregateCallback Int) :=
      [(0, .xStep [11]), (1, .xStep [-5]), (0, .xStep [22]), (1, .xFinal), (0, .xFinal)]
    StepsMeet (AggregateSession.exec (throwingSum false) (.leftToRight 1))
        (AggregateSession.Translated (throwingSum false) (.leftToRight 1))
        (.start noBlocks ()) es ↔
      StepsMeet (AggregateSession.exec (throwingSum false) (.leftToRight 1))
        (AggregateSession.UsesBuilt (throwingSum false)) (.start noBlocks ()) es :=
  (exceptions_contained_iff allocationLaws_blockTable _ _ (fun _ => rfl) _ _).2.2.2.2

/-- The copy of the zero state throws on the only row, which is translated; the final callback then
does not return. -/
theorem final_of_half_built_not_returning :
    ¬ StepsMeet (AggregateSession.exec (throwingSum true) (.leftToRight 1))
      (AggregateSession.Translated (throwingSum true) (.leftToRight 1)) (.start noBlocks ())
      [((0 : Nat), .xStep [11]), (0, .xFinal)] := by
  intro h
  have hreturns := h.2.1.returns
  exact absurd hreturns (by decide)

end Sqxx
