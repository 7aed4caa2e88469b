import Sqxx.Function.Callback

/-!
# Scalar functions

The two callbacks through which the library calls a scalar function: `function_call_ptr` finds the
callable in the user data of the context, `function_call_staticfptr` has it as a template argument.
-/

namespace Sqxx
open Framework

/-- A callable of `n` parameters: the conversion each one asks for, and what the call does.  A
callback makes each of these calls at most once, so one value per input is every behaviour. -/
structure Callable (V A R : Type) (n : Nat) where
  convert : Fin n → V → Except Exn A
  body : List.Vector A n → Except Exn R

variable {V A R : Type} {n : Nat}

/-- The state of one scalar callback: its world is the user data of the context. -/
abbrev ScalarCall (V A R : Type) (n : Nat) := Invocation (Option (Callable V A R n)) A R

namespace Callable

def call (f : Callable V A R n) (order : EvalOrder n) (vals : List.Vector V n) :
    Cxx (ScalarCall V A R n) R :=
  invoke order f.convert (fun args =>
    match f.body args with
    | .ok r => pure r
    | .error e => Cxx.throw e) vals

end Callable

def functionCallPtr (order : EvalOrder n) (argv : List V) : Cxx (ScalarCall V A R n) Unit := do
  let callable ← Prog.reading (·.world)
  catchToResult do
    if argv.length ≠ n then
      Context.resultErrorMisuse
    else
      match callable with
      | none => Cxx.undefined
      | some callable =>
        let r ← applyValueArray n (callable.call order) argv
        Context.result r

def functionCallStaticfptr (Fun : Callable V A R n) (order : EvalOrder n) (argv : List V) :
    Cxx (ScalarCall V A R n) Unit :=
  catchToResult do
    if argv.length ≠ n then
      Context.resultErrorMisuse
    else
      let r ← applyValueArray n (Fun.call order) argv
      Context.result r

def SqlResult.ofOutcome : Except Exn R → SqlResult R
  | .ok r => .value r
  | .error e => .ofExn e

/-- What a call of the SQL function owes: with the wrong number of values nothing happens but the
misuse error; with the right number each value is read once, in order, and either the callable
is called once on all their conversions and its outcome is the one result, or a conversion throws,
the callable is not called, and that exception is the one result. -/
structure DispatchMeets (f : Callable V A R n) (argv : List V) (trace : List (Effect A R)) :
    Prop where
  misuse : argv.length ≠ n → trace = [.result (.errorCode SQLITE_MISUSE)]
  reads : argv.length = n → reads trace = List.range n
  called : ∀ (hlen : argv.length = n) (args : List.Vector A n),
    (∀ i, f.convert i (List.Vector.get ⟨argv, hlen⟩ i) = .ok (args.get i)) →
      calls trace = [args.toList] ∧ results trace = [.ofOutcome (f.body args)]
  notCalled : ∀ hlen : argv.length = n,
    (∃ i e, f.convert i (List.Vector.get ⟨argv, hlen⟩ i) = .error e) →
      calls trace = [] ∧ ∃ i e, f.convert i (List.Vector.get ⟨argv, hlen⟩ i) = .error e ∧
        results trace = [.ofExn e]

private theorem staticfptr_misuse_ends {f : Callable V A R n} {order : EvalOrder n} {argv : List V}
    (hlen : argv.length ≠ n) (s : ScalarCall V A R n) :
    Prog.Ends (functionCallStaticfptr f order argv) s (.ok ())
      (s.noting [.result (.errorCode SQLITE_MISUSE)]) := by
  apply catchToResult_ends_ok
  rw [if_pos hlen]
  exact note_ends _ s

private theorem staticfptr_called_ends {f : Callable V A R n} {order : EvalOrder n} {argv : List V}
    (hlen : argv.length = n) {args : List.Vector A n}
    (hargs : ∀ i, f.convert i (List.Vector.get ⟨argv, hlen⟩ i) = .ok (args.get i))
    (s : ScalarCall V A R n) :
    Prog.Ends (functionCallStaticfptr f order argv) s (.ok ())
      (s.noting ((List.range n).map .read ++ conversions order.order ++
        [.call args.toList, .result (.ofOutcome (f.body args))])) := by
  rw [functionCallStaticfptr, if_neg (not_not.mpr hlen)]
  let before := (s.noting ((List.range n).map .read)).noting
    (conversions order.order ++ [.call args.toList])
  have hbefore : ∀ r, before.noting [.result r] = s.noting ((List.range n).map .read ++
      conversions order.order ++ [.call args.toList, .result r]) := by
    intro r
    simp [before]
  rw [← hbefore]
  rcases hbody : f.body args with e | r
  · apply catchToResult_ends_error
    apply Prog.Ends.bind_error
    apply applyValueArray_ends hlen
    apply invoke_ends_ok order hargs
    rw [hbody]
    exact Prog.Ends.raise _ _
  · have hcall : Prog.Ends (applyValueArray n (f.call order) argv) s (.ok r) before := by
      apply applyValueArray_ends hlen
      apply invoke_ends_ok order hargs
      rw [hbody]
      exact Prog.Ends.pure _ _
    apply catchToResult_ends_ok
    apply hcall.bind
    exact note_ends _ before

private theorem staticfptr_notCalled_ends {f : Callable V A R n} {order : EvalOrder n}
    {argv : List V} (hlen : argv.length = n) {done rest : List (Fin n)} {i : Fin n} {e : Exn}
    (horder : order.order = done ++ i :: rest)
    (hdone : ∀ j ∈ done, ∃ a, f.convert j (List.Vector.get ⟨argv, hlen⟩ j) = .ok a)
    (hi : f.convert i (List.Vector.get ⟨argv, hlen⟩ i) = .error e) (s : ScalarCall V A R n) :
    Prog.Ends (functionCallStaticfptr f order argv) s (.ok ())
      (s.noting ((List.range n).map .read ++ conversions (done ++ [i]) ++
        [.result (.ofExn e)])) := by
  rw [functionCallStaticfptr, if_neg (not_not.mpr hlen)]
  have hthrow : Prog.Ends (applyValueArray n (f.call order) argv) s (.error (.exception e))
      ((s.noting ((List.range n).map .read)).noting (conversions (done ++ [i]))) := by
    apply applyValueArray_ends hlen
    exact invoke_ends_error order horder hdone hi _
  have hcaught := catchToResult_ends_error
    (Prog.Ends.bind_error (f := fun r => Context.result r) hthrow)
  simpa using hcaught

private theorem dispatchMeets_misuse {f : Callable V A R n} {argv : List V}
    (hlen : argv.length ≠ n) :
    DispatchMeets f argv [.result (.errorCode SQLITE_MISUSE)] where
  misuse _ := rfl
  reads h := absurd h hlen
  called h := absurd h hlen
  notCalled h := absurd h hlen

private theorem dispatchMeets_called {f : Callable V A R n} {argv : List V} (order : EvalOrder n)
    (hlen : argv.length = n) {args : List.Vector A n}
    (hargs : ∀ i, f.convert i (List.Vector.get ⟨argv, hlen⟩ i) = .ok (args.get i)) :
    DispatchMeets f argv ((List.range n).map .read ++ conversions order.order ++
      [.call args.toList, .result (.ofOutcome (f.body args))]) where
  misuse h := absurd hlen h
  reads _ := by
    rw [reads_append, reads_append, reads_map_read, reads_conversions]
    simp [Sqxx.reads]
  called _ args' hargs' := by
    have hsame : args' = args := by
      apply List.Vector.ext
      intro i
      exact Except.ok.inj ((hargs' i).symm.trans (hargs i))
    subst hsame
    rw [calls_append, calls_append, calls_map_read, calls_conversions]
    rw [results_append, results_append, results_map_read, results_conversions]
    exact ⟨rfl, rfl⟩
  notCalled _ hthrow := by
    obtain ⟨i, e, hi⟩ := hthrow
    cases (hargs i).symm.trans hi

private theorem dispatchMeets_notCalled {f : Callable V A R n} {argv : List V} (done : List (Fin n))
    (hlen : argv.length = n) {i : Fin n} {e : Exn}
    (hi : f.convert i (List.Vector.get ⟨argv, hlen⟩ i) = .error e) :
    DispatchMeets f argv ((List.range n).map .read ++ conversions (done ++ [i]) ++
      [.result (.ofExn e)]) where
  misuse h := absurd hlen h
  reads _ := by
    rw [reads_append, reads_append, reads_map_read, reads_conversions]
    simp [Sqxx.reads]
  called _ args hargs := by
    cases (hargs i).symm.trans hi
  notCalled _ _ := by
    rw [calls_append, calls_append, calls_map_read, calls_conversions]
    rw [results_append, results_append, results_map_read, results_conversions]
    exact ⟨rfl, i, e, hi, rfl⟩

theorem staticfptr_ends (f : Callable V A R n) (order : EvalOrder n) (argv : List V) :
    ∃ trace, DispatchMeets f argv trace ∧ ∀ s,
      Prog.Ends (functionCallStaticfptr f order argv) s (.ok ()) (s.noting trace) := by
  by_cases hlen : argv.length = n
  · rcases converted_or_throws f.convert ⟨argv, hlen⟩ order with
      ⟨args, hargs⟩ | ⟨done, rest, i, e, horder, hdone, hi⟩
    · exact ⟨_, dispatchMeets_called order hlen hargs, staticfptr_called_ends hlen hargs⟩
    · exact ⟨_, dispatchMeets_notCalled done hlen hi,
        staticfptr_notCalled_ends hlen horder hdone hi⟩
  · exact ⟨_, dispatchMeets_misuse hlen, staticfptr_misuse_ends hlen⟩

theorem functionCallPtr_eq {f : Callable V A R n} (order : EvalOrder n) (argv : List V)
    {s : ScalarCall V A R n} (hs : s.world = some f) :
    functionCallPtr order argv s = functionCallStaticfptr f order argv s := by
  rw [functionCallPtr, Prog.bind_run, Prog.reading_run, hs, Exec.andThen_ok, Exec.prepend_nil]
  rfl

/-- Both callbacks return to the library and have the same effect, which is the one a call of the
SQL function owes. -/
theorem functionCall_meets (f : Callable V A R n) (order : EvalOrder n) (argv : List V) :
    let ptr := functionCallPtr order argv ⟨some f, []⟩
    let staticfptr := functionCallStaticfptr f order argv ⟨none, []⟩
    ptr.outcome = .ok () ∧ staticfptr.outcome = .ok () ∧
      ptr.final.trace = staticfptr.final.trace ∧ DispatchMeets f argv ptr.final.trace := by
  intro ptr staticfptr
  obtain ⟨trace, hmeets, hends⟩ := staticfptr_ends f order argv
  have hptr : ptr = functionCallStaticfptr f order argv ⟨some f, []⟩ :=
    functionCallPtr_eq order argv rfl
  have htrace : ptr.final.trace = trace := by
    rw [hptr, (hends _).final]
    exact List.nil_append trace
  have hstatic : staticfptr.final.trace = trace := by
    rw [(hends _).final]
    exact List.nil_append trace
  refine ⟨?_, (hends _).outcome, htrace.trans hstatic.symm, ?_⟩
  · rw [hptr, (hends _).outcome]
  · rwa [htrace]

end Sqxx
