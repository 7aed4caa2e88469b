import Sqxx.Framework.Runs

/-!
# Interleaved instances

Many instances of one small machine, told apart by a key and driven by one sequence of events.  If
an event touches only the instance of its key, each instance sees its own events and nothing else.
-/

namespace Framework

variable {σ κ ε L : Type*} [DecidableEq κ]

def eventsOf (k : κ) (es : List (κ × ε)) : List ε :=
  es.filterMap fun e => if e.1 = k then some e.2 else none

theorem eventsOf_cons_self (k : κ) (e : ε) (es : List (κ × ε)) :
    eventsOf k ((k, e) :: es) = e :: eventsOf k es := by
  simp [eventsOf]

theorem eventsOf_cons_of_ne {j k : κ} (h : j ≠ k) (e : ε) (es : List (κ × ε)) :
    eventsOf k ((j, e) :: es) = eventsOf k es := by
  simp [eventsOf, h]

/-- From states in `inv`, an event changes the instance of its key as `δ` does and no other. -/
structure Interleaves (step : σ → κ × ε → σ) (inv : σ → Prop) (view : σ → κ → L)
    (δ : L → ε → L) : Prop where
  preserved : ∀ s e, inv s → inv (step s e)
  own : ∀ s k e, inv s → view (step s (k, e)) k = δ (view s k) e
  other : ∀ s k e j, inv s → j ≠ k → view (step s (k, e)) j = view s j

omit [DecidableEq κ] in
theorem Interleaves.inv_run {step : σ → κ × ε → σ} {inv : σ → Prop} {view : σ → κ → L}
    {δ : L → ε → L} (h : Interleaves step inv view δ) {s : σ} (hs : inv s) (es : List (κ × ε)) :
    inv (run step s es) :=
  (always_of_preserved h.preserved hs es).last

/-- What an instance is after a run depends on its own events alone. -/
theorem Interleaves.view_run {step : σ → κ × ε → σ} {inv : σ → Prop} {view : σ → κ → L}
    {δ : L → ε → L} (h : Interleaves step inv view δ) {s : σ} (hs : inv s) (es : List (κ × ε))
    (k : κ) : view (run step s es) k = run δ (view s k) (eventsOf k es) := by
  induction es generalizing s with
  | nil => rfl
  | cons e es ih =>
    obtain ⟨j, e⟩ := e
    rw [run_cons, ih (h.preserved s (j, e) hs)]
    by_cases hj : j = k
    · subst hj
      rw [eventsOf_cons_self, run_cons, h.own s j e hs]
    · rw [eventsOf_cons_of_ne hj, h.other s j e k hs (Ne.symm hj)]

end Framework
