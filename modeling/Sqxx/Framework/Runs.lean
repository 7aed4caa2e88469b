import Mathlib.Data.List.Basic

/-!
# Runs of a labelled machine

A machine is a step function: an event takes a state to the next one.  A property of the states a
run passes through is derived here once from what one step does, so that each safety result
supplies only its step lemma.
-/

namespace Framework

variable {σ ε : Type*}

/-- The state after the events of `es`, taken in order from `s`. -/
def run (step : σ → ε → σ) (s : σ) (es : List ε) : σ := es.foldl step s

@[simp] theorem run_nil (step : σ → ε → σ) (s : σ) : run step s [] = s := rfl

@[simp] theorem run_cons (step : σ → ε → σ) (s : σ) (e : ε) (es : List ε) :
    run step s (e :: es) = run step (step s e) es := rfl

/-- `p` holds in every state the run passes through, the first and the last included. -/
def Always (step : σ → ε → σ) (p : σ → Prop) : σ → List ε → Prop
  | s, [] => p s
  | s, e :: es => p s ∧ Always step p (step s e) es

/-- Every event of the run meets `ok` in the state it is taken from. -/
def StepsMeet (step : σ → ε → σ) (ok : σ → ε → Prop) : σ → List ε → Prop
  | _, [] => True
  | s, e :: es => ok s e ∧ StepsMeet step ok (step s e) es

theorem Always.head {step : σ → ε → σ} {p : σ → Prop} {s : σ} {es : List ε}
    (h : Always step p s es) : p s := by
  cases es with
  | nil => exact h
  | cons e es => exact h.1

/-- The recursive reading of `Always` is the one over prefixes. -/
theorem always_iff_forall (step : σ → ε → σ) (p : σ → Prop) (s : σ) (es : List ε) :
    Always step p s es ↔ ∀ pre, pre <+: es → p (run step s pre) := by
  induction es generalizing s with
  | nil =>
    constructor
    · intro h pre hpre
      obtain rfl := List.prefix_nil.mp hpre
      exact h
    · intro h
      exact h [] List.nil_prefix
  | cons e es ih =>
    rw [Always, ih]
    constructor
    · rintro ⟨hs, htail⟩ pre hpre
      cases pre with
      | nil => exact hs
      | cons f pre =>
        obtain ⟨rfl, hrest⟩ := List.cons_prefix_cons.mp hpre
        exact htail pre hrest
    · intro h
      refine ⟨h [] List.nil_prefix, ?_⟩
      intro pre hpre
      exact h (e :: pre) (List.cons_prefix_cons.mpr ⟨rfl, hpre⟩)

theorem Always.imp {step : σ → ε → σ} {p q : σ → Prop} {s : σ} {es : List ε}
    (h : Always step p s es) (hpq : ∀ s, p s → q s) : Always step q s es := by
  induction es generalizing s with
  | nil => exact hpq s h
  | cons e es ih => exact ⟨hpq s h.1, ih h.2⟩

theorem Always.last {step : σ → ε → σ} {p : σ → Prop} {s : σ} {es : List ε}
    (h : Always step p s es) : p (run step s es) :=
  (always_iff_forall step p s es).mp h es List.prefix_rfl

theorem StepsMeet.imp {step : σ → ε → σ} {ok ok' : σ → ε → Prop} {s : σ} {es : List ε}
    (h : StepsMeet step ok s es) (himp : ∀ s e, ok s e → ok' s e) : StepsMeet step ok' s es := by
  induction es generalizing s with
  | nil => trivial
  | cons e es ih => exact ⟨himp s e h.1, ih h.2⟩

theorem StepsMeet.and {step : σ → ε → σ} {ok ok' : σ → ε → Prop} {s : σ} {es : List ε}
    (h : StepsMeet step ok s es) (h' : StepsMeet step ok' s es) :
    StepsMeet step (fun s e => ok s e ∧ ok' s e) s es := by
  induction es generalizing s with
  | nil => trivial
  | cons e es ih => exact ⟨⟨h.1, h'.1⟩, ih h.2 h'.2⟩

theorem stepsMeet_of_forall {step : σ → ε → σ} {ok : ε → Prop} {s : σ} {es : List ε}
    (h : ∀ e ∈ es, ok e) : StepsMeet step (fun _ => ok) s es := by
  induction es generalizing s with
  | nil => trivial
  | cons e es ih =>
    obtain ⟨he, hes⟩ := List.forall_mem_cons.mp h
    exact ⟨he, ih hes⟩

/-- An invariant that every step meeting `ok` preserves holds along every run of such steps. -/
theorem always_of_stepsMeet {step : σ → ε → σ} {inv : σ → Prop} {ok : σ → ε → Prop}
    (hstep : ∀ s e, inv s → ok s e → inv (step s e)) {s : σ} {es : List ε}
    (hs : inv s) (hok : StepsMeet step ok s es) : Always step inv s es := by
  induction es generalizing s with
  | nil => exact hs
  | cons e es ih => exact ⟨hs, ih (hstep s e hs hok.1) hok.2⟩

theorem always_of_preserved {step : σ → ε → σ} {inv : σ → Prop}
    (hstep : ∀ s e, inv s → inv (step s e)) {s : σ} (hs : inv s) (es : List ε) :
    Always step inv s es := by
  induction es generalizing s with
  | nil => exact hs
  | cons e es ih => exact ⟨hs, ih (hstep s e hs)⟩

/-- What the steps that meet `ok` from the invariant meet as well. -/
theorem StepsMeet.of_invariant {step : σ → ε → σ} {inv : σ → Prop} {ok ok' : σ → ε → Prop}
    (hstep : ∀ s e, inv s → ok s e → inv (step s e)) (himp : ∀ s e, inv s → ok s e → ok' s e)
    {s : σ} {es : List ε} (hs : inv s) (hok : StepsMeet step ok s es) :
    StepsMeet step ok' s es := by
  induction es generalizing s with
  | nil => trivial
  | cons e es ih => exact ⟨himp s e hs hok.1, ih (hstep s e hs hok.1) hok.2⟩

/-- What every step from the invariant meets, every step of a run meets. -/
theorem stepsMeet_of_preserved {step : σ → ε → σ} {inv : σ → Prop} {ok : σ → ε → Prop}
    (hstep : ∀ s e, inv s → inv (step s e)) (hok : ∀ s e, inv s → ok s e) {s : σ} (hs : inv s)
    (es : List ε) : StepsMeet step ok s es := by
  induction es generalizing s with
  | nil => trivial
  | cons e es ih => exact ⟨hok s e hs, ih (hstep s e hs)⟩

/-- Two conditions that agree in every state of the invariant agree along every run. -/
theorem stepsMeet_iff_of_preserved {step : σ → ε → σ} {inv : σ → Prop} {ok ok' : σ → ε → Prop}
    (hstep : ∀ s e, inv s → inv (step s e)) (hiff : ∀ s e, inv s → (ok s e ↔ ok' s e)) {s : σ}
    (hs : inv s) (es : List ε) : StepsMeet step ok s es ↔ StepsMeet step ok' s es := by
  induction es generalizing s with
  | nil => exact Iff.rfl
  | cons e es ih =>
    rw [StepsMeet, StepsMeet, hiff s e hs, ih (hstep s e hs)]

/-- The exact form, for runs of events that are `allowed`: when `inv` implies `p`, steps meeting
`ok` preserve `inv`, and a step from `inv` that misses `ok` lands outside `p`, then `p` holds along
exactly the runs all of whose steps meet `ok`. -/
theorem always_iff_stepsMeet_of_allowed {step : σ → ε → σ} {inv p : σ → Prop}
    {allowed ok : σ → ε → Prop} (himp : ∀ s, inv s → p s)
    (hstep : ∀ s e, inv s → allowed s e → ok s e → inv (step s e))
    (hmiss : ∀ s e, inv s → allowed s e → ¬ ok s e → ¬ p (step s e)) {s : σ} (hs : inv s)
    {es : List ε} (hallowed : StepsMeet step allowed s es) :
    Always step p s es ↔ StepsMeet step ok s es := by
  constructor
  · intro h
    induction es generalizing s with
    | nil => trivial
    | cons e es ih =>
      have hok : ok s e := by
        by_contra hno
        exact hmiss s e hs hallowed.1 hno h.2.head
      exact ⟨hok, ih (hstep s e hs hallowed.1 hok) hallowed.2 h.2⟩
  · intro h
    have hinv := always_of_stepsMeet (fun s e hs hboth => hstep s e hs hboth.1 hboth.2) hs
      (hallowed.and h)
    exact hinv.imp himp

/-- The form in which every event is allowed. -/
theorem always_iff_stepsMeet {step : σ → ε → σ} {inv p : σ → Prop} {ok : σ → ε → Prop}
    (himp : ∀ s, inv s → p s) (hstep : ∀ s e, inv s → ok s e → inv (step s e))
    (hmiss : ∀ s e, inv s → ¬ ok s e → ¬ p (step s e)) {s : σ} (hs : inv s) (es : List ε) :
    Always step p s es ↔ StepsMeet step ok s es := by
  have hall : StepsMeet step (fun _ _ => True) s es := by
    clear hs
    induction es generalizing s with
    | nil => trivial
    | cons e es ih => exact ⟨trivial, ih⟩
  exact always_iff_stepsMeet_of_allowed himp (fun s e hs _ hok => hstep s e hs hok)
    (fun s e hs _ hno => hmiss s e hs hno) hs hall

end Framework
