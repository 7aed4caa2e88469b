import Sqxx.Framework.Runs
import Mathlib.Data.List.Induction
import Mathlib.Logic.Function.Basic

/-!
# Machines that answer, and what they implement

A machine answers an event and moves on.  It follows a specification that is told the answers, or it
refines a machine that answers by itself.  Both are derived for runs from one step.
-/

namespace Framework

variable {σ τ ε β κ α ω : Type*}

abbrev Machine (σ ε β : Type*) := σ → ε → β × σ

namespace Machine

def next (m : Machine σ ε β) (s : σ) (e : ε) : σ := (m s e).2

/-- The events of a run, each with the answer to it. -/
def history (m : Machine σ ε β) : σ → List ε → List (ε × β)
  | _, [] => []
  | s, e :: es => (e, (m s e).1) :: history m (m.next s e) es

@[simp] theorem history_nil (m : Machine σ ε β) (s : σ) : m.history s [] = [] := rfl

@[simp] theorem history_cons (m : Machine σ ε β) (s : σ) (e : ε) (es : List ε) :
    m.history s (e :: es) = (e, (m s e).1) :: m.history (m.next s e) es := rfl

theorem mem_of_mem_history {m : Machine σ ε β} {s : σ} {es : List ε} {p : ε × β}
    (hp : p ∈ m.history s es) : p.1 ∈ es := by
  induction es generalizing s with
  | nil => cases hp
  | cons e es ih =>
    rcases List.mem_cons.mp hp with rfl | hp
    · exact List.mem_cons_self
    · exact List.mem_cons_of_mem e (ih hp)

/-- Told what the machine answered, the specification stays related to it. -/
theorem follows_run {m : Machine σ ε β} {spec : τ → ε × β → τ} {R : σ → τ → Prop}
    (hstep : ∀ s t e, R s t → R (m.next s e) (spec t (e, (m s e).1))) {s : σ} {t : τ}
    (hst : R s t) (es : List ε) :
    R (run m.next s es) (run spec t (m.history s es)) := by
  induction es generalizing s t with
  | nil => exact hst
  | cons e es ih =>
    rw [history_cons, run_cons, run_cons]
    exact ih (hstep s t e hst)

/-- Where the events are allowed, the two machines answer alike and stay related. -/
theorem refines_run {m : Machine σ ε β} {spec : Machine τ ε β} {R : σ → τ → Prop}
    {ok : τ → ε → Prop} (hstep : ∀ s t e, R s t → ok t e →
      (m s e).1 = (spec t e).1 ∧ R (m.next s e) (spec.next t e)) {s : σ} {t : τ} (hst : R s t)
    {es : List ε} (hok : StepsMeet spec.next ok t es) :
    m.history s es = spec.history t es ∧ R (run m.next s es) (run spec.next t es) := by
  induction es generalizing s t with
  | nil => exact ⟨rfl, hst⟩
  | cons e es ih =>
    obtain ⟨hanswer, hnext⟩ := hstep s t e hst hok.1
    obtain ⟨hhistory, hfinal⟩ := ih hnext hok.2
    rw [history_cons, history_cons, hanswer, hhistory]
    exact ⟨rfl, hfinal⟩

/-- Where an event that is not allowed shows in one machine of a family, all of them answer like the
specification exactly when all events are allowed. -/
theorem refines_run_iff [Nonempty ω] {m : ω → Machine σ ε β} {spec : Machine τ ε β}
    {R : σ → τ → Prop} {ok : τ → ε → Prop} (hstep : ∀ o s t e, R s t → ok t e →
      (m o s e).1 = (spec t e).1 ∧ R ((m o).next s e) (spec.next t e))
    (hshows : ∀ s t e, R s t → ¬ ok t e → ∃ o, ∀ s', R s' t → (m o s' e).1 ≠ (spec t e).1)
    {s : ω → σ} {t : τ} (hst : ∀ o, R (s o) t) (es : List ε) :
    (∀ o, (m o).history (s o) es = spec.history t es) ↔ StepsMeet spec.next ok t es := by
  constructor
  · intro hall
    induction es generalizing s t with
    | nil => trivial
    | cons e es ih =>
      have hok : ok t e := by
        by_contra hno
        obtain ⟨o, hne⟩ := hshows (s (Classical.arbitrary ω)) t e (hst _) hno
        have hsame := congrArg List.head? (hall o)
        simp only [history_cons, List.head?_cons, Option.some.injEq, Prod.mk.injEq] at hsame
        exact hne (s o) (hst o) hsame.2
      refine ⟨hok, ih (fun o => (hstep o (s o) t e (hst o) hok).2) fun o => ?_⟩
      have hrest := congrArg List.tail (hall o)
      exact hrest
  · intro hok o
    exact (refines_run (hstep o) (hst o) hok).1

end Machine

/-- What the steps of a run put out, in order. -/
def emitted (step : σ → ε → σ) (out : σ → ε → List β) : σ → List ε → List β
  | _, [] => []
  | s, e :: es => out s e ++ emitted step out (step s e) es

/-! ## Stores -/

section Stores

variable [DecidableEq κ]

def assign (store : κ → α) (w : κ × α) : κ → α := Function.update store w.1 w.2

/-- What the last assignment to the key was, if there is one. -/
def lastAssigned (k : κ) (ws : List (κ × α)) : Option α := ws.reverse.lookup k

theorem lastAssigned_concat (k : κ) (ws : List (κ × α)) (w : κ × α) :
    lastAssigned k (ws ++ [w]) = if k = w.1 then some w.2 else lastAssigned k ws := by
  rw [lastAssigned, List.reverse_concat, List.lookup_cons]
  by_cases hk : k = w.1
  · simp [hk]
  · have hne : (k == w.1) = false := by simp [hk]
    rw [hne, if_neg hk]
    rfl

theorem mem_of_lastAssigned {k : κ} {ws : List (κ × α)} {a : α}
    (h : lastAssigned k ws = some a) : (k, a) ∈ ws := by
  induction ws using List.reverseRecOn with
  | nil => cases h
  | append_singleton ws w ih =>
    rw [lastAssigned_concat] at h
    split at h
    · case isTrue hk =>
      obtain rfl := Option.some.inj h
      rw [hk]
      exact List.mem_append_right ws List.mem_cons_self
    · exact List.mem_append_left [w] (ih h)

/-- A store holds what was assigned last. -/
theorem run_assign (store : κ → α) (ws : List (κ × α)) (k : κ) :
    run assign store ws k = (lastAssigned k ws).getD (store k) := by
  induction ws using List.reverseRecOn with
  | nil => rfl
  | append_singleton ws w ih =>
    rw [lastAssigned_concat, run, List.foldl_concat]
    change Function.update (run assign store ws) w.1 w.2 k = _
    by_cases hk : k = w.1
    · subst hk
      rw [Function.update_self, if_pos rfl, Option.getD_some]
    · rw [Function.update_of_ne hk, if_neg hk, ih]

/-- A part of the state that each step changes by assignments only. -/
theorem run_assign_emitted {step : σ → ε → σ} {store : σ → κ → α} {out : σ → ε → List (κ × α)}
    (hstep : ∀ s e, store (step s e) = run assign (store s) (out s e)) (s : σ) (es : List ε) :
    store (run step s es) = run assign (store s) (emitted step out s es) := by
  induction es generalizing s with
  | nil => rfl
  | cons e es ih =>
    rw [run_cons, ih, hstep, emitted, run, run, run, List.foldl_append]

end Stores

end Framework
