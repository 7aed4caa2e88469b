import Mathlib.Data.List.Basic

/-!
# Programs with effects, exceptions and visible intermediate states

A program acts on a state, may throw, and reports every state its effects pass through.  The last
point lets a property be required at every instant of an operation and not only between
operations: a callback registered with foreign code can be invoked in the middle of one.
-/

namespace Framework

universe u

/-- One execution: how it ended, the state it left, and the states its effects produced. -/
structure Exec (σ ε α : Type u) where
  outcome : Except ε α
  final : σ
  visited : List σ

def Prog (σ ε α : Type u) : Type u := σ → Exec σ ε α

variable {σ ε α β : Type u}

namespace Exec

def prepend (before : List σ) (r : Exec σ ε α) : Exec σ ε α :=
  ⟨r.outcome, r.final, before ++ r.visited⟩

/-- Continue a returned value; a throw skips the rest. -/
def andThen (r : Exec σ ε α) (f : α → Prog σ ε β) : Exec σ ε β :=
  match r.outcome with
  | .ok a => (f a r.final).prepend r.visited
  | .error e => ⟨.error e, r.final, r.visited⟩

/-- Run a handler on a throw; a returned value skips it. -/
def orElse (r : Exec σ ε α) (handler : ε → Prog σ ε α) : Exec σ ε α :=
  match r.outcome with
  | .ok _ => r
  | .error e => (handler e r.final).prepend r.visited

@[simp] theorem prepend_nil (r : Exec σ ε α) : r.prepend [] = r := rfl

@[simp] theorem prepend_outcome (vs : List σ) (r : Exec σ ε α) :
    (r.prepend vs).outcome = r.outcome := rfl

@[simp] theorem prepend_final (vs : List σ) (r : Exec σ ε α) :
    (r.prepend vs).final = r.final := rfl

@[simp] theorem prepend_visited (vs : List σ) (r : Exec σ ε α) :
    (r.prepend vs).visited = vs ++ r.visited := rfl

@[simp] theorem andThen_ok (a : α) (s : σ) (vs : List σ) (f : α → Prog σ ε β) :
    (Exec.mk (.ok a) s vs).andThen f = (f a s).prepend vs := rfl

@[simp] theorem andThen_error (e : ε) (s : σ) (vs : List σ) (f : α → Prog σ ε β) :
    (Exec.mk (.error e) s vs).andThen f = ⟨.error e, s, vs⟩ := rfl

@[simp] theorem orElse_ok (a : α) (s : σ) (vs : List σ) (h : ε → Prog σ ε α) :
    (Exec.mk (.ok a) s vs).orElse h = ⟨.ok a, s, vs⟩ := rfl

@[simp] theorem orElse_error (e : ε) (s : σ) (vs : List σ) (h : ε → Prog σ ε α) :
    (Exec.mk (.error e) s vs).orElse h = (h e s).prepend vs := rfl

end Exec

namespace Prog

instance : Monad (Prog σ ε) where
  pure a := fun s => ⟨.ok a, s, []⟩
  bind x f := fun s => (x s).andThen f

/-- One atomic effect with a result. -/
def effect (f : σ → α × σ) : Prog σ ε α := fun s => ⟨.ok (f s).1, (f s).2, [(f s).2]⟩

def perform (f : σ → σ) : Prog σ ε PUnit := effect fun s => (⟨⟩, f s)

def reading (f : σ → α) : Prog σ ε α := fun s => ⟨.ok (f s), s, []⟩

def raise (e : ε) : Prog σ ε α := fun s => ⟨.error e, s, []⟩

def catching (x : Prog σ ε α) (handler : ε → Prog σ ε α) : Prog σ ε α :=
  fun s => (x s).orElse handler

@[simp] theorem pure_run (a : α) (s : σ) : (pure a : Prog σ ε α) s = ⟨.ok a, s, []⟩ := rfl

@[simp] theorem bind_run (x : Prog σ ε α) (f : α → Prog σ ε β) (s : σ) :
    (x >>= f) s = (x s).andThen f := rfl

@[simp] theorem effect_run (f : σ → α × σ) (s : σ) :
    (effect f : Prog σ ε α) s = ⟨.ok (f s).1, (f s).2, [(f s).2]⟩ := rfl

@[simp] theorem perform_run (f : σ → σ) (s : σ) :
    (perform f : Prog σ ε PUnit) s = ⟨.ok ⟨⟩, f s, [f s]⟩ := rfl

@[simp] theorem reading_run (f : σ → α) (s : σ) :
    (reading f : Prog σ ε α) s = ⟨.ok (f s), s, []⟩ := rfl

@[simp] theorem catching_run (x : Prog σ ε α) (h : ε → Prog σ ε α) (s : σ) :
    x.catching h s = (x s).orElse h := rfl

/-- Run from `s`, `x` ends with `o` in the state `t`. -/
structure Ends (x : Prog σ ε α) (s : σ) (o : Except ε α) (t : σ) : Prop where
  outcome : (x s).outcome = o
  final : (x s).final = t

namespace Ends

theorem pure (a : α) (s : σ) : Ends (Pure.pure a : Prog σ ε α) s (.ok a) s := ⟨rfl, rfl⟩

theorem perform (f : σ → σ) (s : σ) : Ends (Prog.perform f : Prog σ ε PUnit) s (.ok ⟨⟩) (f s) :=
  ⟨rfl, rfl⟩

theorem effect (f : σ → α × σ) (s : σ) :
    Ends (Prog.effect f : Prog σ ε α) s (.ok (f s).1) (f s).2 := ⟨rfl, rfl⟩

theorem reading (f : σ → α) (s : σ) : Ends (Prog.reading f : Prog σ ε α) s (.ok (f s)) s :=
  ⟨rfl, rfl⟩

theorem raise (e : ε) (s : σ) : Ends (Prog.raise e : Prog σ ε α) s (.error e) s := ⟨rfl, rfl⟩

theorem bind {x : Prog σ ε α} {f : α → Prog σ ε β} {s t u : σ} {a : α} {o : Except ε β}
    (hx : Ends x s (.ok a) t) (hf : Ends (f a) t o u) : Ends (x >>= f) s o u := by
  obtain ⟨hout, hfin⟩ := hx
  rcases hrun : x s with ⟨outcome, final, visited⟩
  rw [hrun] at hout hfin
  cases hout
  cases hfin
  constructor
  · rw [bind_run, hrun, Exec.andThen_ok, Exec.prepend_outcome, hf.outcome]
  · rw [bind_run, hrun, Exec.andThen_ok, Exec.prepend_final, hf.final]

theorem bind_error {x : Prog σ ε α} {f : α → Prog σ ε β} {s t : σ} {e : ε}
    (hx : Ends x s (.error e) t) : Ends (x >>= f) s (.error e) t := by
  obtain ⟨hout, hfin⟩ := hx
  rcases hrun : x s with ⟨outcome, final, visited⟩
  rw [hrun] at hout hfin
  cases hout
  cases hfin
  constructor
  · rw [bind_run, hrun, Exec.andThen_error]
  · rw [bind_run, hrun, Exec.andThen_error]

theorem catching_ok {x : Prog σ ε α} {handler : ε → Prog σ ε α} {s t : σ} {a : α}
    (hx : Ends x s (.ok a) t) : Ends (x.catching handler) s (.ok a) t := by
  obtain ⟨hout, hfin⟩ := hx
  rcases hrun : x s with ⟨outcome, final, visited⟩
  rw [hrun] at hout hfin
  cases hout
  cases hfin
  constructor
  · rw [catching_run, hrun, Exec.orElse_ok]
  · rw [catching_run, hrun, Exec.orElse_ok]

theorem catching_error {x : Prog σ ε α} {handler : ε → Prog σ ε α} {s t u : σ} {e : ε}
    {o : Except ε α} (hx : Ends x s (.error e) t) (hh : Ends (handler e) t o u) :
    Ends (x.catching handler) s o u := by
  obtain ⟨hout, hfin⟩ := hx
  rcases hrun : x s with ⟨outcome, final, visited⟩
  rw [hrun] at hout hfin
  cases hout
  cases hfin
  constructor
  · rw [catching_run, hrun, Exec.orElse_error, Exec.prepend_outcome, hh.outcome]
  · rw [catching_run, hrun, Exec.orElse_error, Exec.prepend_final, hh.final]

end Ends

/-- `x` ends so, and `inv` holds in every state it passes through. -/
structure Through (inv : σ → Prop) (x : Prog σ ε α) (s : σ) (o : Except ε α) (t : σ) : Prop
    extends Ends x s o t where
  instants : ∀ v ∈ (x s).visited, inv v

namespace Through

variable {inv : σ → Prop}

theorem pure (a : α) (s : σ) : Through inv (Pure.pure a : Prog σ ε α) s (.ok a) s where
  toEnds := Ends.pure a s
  instants v hv := by cases hv

theorem reading (f : σ → α) (s : σ) :
    Through inv (Prog.reading f : Prog σ ε α) s (.ok (f s)) s where
  toEnds := Ends.reading f s
  instants v hv := by cases hv

theorem effect {f : σ → α × σ} {s : σ} (hinv : inv (f s).2) :
    Through inv (Prog.effect f : Prog σ ε α) s (.ok (f s).1) (f s).2 where
  toEnds := Ends.effect f s
  instants _ hv := List.mem_singleton.mp hv ▸ hinv

theorem perform {f : σ → σ} {s : σ} (hinv : inv (f s)) :
    Through inv (Prog.perform f : Prog σ ε PUnit) s (.ok ⟨⟩) (f s) :=
  effect (f := fun s => (PUnit.unit, f s)) hinv

theorem bind {x : Prog σ ε α} {f : α → Prog σ ε β} {s t u : σ} {a : α} {o : Except ε β}
    (hx : Through inv x s (.ok a) t) (hf : Through inv (f a) t o u) :
    Through inv (x >>= f) s o u where
  toEnds := hx.toEnds.bind hf.toEnds
  instants v hv := by
    obtain ⟨⟨hout, hfin⟩, hins⟩ := hx
    rcases hrun : x s with ⟨outcome, final, visited⟩
    rw [hrun] at hout hfin hins
    cases hout
    cases hfin
    rw [bind_run, hrun, Exec.andThen_ok, Exec.prepend_visited] at hv
    rcases List.mem_append.mp hv with hv | hv
    · exact hins v hv
    · exact hf.instants v hv

theorem catching_ok {x : Prog σ ε α} {handler : ε → Prog σ ε α} {s t : σ} {a : α}
    (hx : Through inv x s (.ok a) t) : Through inv (x.catching handler) s (.ok a) t where
  toEnds := hx.toEnds.catching_ok
  instants v hv := by
    obtain ⟨⟨hout, -⟩, hins⟩ := hx
    rcases hrun : x s with ⟨outcome, final, visited⟩
    rw [hrun] at hout hins
    cases hout
    rw [catching_run, hrun, Exec.orElse_ok] at hv
    exact hins v hv

end Through

/-- Run from any state, `x` leaves what `p` observes of the state as it was. -/
def Keeps {κ : Type*} (p : σ → κ) (x : Prog σ ε α) : Prop := ∀ s, p (x s).final = p s

namespace Keeps

variable {κ : Type*} {p : σ → κ}

theorem pure (a : α) : Keeps p (Pure.pure a : Prog σ ε α) := fun _ => rfl

theorem reading (f : σ → α) : Keeps p (Prog.reading f : Prog σ ε α) := fun _ => rfl

theorem raise (e : ε) : Keeps p (Prog.raise e : Prog σ ε α) := fun _ => rfl

theorem effect {f : σ → α × σ} (hf : ∀ s, p (f s).2 = p s) :
    Keeps p (Prog.effect f : Prog σ ε α) := hf

theorem bind {x : Prog σ ε α} {f : α → Prog σ ε β} (hx : Keeps p x) (hf : ∀ a, Keeps p (f a)) :
    Keeps p (x >>= f) := by
  intro s
  have hfirst := hx s
  rcases hrun : x s with ⟨outcome, final, visited⟩
  rw [hrun] at hfirst
  rw [bind_run, hrun]
  cases outcome with
  | ok a => exact (hf a final).trans hfirst
  | error e => exact hfirst

end Keeps

/-- From related states the two programs end alike and in related states. -/
def Related {τ : Type u} (R : σ → τ → Prop) (x : Prog σ ε α) (y : Prog τ ε α) : Prop :=
  ∀ s t, R s t → (x s).outcome = (y t).outcome ∧ R (x s).final (y t).final

namespace Related

variable {τ : Type u} {R : σ → τ → Prop}

theorem pure (a : α) :
    Related R (Pure.pure a : Prog σ ε α) (Pure.pure a : Prog τ ε α) := by
  intro s t hst
  exact ⟨rfl, hst⟩

theorem raise (e : ε) : Related R (Prog.raise e : Prog σ ε α) (Prog.raise e : Prog τ ε α) := by
  intro s t hst
  exact ⟨rfl, hst⟩

theorem effect {f : σ → α × σ} {g : τ → α × τ}
    (hfg : ∀ s t, R s t → (f s).1 = (g t).1 ∧ R (f s).2 (g t).2) :
    Related R (Prog.effect f : Prog σ ε α) (Prog.effect g : Prog τ ε α) := by
  intro s t hst
  obtain ⟨hvalue, hstate⟩ := hfg s t hst
  exact ⟨congrArg Except.ok hvalue, hstate⟩

theorem bind {x : Prog σ ε α} {y : Prog τ ε α} {f : α → Prog σ ε β} {g : α → Prog τ ε β}
    (hxy : Related R x y) (hfg : ∀ a, Related R (f a) (g a)) :
    Related R (x >>= f) (y >>= g) := by
  intro s t hst
  obtain ⟨hout, hfin⟩ := hxy s t hst
  rcases hx : x s with ⟨outcome, final, visited⟩
  rcases hy : y t with ⟨outcome', final', visited'⟩
  rw [hx, hy] at hout hfin
  cases hout
  rw [bind_run, bind_run, hx, hy]
  cases outcome with
  | ok a => exact hfg a final final' hfin
  | error e => exact ⟨rfl, hfin⟩

end Related

end Prog

end Framework
