import Sqxx.Framework.Programs

/-!
# Functions that call each other

The bodies of a family of functions are code with calls of members of the family.  A call returns
if some depth of the stack suffices for it, and how it ends does not depend on the depth then.
-/

namespace Framework

universe u

/-- The body of a function: effects, calls and a value. A call of `k` is for a value of type
`ρ k`. -/
inductive Code (κ : Type u) (ρ : κ → Type u) (σ ε α : Type u) : Type (u + 1)
  | pure (a : α)
  | act {β : Type u} (x : Prog σ ε β) (next : β → Code κ ρ σ ε α)
  | call (k : κ) (next : ρ k → Code κ ρ σ ε α)

/-- What a call gives in some state; nothing if the stack is not deep enough for it. -/
abbrev Calls (κ : Type u) (ρ : κ → Type u) (σ ε : Type u) : Type u :=
  (k : κ) → σ → Option (Exec σ ε (ρ k))

variable {κ : Type u} {ρ : κ → Type u} {σ ε α β : Type u}

def Exec.follow (r : Exec σ ε α) (f : α → σ → Option (Exec σ ε β)) : Option (Exec σ ε β) :=
  match r.outcome with
  | .ok a => (f a r.final).map (·.prepend r.visited)
  | .error e => some ⟨.error e, r.final, r.visited⟩

theorem Exec.follow_some (r : Exec σ ε α) (f : α → Prog σ ε β) :
    (r.follow fun a s => some (f a s)) = some (r.andThen f) := by
  rcases r with ⟨outcome, final, visited⟩
  cases outcome with
  | ok a => rfl
  | error e => rfl

theorem Exec.follow_mono {r : Exec σ ε α} {f g : α → σ → Option (Exec σ ε β)}
    (hfg : ∀ a s r', f a s = some r' → g a s = some r') {r' : Exec σ ε β}
    (h : r.follow f = some r') : r.follow g = some r' := by
  rcases r with ⟨outcome, final, visited⟩
  cases outcome with
  | ok a =>
    obtain ⟨rest, hrest, hr'⟩ := Option.map_eq_some_iff.mp h
    exact Option.map_eq_some_iff.mpr ⟨rest, hfg a final rest hrest, hr'⟩
  | error e => exact h

theorem Prog.bind_pure (x : Prog σ ε α) : (x >>= fun a => Pure.pure a) = x := by
  funext s
  rw [bind_run]
  rcases x s with ⟨outcome, final, visited⟩
  cases outcome with
  | ok a => rw [Exec.andThen_ok, pure_run, Exec.prepend, List.append_nil]
  | error e => rfl

namespace Code

def bind (c : Code κ ρ σ ε α) (f : α → Code κ ρ σ ε β) : Code κ ρ σ ε β :=
  match c with
  | .pure a => f a
  | .act x next => .act x fun b => (next b).bind f
  | .call k next => .call k fun v => (next v).bind f

instance : Monad (Code κ ρ σ ε) where
  pure := Code.pure
  bind := Code.bind

def perform (x : Prog σ ε α) : Code κ ρ σ ε α := .act x .pure

def callOf (k : κ) : Code κ ρ σ ε (ρ k) := .call k .pure

def eval (calls : Calls κ ρ σ ε) : Code κ ρ σ ε α → σ → Option (Exec σ ε α)
  | .pure a, s => some ⟨.ok a, s, []⟩
  | .act x next, s => (x s).follow fun b => (next b).eval calls
  | .call k next, s =>
    match calls k s with
    | none => none
    | some r => r.follow fun v => (next v).eval calls

/-- The program that the code is when every call is one. -/
def run (calls : (k : κ) → Prog σ ε (ρ k)) : Code κ ρ σ ε α → Prog σ ε α
  | .pure a => Pure.pure a
  | .act x next => x >>= fun b => (next b).run calls
  | .call k next => calls k >>= fun v => (next v).run calls

/-- The functions the code calls meet `p`, whatever the calls before them give. -/
def CallsOnly (p : κ → Prop) : Code κ ρ σ ε α → Prop
  | .pure _ => True
  | .act _ next => ∀ b, (next b).CallsOnly p
  | .call k next => p k ∧ ∀ v, (next v).CallsOnly p

theorem run_perform (calls : (k : κ) → Prog σ ε (ρ k)) (x : Prog σ ε α) :
    (perform x : Code κ ρ σ ε α).run calls = x := x.bind_pure

theorem run_callOf (calls : (k : κ) → Prog σ ε (ρ k)) (k : κ) :
    (callOf k : Code κ ρ σ ε (ρ k)).run calls = calls k := (calls k).bind_pure

theorem callsOnly_perform (p : κ → Prop) (x : Prog σ ε α) :
    (perform x : Code κ ρ σ ε α).CallsOnly p := fun _ => trivial

theorem callsOnly_callOf {p : κ → Prop} {k : κ} (hk : p k) :
    (callOf k : Code κ ρ σ ε (ρ k)).CallsOnly p := ⟨hk, fun _ => trivial⟩

theorem callsOnly_callOf_bind {p : κ → Prop} {k : κ} (hk : p k) {f : ρ k → Code κ ρ σ ε α}
    (hf : ∀ v, (f v).CallsOnly p) : (callOf k >>= f).CallsOnly p := ⟨hk, hf⟩

theorem eval_mono {calls calls' : Calls κ ρ σ ε}
    (hcalls : ∀ k s r, calls k s = some r → calls' k s = some r) {c : Code κ ρ σ ε α} {s : σ}
    {r : Exec σ ε α} (h : c.eval calls s = some r) : c.eval calls' s = some r := by
  induction c generalizing s r with
  | pure a => exact h
  | act x next ih =>
    rw [eval] at h ⊢
    exact Exec.follow_mono (fun b t r' hr' => ih b hr') h
  | call k next ih =>
    rw [eval] at h ⊢
    rcases hcall : calls k s with _ | first
    · rw [hcall] at h
      cases h
    · rw [hcall] at h
      rw [hcalls k s first hcall]
      exact Exec.follow_mono (fun v t r' hr' => ih v hr') h

/-- Where every call it makes ends as a program does, so does the code. -/
theorem eval_eq_run {calls : Calls κ ρ σ ε} {spec : (k : κ) → Prog σ ε (ρ k)} {p : κ → Prop}
    (hcalls : ∀ k, p k → ∀ s, calls k s = some (spec k s)) {c : Code κ ρ σ ε α}
    (hc : c.CallsOnly p) (s : σ) : c.eval calls s = some (c.run spec s) := by
  induction c generalizing s with
  | pure a => rfl
  | act x next ih =>
    have hnext : (fun b => (next b).eval calls) = fun b t => some ((next b).run spec t) := by
      funext b t
      exact ih b (hc b) t
    rw [eval, hnext]
    exact (x s).follow_some _
  | call k next ih =>
    have hnext : (fun v => (next v).eval calls) = fun v t => some ((next v).run spec t) := by
      funext v t
      exact ih v (hc.2 v) t
    rw [eval, hcalls k hc.1 s, hnext]
    exact (spec k s).follow_some _

end Code

/-- A call with a stack of `depth` frames. -/
def invoke (body : (k : κ) → Code κ ρ σ ε (ρ k)) : Nat → Calls κ ρ σ ε
  | 0, _, _ => none
  | depth + 1, k, s => (body k).eval (invoke body depth) s

/-- Called in `s`, `k` comes back with `r`. -/
def Returns (body : (k : κ) → Code κ ρ σ ε (ρ k)) (k : κ) (s : σ) (r : Exec σ ε (ρ k)) : Prop :=
  ∃ depth, invoke body depth k s = some r

variable {body : (k : κ) → Code κ ρ σ ε (ρ k)}

theorem invoke_succ {depth : Nat} {k : κ} {s : σ} {r : Exec σ ε (ρ k)}
    (h : invoke body depth k s = some r) : invoke body (depth + 1) k s = some r := by
  induction depth generalizing k s r with
  | zero => cases h
  | succ depth ih =>
    have hcalls : ∀ j t r', invoke body depth j t = some r' →
        invoke body (depth + 1) j t = some r' := fun j t r' hcall => ih hcall
    exact Code.eval_mono hcalls h

theorem invoke_mono {depth depth' : Nat} {k : κ} {s : σ} {r : Exec σ ε (ρ k)}
    (h : invoke body depth k s = some r) (hle : depth ≤ depth') :
    invoke body depth' k s = some r := by
  induction hle with
  | refl => exact h
  | step _ ih => exact invoke_succ ih

theorem Returns.unique {k : κ} {s : σ} {r r' : Exec σ ε (ρ k)} (h : Returns body k s r)
    (h' : Returns body k s r') : r = r' := by
  obtain ⟨depth, hdepth⟩ := h
  obtain ⟨depth', hdepth'⟩ := h'
  have hmax := invoke_mono hdepth (Nat.le_max_left depth depth')
  have hmax' := invoke_mono hdepth' (Nat.le_max_right depth depth')
  exact Option.some.inj (hmax.symm.trans hmax')

/-- The functions that meet `good` call only such of lower rank: they return, and as any family of
programs does that meets the equations of the bodies. -/
theorem returns_iff_of_rank {good : κ → Prop} {rank : κ → Nat} {spec : (k : κ) → Prog σ ε (ρ k)}
    (hcalls : ∀ k, good k → (body k).CallsOnly fun j => good j ∧ rank j < rank k)
    (hspec : ∀ k, good k → (body k).run spec = spec k) {k : κ} (hk : good k) {s : σ}
    {r : Exec σ ε (ρ k)} : Returns body k s r ↔ r = spec k s := by
  have hinvoke : ∀ depth j, good j → rank j < depth →
      ∀ t, invoke body depth j t = some (spec j t) := by
    intro depth
    induction depth with
    | zero =>
      intro j _ hlt
      exact absurd hlt (Nat.not_lt_zero _)
    | succ depth ih =>
      intro j hj hlt t
      have hlower : ∀ i, good i ∧ rank i < rank j →
          ∀ t, invoke body depth i t = some (spec i t) := by
        intro i hi
        exact ih i hi.1 (Nat.lt_of_lt_of_le hi.2 (Nat.le_of_lt_succ hlt))
      rw [invoke, Code.eval_eq_run hlower (hcalls j hj), hspec j hj]
  have hreturns : Returns body k s (spec k s) :=
    ⟨rank k + 1, hinvoke _ k hk (Nat.lt_succ_self _) s⟩
  constructor
  · intro h
    exact h.unique hreturns
  · rintro rfl
    exact hreturns

/-- A function that first of all calls one that is stuck as well does not return. -/
theorem not_returns_of_stuck {stuck : κ → Prop}
    (hstuck : ∀ k, stuck k → ∃ j next, stuck j ∧ body k = .call j next) {k : κ} (hk : stuck k)
    {s : σ} {r : Exec σ ε (ρ k)} : ¬ Returns body k s r := by
  rintro ⟨depth, hdepth⟩
  have hnone : ∀ depth j, stuck j → ∀ t, invoke body depth j t = none := by
    intro depth
    induction depth with
    | zero => exact fun _ _ _ => rfl
    | succ depth ih =>
      intro j hj t
      obtain ⟨i, next, hi, hbody⟩ := hstuck j hj
      rw [invoke, hbody, Code.eval, ih i hi t]
  rw [hnone depth k hk s] at hdepth
  cases hdepth

end Framework
