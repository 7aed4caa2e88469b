import Sqxx.Framework.Programs

/-!
# Loops

A `while` loop over a program, run with fuel.  A loop ends when some fuel suffices for it; how it
ends does not depend on the fuel then.  A program on one part of a larger state is lifted to it, so
that the rounds of a loop can act on several objects.
-/

namespace Framework

universe u

variable {σ τ ε α : Type u}

namespace Prog

/-- `x` on the part of the state that `get` reads and `set` writes. -/
def zoom (get : τ → σ) (set : σ → τ → τ) (x : Prog σ ε α) : Prog τ ε α := fun t =>
  let r := x (get t)
  ⟨r.outcome, set r.final t, r.visited.map (set · t)⟩

theorem Ends.zoom {get : τ → σ} {set : σ → τ → τ} {x : Prog σ ε α} {t : τ} {s : σ}
    {o : Except ε α} (hx : Ends x (get t) o s) : Ends (zoom get set x) t o (set s t) where
  outcome := hx.outcome
  final := congrArg (set · t) hx.final

end Prog

/-- `while (cond) round`, for at most `fuel` rounds; nothing if the fuel is used up before the end.
An exception of a round ends the loop. -/
def whileLoop (cond : σ → Bool) (round : Prog σ ε PUnit) : Nat → σ → Option (Except ε PUnit × σ)
  | 0, s => if cond s then none else some (.ok ⟨⟩, s)
  | fuel + 1, s =>
    if cond s then
      match (round s).outcome with
      | .ok _ => whileLoop cond round fuel (round s).final
      | .error e => some (.error e, (round s).final)
    else some (.ok ⟨⟩, s)

/-- Started in `s` the loop ends with `o` in the state `t`. -/
def LoopEnds (cond : σ → Bool) (round : Prog σ ε PUnit) (s : σ) (o : Except ε PUnit) (t : σ) :
    Prop :=
  ∃ fuel, whileLoop cond round fuel s = some (o, t)

variable {cond : σ → Bool} {round : Prog σ ε PUnit} {s t u : σ} {o o' : Except ε PUnit} {e : ε}

theorem whileLoop_exit (hcond : cond s = false) (fuel : Nat) :
    whileLoop cond round fuel s = some (.ok ⟨⟩, s) := by
  cases fuel <;> simp [whileLoop, hcond]

theorem whileLoop_succ {fuel : Nat} {r : Except ε PUnit × σ}
    (h : whileLoop cond round fuel s = some r) : whileLoop cond round (fuel + 1) s = some r := by
  induction fuel generalizing s with
  | zero =>
    cases hcond : cond s with
    | true => simp [whileLoop, hcond] at h
    | false => rwa [whileLoop_exit hcond] at h ⊢
  | succ fuel ih =>
    cases hcond : cond s with
    | true =>
      rw [whileLoop, if_pos hcond] at h ⊢
      rcases hout : (round s).outcome with e | v
      · rw [hout] at h
        exact h
      · rw [hout] at h
        exact ih h
    | false => rwa [whileLoop_exit hcond] at h ⊢

theorem whileLoop_mono {fuel fuel' : Nat} {r : Except ε PUnit × σ}
    (h : whileLoop cond round fuel s = some r) (hle : fuel ≤ fuel') :
    whileLoop cond round fuel' s = some r := by
  induction hle with
  | refl => exact h
  | step _ ih => exact whileLoop_succ ih

namespace LoopEnds

theorem unique (h : LoopEnds cond round s o t) (h' : LoopEnds cond round s o' u) :
    o = o' ∧ t = u := by
  obtain ⟨fuel, hfuel⟩ := h
  obtain ⟨fuel', hfuel'⟩ := h'
  have hmax := whileLoop_mono hfuel (Nat.le_max_left fuel fuel')
  have hmax' := whileLoop_mono hfuel' (Nat.le_max_right fuel fuel')
  exact Prod.mk.inj (Option.some.inj (hmax.symm.trans hmax'))

theorem exit (hcond : cond s = false) : LoopEnds cond round s (.ok ⟨⟩) s :=
  ⟨0, whileLoop_exit hcond 0⟩

theorem next (hcond : cond s = true) (hround : Prog.Ends round s (.ok ⟨⟩) t)
    (hrest : LoopEnds cond round t o u) : LoopEnds cond round s o u := by
  obtain ⟨fuel, hfuel⟩ := hrest
  refine ⟨fuel + 1, ?_⟩
  rw [whileLoop, if_pos hcond, hround.outcome, hround.final]
  exact hfuel

theorem throws (hcond : cond s = true) (hround : Prog.Ends round s (.error e) t) :
    LoopEnds cond round s (.error e) t := by
  refine ⟨1, ?_⟩
  rw [whileLoop, if_pos hcond, hround.outcome, hround.final]

/-- What every round keeps holds when the loop has ended; and the condition does not, unless a round
has thrown. -/
theorem invariant {inv : σ → Prop}
    (hinv : ∀ s, inv s → cond s = true → inv (round s).final)
    (h : LoopEnds cond round s o t) (hs : inv s) : inv t ∧ (o = .ok ⟨⟩ → cond t = false) := by
  obtain ⟨fuel, hfuel⟩ := h
  induction fuel generalizing s with
  | zero =>
    cases hcond : cond s with
    | true => simp [whileLoop, hcond] at hfuel
    | false =>
      rw [whileLoop_exit hcond] at hfuel
      cases hfuel
      exact ⟨hs, fun _ => hcond⟩
  | succ fuel ih =>
    cases hcond : cond s with
    | true =>
      rw [whileLoop, if_pos hcond] at hfuel
      rcases hout : (round s).outcome with e | v
      · rw [hout] at hfuel
        cases hfuel
        exact ⟨hinv s hs hcond, fun h => by cases h⟩
      · rw [hout] at hfuel
        exact ih (hinv s hs hcond) hfuel
    | false =>
      rw [whileLoop_exit hcond] at hfuel
      cases hfuel
      exact ⟨hs, fun _ => hcond⟩

end LoopEnds

/-- A loop ends if no round of it throws and each decreases `variant`. -/
theorem loopEnds_of_variant {inv : σ → Prop} {variant : σ → Nat}
    (hround : ∀ s, inv s → cond s = true →
      (round s).outcome = .ok ⟨⟩ ∧ inv (round s).final ∧ variant (round s).final < variant s)
    (hs : inv s) : ∃ t, LoopEnds cond round s (.ok ⟨⟩) t := by
  induction hn : variant s using Nat.strongRecOn generalizing s with
  | ind n ih =>
    cases hcond : cond s with
    | true =>
      obtain ⟨hout, hnext, hlt⟩ := hround s hs hcond
      obtain ⟨t, ht⟩ := ih _ (hn ▸ hlt) hnext rfl
      exact ⟨t, LoopEnds.next hcond ⟨hout, rfl⟩ ht⟩
    | false => exact ⟨s, LoopEnds.exit hcond⟩

/-- A loop does not end if no round of it throws or makes the condition false. -/
theorem not_loopEnds_of_invariant {inv : σ → Prop}
    (hinv : ∀ s, inv s → cond s = true ∧ (round s).outcome = .ok ⟨⟩ ∧ inv (round s).final)
    (hs : inv s) : ¬ LoopEnds cond round s o t := by
  rintro ⟨fuel, hfuel⟩
  induction fuel generalizing s with
  | zero =>
    obtain ⟨hcond, -⟩ := hinv s hs
    rw [whileLoop, if_pos hcond] at hfuel
    cases hfuel
  | succ fuel ih =>
    obtain ⟨hcond, hout, hnext⟩ := hinv s hs
    rw [whileLoop, if_pos hcond, hout] at hfuel
    exact ih hnext hfuel

end Framework
