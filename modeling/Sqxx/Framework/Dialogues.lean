import Sqxx.Framework.Programs
import Sqxx.Framework.Refinement

/-!
# Dialogues with a machine

A client asks a machine that it does not know and goes on as the answers are.  Whatever holds of
every run of the machine holds of its dialogues.
-/

namespace Framework

variable {σ ε β α γ : Type*}

inductive Dialogue (ε β α : Type*)
  | done (a : α)
  | ask (e : ε) (next : β → Dialogue ε β α)

namespace Dialogue

def bind : Dialogue ε β α → (α → Dialogue ε β γ) → Dialogue ε β γ
  | done a, f => f a
  | ask e next, f => ask e fun b => (next b).bind f

/-- What the client comes to, and the state that it leaves the machine in. -/
def talk (m : Machine σ ε β) : Dialogue ε β α → σ → α × σ
  | done a, s => (a, s)
  | ask e next, s => talk m (next (m s e).1) (m.next s e)

/-- The events that the client asks for, in order. -/
def asked (m : Machine σ ε β) : Dialogue ε β α → σ → List ε
  | done _, _ => []
  | ask e next, s => e :: asked m (next (m s e).1) (m.next s e)

/-- What the client comes to when a function answers. -/
def result (f : ε → β) : Dialogue ε β α → α
  | done a => a
  | ask e next => result f (next (f e))

/-- The client asks for `ok` events only and comes to a `post` result, whatever the answers are. -/
def Within (ok : ε → Prop) (post : α → Prop) : Dialogue ε β α → Prop
  | done a => post a
  | ask e next => ok e ∧ ∀ b, Within ok post (next b)

/-- As long as the answers are `ok`, the client comes to a `post` result. -/
def Assuming (ok : ε → β → Prop) (post : α → Prop) : Dialogue ε β α → Prop
  | done a => post a
  | ask e next => ∀ b, ok e b → Assuming ok post (next b)

variable {m : Machine σ ε β} {ok : ε → Prop} {post : α → Prop} {f : ε → β}

@[simp] theorem talk_done (a : α) (s : σ) : (done a : Dialogue ε β α).talk m s = (a, s) := rfl

@[simp] theorem asked_done (a : α) (s : σ) : (done a : Dialogue ε β α).asked m s = [] := rfl

@[simp] theorem result_done (a : α) : (done a : Dialogue ε β α).result f = a := rfl

@[simp] theorem talk_ask (e : ε) (next : β → Dialogue ε β α) (s : σ) :
    (ask e next).talk m s = (next (m s e).1).talk m (m.next s e) := rfl

@[simp] theorem asked_ask (e : ε) (next : β → Dialogue ε β α) (s : σ) :
    (ask e next).asked m s = e :: (next (m s e).1).asked m (m.next s e) := rfl

@[simp] theorem result_ask (e : ε) (next : β → Dialogue ε β α) :
    (ask e next).result f = (next (f e)).result f := rfl

theorem talk_state (d : Dialogue ε β α) (s : σ) :
    (d.talk m s).2 = run m.next s (d.asked m s) := by
  induction d generalizing s with
  | done a => simp
  | ask e next ih => simp [ih]

theorem result_bind (d : Dialogue ε β α) (g : α → Dialogue ε β γ) :
    (d.bind g).result f = (g (d.result f)).result f := by
  induction d with
  | done a => rfl
  | ask e next ih => exact ih (f e)

namespace Within

theorem bind {post' : γ → Prop} {d : Dialogue ε β α} {g : α → Dialogue ε β γ}
    (hd : d.Within ok post) (hg : ∀ a, post a → (g a).Within ok post') :
    (d.bind g).Within ok post' := by
  induction d with
  | done a => exact hg a hd
  | ask e next ih => exact ⟨hd.1, fun b => ih b (hd.2 b)⟩

theorem mono {ok' : ε → Prop} {post' : α → Prop} {d : Dialogue ε β α} (hd : d.Within ok post)
    (hok : ∀ e, ok e → ok' e) (hpost : ∀ a, post a → post' a) : d.Within ok' post' := by
  induction d with
  | done a => exact hpost a hd
  | ask e next ih => exact ⟨hok e hd.1, fun b => ih b (hd.2 b)⟩

theorem talk {d : Dialogue ε β α} (hd : d.Within ok post) (s : σ) : post (d.talk m s).1 := by
  induction d generalizing s with
  | done a => exact hd
  | ask e next ih => exact ih _ (hd.2 _) _

theorem asked {d : Dialogue ε β α} (hd : d.Within ok post) (s : σ) : ∀ e ∈ d.asked m s, ok e := by
  induction d generalizing s with
  | done a => simp
  | ask e next ih => exact List.forall_mem_cons.mpr ⟨hd.1, ih _ (hd.2 _) _⟩

/-- A machine that answers like a function, as long as it is asked for `ok` events, makes the client
come to what the function does. -/
theorem talk_eq_result {inv : σ → Prop} {d : Dialogue ε β α} (hd : d.Within ok post)
    (hm : ∀ s e, inv s → ok e → (m s e).1 = f e ∧ inv (m.next s e)) {s : σ} (hs : inv s) :
    (d.talk m s).1 = d.result f ∧ inv (d.talk m s).2 := by
  induction d generalizing s with
  | done a => exact ⟨rfl, hs⟩
  | ask e next ih =>
    obtain ⟨hanswer, hnext⟩ := hm s e hs hd.1
    rw [talk_ask, result_ask, hanswer]
    exact ih (f e) (hd.2 (f e)) hnext

end Within

theorem Assuming.talk {ok : ε → β → Prop} {inv : σ → Prop} {d : Dialogue ε β α}
    (hd : d.Assuming ok post) (hm : ∀ s e, inv s → ok e (m s e).1 ∧ inv (m.next s e)) {s : σ}
    (hs : inv s) : post (d.talk m s).1 := by
  induction d generalizing s with
  | done a => exact hd
  | ask e next ih =>
    obtain ⟨hanswer, hnext⟩ := hm s e hs
    exact ih (m s e).1 (hd (m s e).1 hanswer) hnext

section Calling

universe u

variable {σ τ ε β α ι : Type u} {m : Machine σ ε β}

/-- The client as a program that makes a call for each event. -/
def calling (call : ε → Prog σ ι β) : Dialogue ε β α → Prog σ ι α
  | done a => pure a
  | ask e next => do
    let b ← call e
    calling call (next b)

/-- If the calls implement a machine, the program implements the client's talk with that machine. -/
theorem calling_follows {spec : Machine τ ε β} {R : σ → τ → Prop} {call : ε → Prog σ ι β}
    (hcall : ∀ s t e, R s t →
      ∃ s', Prog.Ends (call e) s (.ok (spec t e).1) s' ∧ R s' (spec.next t e))
    (d : Dialogue ε β α) {s : σ} {t : τ} (hst : R s t) :
    ∃ s', Prog.Ends (d.calling call) s (.ok (d.talk spec t).1) s' ∧ R s' (d.talk spec t).2 := by
  induction d generalizing s t with
  | done a => exact ⟨s, Prog.Ends.pure a s, hst⟩
  | ask e next ih =>
    obtain ⟨v, hends, hv⟩ := hcall s t e hst
    obtain ⟨s', hrest, hs'⟩ := ih (spec t e).1 hv
    exact ⟨s', hends.bind hrest, hs'⟩

/-- If the calls return what the machine answers, the program returns what the client comes to. -/
theorem calling_ends {call : ε → Prog σ ι β}
    (hcall : ∀ s e, Prog.Ends (call e) s (.ok (m s e).1) (m.next s e)) (d : Dialogue ε β α)
    (s : σ) : Prog.Ends (d.calling call) s (.ok (d.talk m s).1) (d.talk m s).2 := by
  have hself : ∀ s t e, s = t →
      ∃ s', Prog.Ends (call e) s (.ok (m t e).1) s' ∧ s' = m.next t e := by
    rintro s t e rfl
    exact ⟨m.next s e, hcall s e, rfl⟩
  obtain ⟨s', hends, rfl⟩ := calling_follows hself d (rfl : s = s)
  exact hends

end Calling

end Dialogue

end Framework
