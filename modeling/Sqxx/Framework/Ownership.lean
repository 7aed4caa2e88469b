import Mathlib.Logic.Function.Basic
import Mathlib.Data.List.Nodup

/-!
# A heap of owned objects

Objects are named by the order in which they were allocated, so an address is never reused and
"freed twice" and "used after free" are statements about one object.  Nothing stops a program
from freeing a dead object; `Sound` says that it has not happened.
-/

namespace Framework

structure Heap (α : Type*) where
  next : Nat
  cell : Nat → Option α
  frees : Nat → Nat

namespace Heap

variable {α : Type*}

def empty : Heap α := ⟨0, fun _ => none, fun _ => 0⟩

/-- A new object, at the address `h.next`. -/
def alloc (h : Heap α) (a : α) : Heap α :=
  { h with next := h.next + 1, cell := Function.update h.cell h.next (some a) }

def free (h : Heap α) (i : Nat) : Heap α :=
  { h with
    cell := Function.update h.cell i none
    frees := Function.update h.frees i (h.frees i + 1) }

def freeAll (h : Heap α) (is : List Nat) : Heap α := is.foldl free h

def Live (h : Heap α) (i : Nat) : Prop := (h.cell i).isSome

instance (h : Heap α) (i : Nat) : Decidable (h.Live i) :=
  inferInstanceAs (Decidable ((h.cell i).isSome = true))

/-- Every object is unallocated, live and never freed, or dead and freed exactly once. -/
structure Sound (h : Heap α) : Prop where
  fresh : ∀ i, h.next ≤ i → ¬ h.Live i ∧ h.frees i = 0
  live : ∀ i, h.Live i → h.frees i = 0
  dead : ∀ i, i < h.next → ¬ h.Live i → h.frees i = 1

@[simp] theorem alloc_next (h : Heap α) (a : α) : (h.alloc a).next = h.next + 1 := rfl
@[simp] theorem free_next (h : Heap α) (i : Nat) : (h.free i).next = h.next := rfl

@[simp] theorem alloc_cell_self (h : Heap α) (a : α) : (h.alloc a).cell h.next = some a := by
  simp [alloc]

theorem alloc_cell_of_ne (h : Heap α) (a : α) {i : Nat} (hi : i ≠ h.next) :
    (h.alloc a).cell i = h.cell i := by
  simp [alloc, hi]

@[simp] theorem free_cell_self (h : Heap α) (i : Nat) : (h.free i).cell i = none := by
  simp [free]

theorem free_cell_of_ne (h : Heap α) {i j : Nat} (hj : j ≠ i) :
    (h.free i).cell j = h.cell j := by
  simp [free, hj]

theorem live_alloc (h : Heap α) (a : α) (i : Nat) :
    (h.alloc a).Live i ↔ i = h.next ∨ h.Live i := by
  by_cases hi : i = h.next
  · subst hi
    simp [Live]
  · simp [Live, alloc_cell_of_ne h a hi, hi]

theorem live_free (h : Heap α) (i j : Nat) : (h.free i).Live j ↔ j ≠ i ∧ h.Live j := by
  by_cases hj : j = i
  · subst hj
    simp [Live]
  · simp [Live, free_cell_of_ne h hj, hj]

theorem Sound.lt_next {h : Heap α} (hs : h.Sound) {i : Nat} (hi : h.Live i) : i < h.next := by
  by_contra hge
  exact (hs.fresh i (by omega)).1 hi

theorem sound_empty : (empty : Heap α).Sound := by
  constructor <;> simp [empty, Live]

theorem Sound.alloc {h : Heap α} (hs : h.Sound) (a : α) : (h.alloc a).Sound := by
  constructor
  · intro i hi
    rw [alloc_next] at hi
    have hfresh := hs.fresh i (by omega)
    exact ⟨fun hl => ((live_alloc h a i).mp hl).elim (by omega) hfresh.1, hfresh.2⟩
  · intro i hl
    rcases (live_alloc h a i).mp hl with rfl | hl
    · exact (hs.fresh _ (Nat.le_refl _)).2
    · exact hs.live i hl
  · intro i hi hdead
    rw [alloc_next] at hi
    have hne : i ≠ h.next := fun he => hdead ((live_alloc h a i).mpr (Or.inl he))
    exact hs.dead i (by omega) fun hl => hdead ((live_alloc h a i).mpr (Or.inr hl))

/-- Freeing a live object keeps the heap sound: this is the only use of `free` that does. -/
theorem Sound.free {h : Heap α} (hs : h.Sound) {i : Nat} (hi : h.Live i) : (h.free i).Sound := by
  have hlt := hs.lt_next hi
  constructor
  · intro j hj
    rw [free_next] at hj
    have hne : j ≠ i := by omega
    have hfresh := hs.fresh j hj
    exact ⟨fun hl => hfresh.1 ((live_free h i j).mp hl).2, by simp [Heap.free, hne, hfresh.2]⟩
  · intro j hl
    obtain ⟨hne, hl⟩ := (live_free h i j).mp hl
    simp [Heap.free, hne, hs.live j hl]
  · intro j hj hdead
    by_cases hji : j = i
    · subst hji
      simp [Heap.free, hs.live j hi]
    · have hno : ¬ h.Live j := fun hl => hdead ((live_free h i j).mpr ⟨hji, hl⟩)
      simpa [Heap.free, hji] using hs.dead j hj hno

@[simp] theorem freeAll_nil (h : Heap α) : h.freeAll [] = h := rfl

@[simp] theorem freeAll_cons (h : Heap α) (i : Nat) (is : List Nat) :
    h.freeAll (i :: is) = (h.free i).freeAll is := rfl

@[simp] theorem freeAll_next (h : Heap α) (is : List Nat) : (h.freeAll is).next = h.next := by
  induction is generalizing h with
  | nil => rfl
  | cons i is ih => rw [freeAll_cons, ih, free_next]

theorem live_freeAll (h : Heap α) (is : List Nat) (j : Nat) :
    (h.freeAll is).Live j ↔ j ∉ is ∧ h.Live j := by
  induction is generalizing h with
  | nil => simp
  | cons i is ih =>
    rw [freeAll_cons, ih, live_free, List.mem_cons]
    tauto

theorem freeAll_cell_of_notMem (h : Heap α) {is : List Nat} {j : Nat} (hj : j ∉ is) :
    (h.freeAll is).cell j = h.cell j := by
  induction is generalizing h with
  | nil => rfl
  | cons i is ih =>
    rw [List.mem_cons, not_or] at hj
    rw [freeAll_cons, ih _ hj.2, free_cell_of_ne h hj.1]

/-- Objects that were there before can be freed before the new one is allocated as well. -/
theorem alloc_freeAll (h : Heap α) (a : α) {is : List Nat} (his : ∀ i ∈ is, i < h.next) :
    (h.alloc a).freeAll is = (h.freeAll is).alloc a := by
  induction is generalizing h with
  | nil => rfl
  | cons i is ih =>
    obtain ⟨hi, his⟩ := List.forall_mem_cons.mp his
    have hcomm : (h.alloc a).free i = (h.free i).alloc a := by
      simp only [Heap.alloc, Heap.free]
      rw [Function.update_comm (Nat.ne_of_gt hi)]
    rw [freeAll_cons, freeAll_cons, hcomm]
    exact ih (h.free i) his

theorem Sound.freeAll {h : Heap α} (hs : h.Sound) {is : List Nat} (hnd : is.Nodup)
    (hlive : ∀ i ∈ is, h.Live i) : (h.freeAll is).Sound := by
  induction is generalizing h with
  | nil => exact hs
  | cons i is ih =>
    obtain ⟨hi, hnd⟩ := List.nodup_cons.mp hnd
    refine ih (hs.free (hlive i List.mem_cons_self)) hnd ?_
    intro j hj
    have hne : j ≠ i := fun he => hi (he ▸ hj)
    exact (live_free h i j).mpr ⟨hne, hlive j (List.mem_cons_of_mem _ hj)⟩

theorem Sound.frees_le_one {h : Heap α} (hs : h.Sound) (i : Nat) : h.frees i ≤ 1 := by
  by_cases hl : h.Live i
  · rw [hs.live i hl]
    exact Nat.zero_le 1
  · by_cases hi : i < h.next
    · exact Nat.le_of_eq (hs.dead i hi hl)
    · rw [(hs.fresh i (Nat.not_lt.mp hi)).2]
      exact Nat.zero_le 1

section Entries

variable {κ : Type*} [DecidableEq κ] {own : κ → Option Nat}

/-- What an owner has after one entry was replaced. -/
theorem of_update {k l : κ} {entry : Option Nat} {i : Nat}
    (hl : Function.update own k entry l = some i) :
    l = k ∧ entry = some i ∨ l ≠ k ∧ own l = some i := by
  by_cases hlk : l = k
  · subst hlk
    rw [Function.update_self] at hl
    exact Or.inl ⟨rfl, hl⟩
  · rw [Function.update_of_ne hlk] at hl
    exact Or.inr ⟨hlk, hl⟩

theorem of_update_none {k l : κ} {i : Nat} (hl : Function.update own k none l = some i) :
    l ≠ k ∧ own l = some i :=
  (of_update hl).resolve_left fun h => by cases h.2

/-- What an owner has after the entry of `l` was moved to `k`. -/
theorem of_move {k l m : κ} {i : Nat}
    (hm : Function.update (Function.update own l none) k (own l) m = some i) :
    m = k ∧ own l = some i ∨ m ≠ k ∧ m ≠ l ∧ own m = some i :=
  (of_update hm).imp_right fun h => ⟨h.1, of_update_none h.2⟩

end Entries

def Apart {κ : Type*} (own : κ → Option Nat) : Prop :=
  ∀ k l i, own k = some i → own l = some i → k = l

namespace Apart

variable {κ : Type*} [DecidableEq κ] {own : κ → Option Nat}

theorem take (ha : Apart own) (k : κ) {entry : Option Nat}
    (hnew : ∀ l i, own l = some i → entry ≠ some i) : Apart (Function.update own k entry) := by
  intro l m i hl hm
  rcases of_update hl with ⟨hlk, hi⟩ | ⟨-, hl⟩
  · rcases of_update hm with ⟨hmk, -⟩ | ⟨-, hm⟩
    · exact hlk.trans hmk.symm
    · exact (hnew m i hm hi).elim
  · rcases of_update hm with ⟨-, hi⟩ | ⟨-, hm⟩
    · exact (hnew l i hl hi).elim
    · exact ha l m i hl hm

theorem forget (ha : Apart own) (k : κ) : Apart (Function.update own k none) :=
  ha.take k fun _ _ _ => by simp

theorem move (ha : Apart own) (k l : κ) :
    Apart (Function.update (Function.update own l none) k (own l)) := by
  apply (ha.forget l).take
  intro m i hm hl
  obtain ⟨hml, hm⟩ := of_update_none hm
  exact hml (ha m l i hm hl)

end Apart

/-- What the owners `own` have is alive, and no two have the same object. Others may be alive. -/
structure Held {κ : Type*} (h : Heap α) (own : κ → Option Nat) : Prop where
  sound : h.Sound
  live : ∀ k i, own k = some i → h.Live i
  inj : ∀ k l i, own k = some i → own l = some i → k = l

/-- The live objects are those of the owners `own`, each of exactly one of them. -/
structure Owned {κ : Type*} (h : Heap α) (own : κ → Option Nat) : Prop extends h.Held own where
  all : ∀ i, h.Live i → ∃ k, own k = some i

namespace Held

variable {κ : Type*} {h : Heap α} {own : κ → Option Nat}

theorem init (own : κ → Option Nat) (hown : ∀ k, own k = none) : (empty : Heap α).Held own where
  sound := sound_empty
  live k i hk := by
    rw [hown k] at hk
    cases hk
  inj k l i hk := by
    rw [hown k] at hk
    cases hk

theorem ne_next (hh : h.Held own) {k : κ} {i : Nat} (hk : own k = some i) : i ≠ h.next :=
  Nat.ne_of_lt (hh.sound.lt_next (hh.live k i hk))

theorem discard (hh : h.Held own) (a : α) : ((h.alloc a).free h.next).Held own where
  sound := (hh.sound.alloc a).free ((live_alloc h a h.next).mpr (Or.inl rfl))
  live k i hk := by
    have hi := hh.live k i hk
    exact (live_free _ _ _).mpr ⟨hh.ne_next hk, (live_alloc h a i).mpr (Or.inr hi)⟩
  inj := hh.inj

variable [DecidableEq κ]

theorem forget (hh : h.Held own) (k : κ) : h.Held (Function.update own k none) where
  sound := hh.sound
  live l i hl := hh.live l i (of_update_none hl).2
  inj := Apart.forget hh.inj k

theorem release (hh : h.Held own) (k : κ) :
    (h.freeAll (own k).toList).Held (Function.update own k none) := by
  constructor
  · apply hh.sound.freeAll
    · cases own k <;> simp
    · intro i hi
      exact hh.live k i (Option.mem_toList.mp hi)
  · intro l i hl
    obtain ⟨hlk, hl⟩ := of_update_none hl
    refine (live_freeAll h _ i).mpr ⟨fun hi => ?_, hh.live l i hl⟩
    exact hlk (hh.inj l k i hl (Option.mem_toList.mp hi))
  · exact (hh.forget k).inj

theorem take (hh : h.Held own) (k : κ) (a : α) :
    (h.alloc a).Held (Function.update own k (some h.next)) := by
  constructor
  · exact hh.sound.alloc a
  · intro l i hl
    rcases of_update hl with ⟨-, hi⟩ | ⟨-, hl⟩
    · exact (live_alloc h a i).mpr (Or.inl (Option.some.inj hi).symm)
    · exact (live_alloc h a i).mpr (Or.inr (hh.live l i hl))
  · apply Apart.take hh.inj
    intro l i hl hi
    exact hh.ne_next hl (Option.some.inj hi).symm

/-- An owner takes over the object of another one, if that one has one; what it had stays. -/
theorem move (hh : h.Held own) (k l : κ) :
    h.Held (Function.update (Function.update own l none) k (own l)) := by
  refine ⟨hh.sound, ?_, Apart.move hh.inj k l⟩
  intro m i hm
  rcases of_move hm with ⟨-, hl⟩ | ⟨-, -, hm⟩
  · exact hh.live l i hl
  · exact hh.live m i hm

/-- An owner takes a new object and then frees the one it had. -/
theorem replace (hh : h.Held own) (k : κ) (a : α) :
    ((h.alloc a).freeAll (own k).toList).Held (Function.update own k (some h.next)) := by
  have htaken := (hh.release k).take k a
  rw [freeAll_next, Function.update_idem] at htaken
  rw [alloc_freeAll]
  · exact htaken
  · intro i hi
    exact hh.sound.lt_next (hh.live k i (Option.mem_toList.mp hi))

end Held

namespace Owned

variable {κ : Type*} {h : Heap α} {own : κ → Option Nat}

theorem init (own : κ → Option Nat) (hown : ∀ k, own k = none) : (empty : Heap α).Owned own where
  toHeld := Held.init own hown
  all i hi := by
    cases hi

theorem discard (ho : h.Owned own) (a : α) : ((h.alloc a).free h.next).Owned own where
  toHeld := ho.toHeld.discard a
  all i hi := by
    obtain ⟨hne, hi⟩ := (live_free _ _ _).mp hi
    exact ho.all i (((live_alloc h a i).mp hi).resolve_left hne)

variable [DecidableEq κ]

theorem kept (ho : h.Owned own) {k : κ} {i : Nat} (hi : h.Live i) (hother : i ∉ (own k).toList)
    (entry : Option Nat) : ∃ l, Function.update own k entry l = some i := by
  obtain ⟨l, hl⟩ := ho.all i hi
  have hlk : l ≠ k := by
    intro heq
    subst heq
    exact hother (Option.mem_toList.mpr hl)
  exact ⟨l, by rw [Function.update_of_ne hlk, hl]⟩

theorem release (ho : h.Owned own) (k : κ) :
    (h.freeAll (own k).toList).Owned (Function.update own k none) where
  toHeld := ho.toHeld.release k
  all i hi := by
    obtain ⟨hfreed, hi⟩ := (live_freeAll h _ i).mp hi
    exact ho.kept hi hfreed none

theorem replace (ho : h.Owned own) (k : κ) (a : α) :
    ((h.alloc a).freeAll (own k).toList).Owned (Function.update own k (some h.next)) where
  toHeld := ho.toHeld.replace k a
  all i hi := by
    obtain ⟨hfreed, hi⟩ := (live_freeAll _ _ i).mp hi
    rcases (live_alloc h a i).mp hi with hnew | hi
    · rw [hnew]
      exact ⟨k, Function.update_self k _ own⟩
    · exact ho.kept hi hfreed (some h.next)

theorem take (ho : h.Owned own) {k : κ} (hk : own k = none) (a : α) :
    (h.alloc a).Owned (Function.update own k (some h.next)) := by
  have hreplaced := ho.replace k a
  rw [hk] at hreplaced
  exact hreplaced

omit [DecidableEq κ] in
/-- Freeing what the owners have, each object once, leaves nothing alive. -/
theorem freeAll_frees (ho : h.Owned own) {is : List Nat} (hnd : is.Nodup)
    (his : ∀ i, i ∈ is ↔ ∃ k, own k = some i) {i : Nat} (hi : i < h.next) :
    (h.freeAll is).frees i = 1 := by
  have hlive : ∀ j ∈ is, h.Live j := by
    intro j hj
    obtain ⟨k, hk⟩ := (his j).mp hj
    exact ho.live k j hk
  apply (ho.sound.freeAll hnd hlive).dead i
  · rwa [freeAll_next]
  · intro hl
    obtain ⟨hfreed, hl⟩ := (live_freeAll h is i).mp hl
    exact hfreed ((his i).mpr (ho.all i hl))

end Owned

end Heap

end Framework
