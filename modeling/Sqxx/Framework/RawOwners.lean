import Sqxx.Framework.Ownership

/-!
# Objects that own a handle through a raw pointer

The destructor of such an object releases what its pointer names, whoever else names it.  Objects
can be destroyed in any order, so what matters in a state is also what every order of destruction
makes of it.
-/

namespace Framework

/-- The handles made so far, and the objects alive with the pointer of each. -/
structure RawOwners where
  handles : Heap Unit
  objects : Nat → Option (Option Nat)

namespace RawOwners

def empty : RawOwners := ⟨Heap.empty, fun _ => none⟩

def Exists (s : RawOwners) (k : Nat) : Prop := (s.objects k).isSome

instance (s : RawOwners) (k : Nat) : Decidable (s.Exists k) :=
  inferInstanceAs (Decidable ((s.objects k).isSome = true))

/-- The handle the object `k` names, if there is such an object and its pointer is not null. -/
def held (s : RawOwners) (k : Nat) : Option Nat := (s.objects k).join

/-- The object `k`, new or assigned to, has the pointer `p`. -/
def put (s : RawOwners) (k : Nat) (p : Option Nat) : RawOwners :=
  { s with objects := Function.update s.objects k (some p) }

/-- `k` has a handle just made. -/
def putNew (s : RawOwners) (k : Nat) : RawOwners :=
  { s with handles := s.handles.alloc () }.put k (some s.handles.next)

def drop (s : RawOwners) (k : Nat) : RawOwners where
  handles := s.handles.freeAll (s.held k).toList
  objects := Function.update s.objects k none

def dropAll (s : RawOwners) (ks : List Nat) : RawOwners := ks.foldl drop s

@[simp] theorem put_handles (s : RawOwners) (k : Nat) (p : Option Nat) :
    (s.put k p).handles = s.handles := rfl

@[simp] theorem put_held (s : RawOwners) (k : Nat) (p : Option Nat) :
    (s.put k p).held = Function.update s.held k p := by
  funext l
  by_cases hl : l = k
  · simp [held, put, hl]
  · simp [held, put, hl]

@[simp] theorem drop_held (s : RawOwners) (k : Nat) :
    (s.drop k).held = Function.update s.held k none := by
  funext l
  by_cases hl : l = k
  · simp [held, drop, hl]
  · simp [held, drop, hl]

theorem drop_frees_of_held {s : RawOwners} {k h : Nat} (hk : s.held k = some h) :
    (s.drop k).handles.frees h = s.handles.frees h + 1 := by
  simp [drop, hk, Heap.free]

theorem held_of_not_exists {s : RawOwners} {k : Nat} (hk : ¬ s.Exists k) : s.held k = none := by
  rcases h : s.objects k with _ | p
  · simp [held, h]
  · exact absurd (by simp [Exists, h]) hk

/-- Nothing was released twice, no pointer dangles, and what was not released yet is some object's
to release. -/
structure ReleasedOnce (s : RawOwners) : Prop where
  once : ∀ h, s.handles.frees h ≤ 1
  notReleased : ∀ k h, s.held k = some h → s.handles.frees h = 0
  kept : ∀ h, h < s.handles.next → s.handles.frees h = 0 → ∃ k, s.held k = some h

/-- So it is now and after the destruction of any objects, in any order. -/
def Orderly (s : RawOwners) : Prop := ∀ ks, (s.dropAll ks).ReleasedOnce

theorem Orderly.now {s : RawOwners} (hs : s.Orderly) : s.ReleasedOnce := hs []

theorem releasedOnce_of_owned {s : RawOwners} (hs : s.handles.Owned s.held) : s.ReleasedOnce where
  once := hs.sound.frees_le_one
  notReleased k h hk := hs.sound.live h (hs.live k h hk)
  kept h hlt hfrees := by
    apply hs.all
    by_contra hdead
    have honce := hs.sound.dead h hlt hdead
    omega

theorem owned_drop {s : RawOwners} (hs : s.handles.Owned s.held) (k : Nat) :
    (s.drop k).handles.Owned (s.drop k).held := by
  rw [drop_held]
  exact hs.release k

/-- One owner for each handle is enough for every order of destruction. -/
theorem orderly_of_owned {s : RawOwners} (hs : s.handles.Owned s.held) : s.Orderly := by
  intro ks
  induction ks generalizing s with
  | nil => exact releasedOnce_of_owned hs
  | cons k ks ih => exact ih (owned_drop hs k)

theorem owned_empty : empty.handles.Owned empty.held := by
  apply Heap.Owned.init
  intro k
  rfl

theorem owned_putNew {s : RawOwners} (hs : s.handles.Owned s.held) {k : Nat}
    (hk : s.held k = none) : (s.putNew k).handles.Owned (s.putNew k).held := by
  have htaken := hs.take hk ()
  rw [putNew, put_held]
  exact htaken

structure SameOwners (s t : RawOwners) : Prop where
  handles : t.handles = s.handles
  held : t.held = s.held

theorem SameOwners.trans {s t u : RawOwners} (hst : SameOwners s t) (htu : SameOwners t u) :
    SameOwners s u where
  handles := htu.handles.trans hst.handles
  held := htu.held.trans hst.held

theorem SameOwners.owned {s t : RawOwners} (hst : SameOwners s t)
    (hs : s.handles.Owned s.held) : t.handles.Owned t.held := by
  rw [hst.handles, hst.held]
  exact hs

theorem sameOwners_put {s : RawOwners} {k : Nat} {p : Option Nat} (hk : s.held k = p) :
    SameOwners s (s.put k p) where
  handles := rfl
  held := by rw [put_held, ← hk, Function.update_eq_self]

theorem sameOwners_drop {s : RawOwners} {k : Nat} (hk : s.held k = none) :
    SameOwners s (s.drop k) where
  handles := by simp [drop, hk]
  held := by rw [drop_held, ← hk, Function.update_eq_self]

/-- Two objects with one handle: the second destructor releases what the first one released. -/
theorem not_orderly_of_shared {s : RawOwners} {k l h : Nat} (hne : k ≠ l)
    (hk : s.held k = some h) (hl : s.held l = some h) : ¬ s.Orderly := by
  intro hs
  have hdangling : (s.drop k).held l = some h := by
    rw [drop_held, Function.update_of_ne (Ne.symm hne), hl]
  have hfrees := (hs [k]).notReleased l h hdangling
  change (s.drop k).handles.frees h = 0 at hfrees
  rw [drop_frees_of_held hk] at hfrees
  omega

/-- A handle nobody names and nobody released. -/
theorem not_orderly_of_lost {s : RawOwners} {h : Nat} (hlt : h < s.handles.next)
    (hfrees : s.handles.frees h = 0) (hlost : ∀ k, s.held k ≠ some h) : ¬ s.Orderly := by
  intro hs
  obtain ⟨k, hk⟩ := hs.now.kept h hlt hfrees
  exact hlost k hk

theorem not_orderly_of_dangling {s : RawOwners} {k h : Nat} (hk : s.held k = some h)
    (hfrees : 1 ≤ s.handles.frees h) : ¬ s.Orderly := by
  intro hs
  have hzero := hs.now.notReleased k h hk
  omega

theorem not_orderly_of_twice {s : RawOwners} {h : Nat} (hfrees : 2 ≤ s.handles.frees h) :
    ¬ s.Orderly := by
  intro hs
  have honce := hs.now.once h
  omega

end RawOwners

end Framework
