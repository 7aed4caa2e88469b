import Sqxx.Framework.Dialogues
import Mathlib.Data.List.Sort

/-!
# Sorting by asking

A sorting algorithm asks how two elements of its input compare.  It permutes the input whatever it
is told, and sorts it when the answers come from a total preorder.
-/

namespace Framework

variable {σ α β : Type*}

/-- A client of whatever compares: for each list, a dialogue that comes to a list. -/
abbrev SortingClient (α : Type*) := List α → Dialogue (α × α) Ordering (List α)

structure SortingClient.Sorts (sort : SortingClient α) : Prop where
  permutes : ∀ xs, (sort xs).Within (fun p => p.1 ∈ xs ∧ p.2 ∈ xs) (·.Perm xs)
  sorted : ∀ (cmp : α → α → Ordering) [Std.TransCmp cmp] xs,
    ((sort xs).result fun p => cmp p.1 p.2).Pairwise fun x y => (cmp x y).isLE

/-- A preorder of keys, on what has such keys. -/
def onKeys (key : α → β) (cmp : β → β → Ordering) (x y : α) : Ordering := cmp (key x) (key y)

instance (key : α → β) (cmp : β → β → Ordering) [Std.TransCmp cmp] :
    Std.TransCmp (onKeys key cmp) where
  eq_swap {x y} := by
    have hswap : cmp (key x) (key y) = (cmp (key y) (key x)).swap := Std.OrientedCmp.eq_swap
    exact hswap
  isLE_trans {x y z} := by
    intro hxy hyz
    have htrans : (cmp (key x) (key z)).isLE := Std.TransCmp.isLE_trans hxy hyz
    exact htrans

theorem SortingClient.Sorts.talk {sort : SortingClient α} (hsort : sort.Sorts)
    {m : Machine σ (α × α) Ordering} {inv : σ → Prop} {cmp : α → α → Ordering} [Std.TransCmp cmp]
    {xs : List α} (hm : ∀ s p, inv s → p.1 ∈ xs ∧ p.2 ∈ xs →
      (m s p).1 = cmp p.1 p.2 ∧ inv (m.next s p)) {s : σ} (hs : inv s) :
    ((sort xs).talk m s).1.Pairwise (fun x y => (cmp x y).isLE) ∧ inv ((sort xs).talk m s).2 := by
  obtain ⟨hresult, hinv⟩ := (hsort.permutes xs).talk_eq_result hm hs
  rw [hresult]
  exact ⟨hsort.sorted cmp xs, hinv⟩

/-! ## Insertion sort -/

def insertInto (x : α) : List α → Dialogue (α × α) Ordering (List α)
  | [] => .done [x]
  | y :: ys => .ask (x, y) fun o =>
    if o.isLE then .done (x :: y :: ys) else (insertInto x ys).bind fun zs => .done (y :: zs)

def insertionSort : SortingClient α
  | [] => .done []
  | x :: xs => (insertionSort xs).bind (insertInto x)

theorem insertInto_within (x : α) (ys : List α) :
    (insertInto x ys).Within (fun p => p.1 ∈ x :: ys ∧ p.2 ∈ x :: ys) (·.Perm (x :: ys)) := by
  induction ys with
  | nil => exact List.Perm.refl [x]
  | cons y ys ih =>
    refine ⟨by simp, fun o => ?_⟩
    show Dialogue.Within _ _ (if o.isLE then _ else _)
    split
    · exact List.Perm.refl _
    · apply (ih.mono (fun p hp => ?_) fun zs hzs => hzs).bind
      · intro zs hzs
        exact (hzs.cons y).trans (List.Perm.swap x y ys)
      · simp only [List.mem_cons] at hp ⊢
        tauto

theorem insertInto_result (cmp : α → α → Ordering) (x : α) (ys : List α) :
    (insertInto x ys).result (fun p => cmp p.1 p.2) =
      ys.orderedInsert (fun x y => (cmp x y).isLE) x := by
  induction ys with
  | nil => rfl
  | cons y ys ih =>
    rw [insertInto, Dialogue.result_ask, List.orderedInsert_cons]
    split
    · rfl
    · rw [Dialogue.result_bind, ih, Dialogue.result_done]

theorem insertionSort_within (xs : List α) :
    (insertionSort xs).Within (fun p => p.1 ∈ xs ∧ p.2 ∈ xs) (·.Perm xs) := by
  induction xs with
  | nil => exact List.Perm.refl []
  | cons x xs ih =>
    have hrest : (insertionSort xs).Within (fun p => p.1 ∈ x :: xs ∧ p.2 ∈ x :: xs) (·.Perm xs) :=
      ih.mono (fun p hp => ⟨List.mem_cons_of_mem x hp.1, List.mem_cons_of_mem x hp.2⟩)
        fun ys hys => hys
    apply hrest.bind
    intro ys hys
    have hsame : (x :: ys).Perm (x :: xs) := hys.cons x
    exact (insertInto_within x ys).mono
      (fun p hp => ⟨hsame.mem_iff.mp hp.1, hsame.mem_iff.mp hp.2⟩) fun zs hzs => hzs.trans hsame

theorem insertionSort_result (cmp : α → α → Ordering) (xs : List α) :
    (insertionSort xs).result (fun p => cmp p.1 p.2) =
      xs.insertionSort fun x y => (cmp x y).isLE := by
  induction xs with
  | nil => rfl
  | cons x xs ih =>
    rw [insertionSort, Dialogue.result_bind, ih, insertInto_result, List.insertionSort_cons]

theorem insertionSort_sorts : SortingClient.Sorts (insertionSort (α := α)) where
  permutes := insertionSort_within
  sorted cmp _ xs := by
    have htotal : Std.Total fun x y => (cmp x y).isLE = true := ⟨fun x y => by
      have hswap : cmp y x = (cmp x y).swap := Std.OrientedCmp.eq_swap
      rw [hswap, Ordering.isLE_swap]
      cases cmp x y <;> simp⟩
    have htrans : IsTrans α fun x y => (cmp x y).isLE = true :=
      ⟨fun _ _ _ => Std.TransCmp.isLE_trans⟩
    rw [insertionSort_result]
    exact List.pairwise_insertionSort _ xs

end Framework
