import Sqxx.Framework.Refinement

/-!
# Random-access devices

A device has a fixed number of cells and a head.  It reads the cells from the head on, as many as
are left; it stores what fits behind the head or refuses all of it.
-/

namespace Framework

variable {α : Type*}

/-- The cells from `p` on, one for each of `as`. -/
def consecutive : Nat → List α → List (Nat × α)
  | _, [] => []
  | p, a :: as => (p, a) :: consecutive (p + 1) as

theorem run_assign_consecutive (cells : Nat → α) (p : Nat) (as : List α) (i : Nat) :
    run assign cells (consecutive p as) i =
      if p ≤ i then as[i - p]?.getD (cells i) else cells i := by
  induction as generalizing cells p with
  | nil => simp [consecutive]
  | cons a as ih =>
    rw [consecutive, run_cons, ih]
    simp only [assign, Function.update_apply]
    by_cases hi : i = p
    · rw [if_neg (by omega), if_pos hi, if_pos (by omega), hi, Nat.sub_self]
      rfl
    · by_cases hlt : p < i
      · have hsub : i - p = i - (p + 1) + 1 := by omega
        rw [if_pos (by omega), if_neg hi, if_pos (by omega), hsub, List.getElem?_cons_succ]
      · rw [if_neg (by omega), if_neg hi, if_neg (by omega)]

structure Device (α : Type*) where
  cells : Nat → α
  size : Nat
  head : Nat
  head_le : head ≤ size

/-- A seek without a target is one that the device cannot make sense of. -/
inductive Request (α : Type*)
  | read (n : Nat)
  | write (as : List α)
  | seek (target : Option Int)

inductive Reply (α : Type*)
  | took (as : List α)
  | stored (n : Nat)
  | moved (p : Nat)
  | refused
  deriving DecidableEq

namespace Device

def content (d : Device α) : List α := (List.range d.size).map d.cells

@[simp] theorem content_length (d : Device α) : d.content.length = d.size := by
  simp [content]

theorem getElem?_content (d : Device α) (i : Nat) :
    d.content[i]? = if i < d.size then some (d.cells i) else none := by
  by_cases hi : i < d.size <;> simp [content, hi]

/-- The number of cells that a read of `n` takes. -/
def taken (d : Device α) (n : Nat) : Nat := min n (d.size - d.head)

theorem taken_le (d : Device α) (n : Nat) : d.head + d.taken n ≤ d.size := by
  have hhead := d.head_le
  rw [taken]
  omega

def reply : Machine (Device α) (Request α) (Reply α)
  | d, .read n =>
    (.took ((d.content.drop d.head).take n),
      { d with head := d.head + d.taken n, head_le := d.taken_le n })
  | d, .write as =>
    if h : d.head + as.length ≤ d.size then
      (.stored as.length,
        { d with
          cells := run assign d.cells (consecutive d.head as)
          head := d.head + as.length
          head_le := h })
    else
      (.refused, d)
  | d, .seek target =>
    match target with
    | none => (.refused, d)
    | some t =>
      if h : 0 ≤ t ∧ t < d.size then
        (.moved t.toNat, { d with head := t.toNat, head_le := by omega })
      else
        (.refused, d)

/-- The cells a request assigns to, in order. -/
def assigned (d : Device α) : Request α → List (Nat × α)
  | .read _ => []
  | .write as => if d.head + as.length ≤ d.size then consecutive d.head as else []
  | .seek _ => []

@[simp] theorem next_size (d : Device α) (r : Request α) : (reply.next d r).size = d.size := by
  cases r with
  | read n => rfl
  | write as =>
    by_cases h : d.head + as.length ≤ d.size <;> simp [Machine.next, reply, h]
  | seek target =>
    cases target with
    | none => rfl
    | some t => by_cases h : 0 ≤ t ∧ t < d.size <;> simp [Machine.next, reply, h]

theorem next_cells (d : Device α) (r : Request α) :
    (reply.next d r).cells = run assign d.cells (d.assigned r) := by
  cases r with
  | read n => rfl
  | write as =>
    by_cases h : d.head + as.length ≤ d.size <;> simp [Machine.next, reply, assigned, h]
  | seek target =>
    cases target with
    | none => rfl
    | some t => by_cases h : 0 ≤ t ∧ t < d.size <;> simp [Machine.next, reply, assigned, h]

theorem write_fits {d : Device α} {as : List α} (h : d.head + as.length ≤ d.size) :
    (reply d (.write as)).1 = .stored as.length ∧
      (reply.next d (.write as)).head = d.head + as.length := by
  simp [Machine.next, reply, h]

theorem write_refused {d : Device α} {as : List α} (h : ¬ d.head + as.length ≤ d.size) :
    reply d (.write as) = (.refused, d) := by
  simp [reply, h]

theorem seek_inside {d : Device α} {t : Int} (h : 0 ≤ t ∧ t < d.size) :
    (reply d (.seek (some t))).1 = .moved t.toNat ∧
      (reply.next d (.seek (some t))).head = t.toNat := by
  simp [Machine.next, reply, h]

theorem seek_refused {d : Device α} {target : Option Int}
    (h : ∀ t, target = some t → ¬ (0 ≤ t ∧ t < d.size)) :
    reply d (.seek target) = (.refused, d) := by
  cases target with
  | none => rfl
  | some t => exact dif_neg (h t rfl)

theorem seek_content (d : Device α) (target : Option Int) :
    (reply.next d (.seek target)).content = d.content := by
  rw [content, next_size, next_cells]
  rfl

/-- A write that fits replaces the cells behind the head. -/
theorem write_content {d : Device α} {as : List α} (h : d.head + as.length ≤ d.size) :
    (reply.next d (.write as)).content =
      d.content.take d.head ++ as ++ d.content.drop (d.head + as.length) := by
  have hcells : (reply.next d (.write as)).cells = run assign d.cells (consecutive d.head as) := by
    rw [next_cells, assigned, if_pos h]
  have hhead : (d.content.take d.head).length = d.head := by
    rw [List.length_take, content_length]
    omega
  apply List.ext_getElem?
  intro i
  rw [getElem?_content, next_size, hcells, run_assign_consecutive, List.append_assoc]
  rcases Nat.lt_or_ge i d.head with hbefore | hbehind
  · rw [List.getElem?_append_left (by omega), List.getElem?_take_of_lt hbefore, getElem?_content,
      if_pos (by omega), if_neg (by omega), if_pos (by omega)]
  · rw [List.getElem?_append_right (by omega), hhead, if_pos hbehind]
    rcases Nat.lt_or_ge (i - d.head) as.length with hin | hafter
    · rw [List.getElem?_append_left hin, if_pos (by omega), List.getElem?_eq_getElem hin]
      rfl
    · have hindex : d.head + as.length + (i - d.head - as.length) = i := by omega
      rw [List.getElem?_append_right hafter, List.getElem?_drop, hindex, getElem?_content,
        List.getElem?_eq_none hafter]
      rfl

end Device

end Framework
