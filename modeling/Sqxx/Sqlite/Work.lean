import Sqxx.Datatypes
import Sqxx.Framework.Dialogues
import Sqxx.Sqlite.Hooks

/-!
# What the C library does with its hooks

The library calls hooks in an order of its own and goes on as they answer.  An answer is missing
where no hook is registered or the hook returns nothing.
-/

namespace Sqxx
open Framework

def SQLITE_BUSY : Int := 5

/-- A call of a hook, with the arguments behind the data pointer. -/
inductive LibraryCall
  | commit
  | rollback
  | update (op : Int32) (databaseName tableName : CStr) (rowid : Int64)
  | trace (sql : CStr)
  | profile (sql : CStr) (nsec : UInt64)
  | authorize (action : Int32) (d1 d2 d3 d4 : Option CStr)
  | busy (count : Int32)
  | progress
  | wal (dbname : CStr) (pages : Int32)
  | collationNeeded (textrep : Int32) (name : CStr)
  deriving DecidableEq

def LibraryCall.kind : LibraryCall → HookKind
  | .commit => .commit
  | .rollback => .rollback
  | .update _ _ _ _ => .update
  | .trace _ => .trace
  | .profile _ _ => .profile
  | .authorize _ _ _ _ _ => .authorize
  | .busy _ => .busy
  | .progress => .progress
  | .wal _ _ => .wal
  | .collationNeeded _ _ => .collation

abbrev LibraryWork (R : Type) := Dialogue LibraryCall (Option Int) R

/-! ## Locks -/

/-- `wait held count` is the library's wait for a lock that others hold for `held` more attempts,
after `count` calls of the busy handler.  After an attempt that fails the library gives up, or asks
the busy handler, where zero ends the wait; without one it may have a timeout of its own. -/
structure LockLaws (wait : (held count : Nat) → LibraryWork Int) : Prop where
  free : ∀ count, wait 0 count = .done SQLITE_OK
  held : ∀ held count, wait (held + 1) count = .done SQLITE_BUSY ∨
    ∃ timeout : Bool, wait (held + 1) count = .ask (.busy (Int32.ofNat count)) fun answer =>
      if answer.elim timeout (· != 0) then wait held (count + 1) else .done SQLITE_BUSY

/-- A library without a timeout, which gives up where it `deadlocks`. -/
def waiting (deadlocks : Nat → Bool) : (held count : Nat) → LibraryWork Int
  | 0, _ => .done SQLITE_OK
  | held + 1, count =>
    if deadlocks count then .done SQLITE_BUSY
    else .ask (.busy (Int32.ofNat count)) fun answer =>
      if answer.elim false (· != 0) then waiting deadlocks held (count + 1) else .done SQLITE_BUSY

theorem waiting_lockLaws (deadlocks : Nat → Bool) : LockLaws (waiting deadlocks) where
  free _ := rfl
  held held count := by
    rw [waiting]
    by_cases hdead : deadlocks count
    · exact Or.inl (if_pos hdead)
    · exact Or.inr ⟨false, if_neg hdead⟩

/-! ## What the authorizer is asked -/

def SQLITE_DELETE : Int32 := 9

def SQLITE_INSERT : Int32 := 18

def SQLITE_READ : Int32 := 20

/-- What a statement does, as the authorizer is told. -/
structure Action where
  action : Int32
  d1 : Option CStr
  d2 : Option CStr
  d3 : Option CStr
  d4 : Option CStr
  deriving DecidableEq

/-- With this answer of the authorizer the library may carry the action out: a delete is carried out
also if it is ignored. -/
def Passes (action : Int32) (rv : Int) : Prop :=
  rv = SQLITE_OK ∨ action = SQLITE_DELETE ∧ rv = SQLITE_IGNORE

instance (action : Int32) (rv : Int) : Decidable (Passes action rv) :=
  inferInstanceAs (Decidable (_ ∨ _ ∧ _))

/-- The action that an answer lets through, if it is one of the authorizer; without an authorizer
everything is. -/
def letThrough : LibraryCall → Option Int → Option Action
  | .authorize action d1 d2 d3 d4, answer =>
    if Passes action (answer.getD SQLITE_OK) then some ⟨action, d1, d2, d3, d4⟩ else none
  | _, _ => none

/-- The library does nothing but what was let through, or is among `before`. -/
def DoesLetThrough (before : List Action) : LibraryWork (List Action) → Prop
  | .done actions => actions ⊆ before
  | .ask c next => ∀ answer, DoesLetThrough ((letThrough c answer).toList ++ before) (next answer)

/-- A statement is compiled that would do `actions`.  What else is ignored is left out, and what is
neither approved nor ignored is an error. -/
def compiling (before : List Action) : (actions : List Action) → LibraryWork (List Action)
  | [] => .done before
  | a :: actions => .ask (.authorize a.action a.d1 a.d2 a.d3 a.d4) fun answer =>
    if Passes a.action (answer.getD SQLITE_OK) then
      compiling (a :: before) actions
    else if answer = some SQLITE_IGNORE then
      compiling before actions
    else
      .done []

theorem compiling_doesLetThrough (before actions : List Action) :
    DoesLetThrough before (compiling before actions) := by
  induction actions generalizing before with
  | nil => exact List.Subset.refl before
  | cons a actions ih =>
    intro answer
    by_cases hpasses : Passes a.action (answer.getD SQLITE_OK)
    · simp only [letThrough, if_pos hpasses]
      exact ih (a :: before)
    · simp only [letThrough, if_neg hpasses]
      split
      · exact ih before
      · exact List.nil_subset before

/-- Under a property of what is let through, all that is done has it. -/
theorem DoesLetThrough.assuming {P : Action → Prop} {before : List Action}
    (hbefore : ∀ a ∈ before, P a) {d : LibraryWork (List Action)} (hd : DoesLetThrough before d) :
    d.Assuming (fun c answer => ∀ a, letThrough c answer = some a → P a)
      fun actions => ∀ a ∈ actions, P a := by
  induction d generalizing before with
  | done actions => exact fun a ha => hbefore a (hd ha)
  | ask c next ih =>
    intro answer hanswer
    refine ih answer ?_ (hd answer)
    intro a ha
    rcases List.mem_append.mp ha with hnew | hold
    · exact hanswer a (Option.mem_toList.mp hnew)
    · exact hbefore a hold

end Sqxx
