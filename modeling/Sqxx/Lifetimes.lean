import Sqxx.Framework.RawOwners
import Sqxx.Framework.Runs
import Sqxx.Sqlite.Statements

/-!
# Who releases a statement or a backup

`statement` and `backup` keep their C handle in a raw pointer and release it in the destructor.  The
special members that copy the pointer are the defaulted move of a statement, also where a statement
is returned by value without elision, and the implicit copies of a backup.
-/

namespace Sqxx
open Framework

namespace Lifetime

def statement (this : Nat) (handleArg : Option Nat) : Cxx RawOwners Unit :=
  Prog.perform fun s => s.put this handleArg

/-- A destructor of the form `if (handle) release(handle);`. -/
def destructor (this : Nat) : Cxx RawOwners Unit := do
  let handle ← Prog.reading fun s => s.held this
  match handle with
  | some h => Prog.perform fun s => { s with handles := s.handles.free h }
  | none => pure ()
  Prog.perform fun s => { s with objects := Function.update s.objects this none }

def destroyStatement (this : Nat) : Cxx RawOwners Unit := destructor this

/-- `statement(statement&&) = default`: the pointer is copied. -/
def moveStatement (this other : Nat) : Cxx RawOwners Unit :=
  Prog.perform fun s => s.put this (s.held other)

/-- A temporary initialises another object and is destroyed. -/
def passOn (this tmp : Nat) : Cxx RawOwners Unit := do
  moveStatement this tmp
  destroyStatement tmp

/-- A value returned through the temporaries that are not elided, the latest first. -/
def returned (handle : Option Nat) (this : Nat) : List Nat → Cxx RawOwners Unit
  | [] => statement this handle
  | tmp :: tmps => do
    returned handle tmp tmps
    passOn this tmp

/-- `sqlite3_prepare_v2`; the pointer stays null unless there is a statement. -/
def sqlite3PrepareV2 (answer : PrepareAnswer) : Cxx RawOwners (Int × Option Nat) :=
  Prog.effect fun s =>
    match answer with
    | .failed rv => ((rv, none), s)
    | .blank => ((SQLITE_OK, none), s)
    | .compiled => ((SQLITE_OK, some s.handles.next), { s with handles := s.handles.alloc () })

/-- `connection::prepare`, its value initialising `this`. -/
def prepare (answer : PrepareAnswer) (tmps : List Nat) (this : Nat) : Cxx RawOwners Unit := do
  let (rv, stmt) ← sqlite3PrepareV2 answer
  if rv ≠ SQLITE_OK then
    Cxx.throw (staticError rv)
  else
    returned stmt this tmps

/-- The local variable of `query`: it is the object returned, or another one that is moved from. -/
inductive LocalObject
  | elided
  | moved (st : Nat)
  deriving DecidableEq, Repr

namespace LocalObject

/-- Where the local variable is. -/
def place (this : Nat) : LocalObject → Nat
  | .elided => this
  | .moved st => st

def names (this : Nat) : LocalObject → List Nat
  | .elided => [this]
  | .moved st => [this, st]

def leave (this : Nat) : LocalObject → Cxx RawOwners Unit
  | .elided => pure ()
  | .moved st => passOn this st

end LocalObject

/-- `connection::query`; `ran` is how `st.run()` ends. -/
def query (answer : PrepareAnswer) (tmps : List Nat) (ran : Except Exn Unit) (this : Nat)
    (st : LocalObject) : Cxx RawOwners Unit := do
  prepare answer tmps (st.place this)
  Cxx.unwinding (runResult ran) (destroyStatement (st.place this))
  st.leave this
where
  runResult : Except Exn Unit → Cxx RawOwners Unit
    | .ok _ => pure ()
    | .error e => Cxx.throw e

/-- `backup::backup`; when it throws there is no object. -/
def backup (this : Nat) (initialised : Bool) (errcode : Int) : Cxx RawOwners Unit := do
  let handle ← Prog.effect fun s =>
    if initialised then (some s.handles.next, { s with handles := s.handles.alloc () })
    else (none, s)
  match handle with
  | some h => Prog.perform fun s => s.put this (some h)
  | none => Cxx.throw (recentError errcode)

def destroyBackup (this : Nat) : Cxx RawOwners Unit := destructor this

/-- The implicit copy constructor of `backup`. -/
def copyBackup (this other : Nat) : Cxx RawOwners Unit :=
  Prog.perform fun s => s.put this (s.held other)

/-- The implicit copy assignment of `backup`. -/
def assignBackup (this other : Nat) : Cxx RawOwners Unit :=
  Prog.perform fun s => s.put this (s.held other)

end Lifetime

/-- The statement objects and the backup objects, each class with its handles. -/
structure Owners where
  statements : RawOwners
  backups : RawOwners

inductive OwnerEvent
  | prepare (answer : PrepareAnswer) (tmps : List Nat) (this : Nat)
  | query (answer : PrepareAnswer) (tmps : List Nat) (ran : Except Exn Unit) (this : Nat)
      (st : Lifetime.LocalObject)
  | moveStatement (this other : Nat)
  | destroyStatement (this : Nat)
  | backup (this : Nat) (initialised : Bool) (errcode : Int)
  | copyBackup (this other : Nat)
  | assignBackup (this other : Nat)
  | destroyBackup (this : Nat)

namespace OwnerEvent

/-- The objects an event makes are new and different, and those it uses are there. -/
def Applies (s : Owners) : OwnerEvent → Prop
  | .prepare _ tmps this =>
    (this :: tmps).Nodup ∧ ∀ k ∈ this :: tmps, ¬ s.statements.Exists k
  | .query _ tmps _ this st =>
    (st.names this ++ tmps).Nodup ∧ ∀ k ∈ st.names this ++ tmps, ¬ s.statements.Exists k
  | .moveStatement this other => ¬ s.statements.Exists this ∧ s.statements.Exists other
  | .destroyStatement this => s.statements.Exists this
  | .backup this _ _ => ¬ s.backups.Exists this
  | .copyBackup this other => ¬ s.backups.Exists this ∧ s.backups.Exists other
  | .assignBackup this other => s.backups.Exists this ∧ s.backups.Exists other
  | .destroyBackup this => s.backups.Exists this

instance (s : Owners) : DecidablePred (Applies s)
  | .prepare _ tmps this =>
    inferInstanceAs (Decidable ((this :: tmps).Nodup ∧
      ∀ k ∈ this :: tmps, ¬ s.statements.Exists k))
  | .query _ tmps _ this st =>
    inferInstanceAs (Decidable ((st.names this ++ tmps).Nodup ∧
      ∀ k ∈ st.names this ++ tmps, ¬ s.statements.Exists k))
  | .moveStatement this other =>
    inferInstanceAs (Decidable (¬ s.statements.Exists this ∧ s.statements.Exists other))
  | .destroyStatement this => inferInstanceAs (Decidable (s.statements.Exists this))
  | .backup this _ _ => inferInstanceAs (Decidable (¬ s.backups.Exists this))
  | .copyBackup this other =>
    inferInstanceAs (Decidable (¬ s.backups.Exists this ∧ s.backups.Exists other))
  | .assignBackup this other =>
    inferInstanceAs (Decidable (s.backups.Exists this ∧ s.backups.Exists other))
  | .destroyBackup this => inferInstanceAs (Decidable (s.backups.Exists this))

/-- An exception leaves the objects as the operation left them. -/
def op (s : Owners) : OwnerEvent → Owners
  | .prepare answer tmps this =>
    { s with statements := (Lifetime.prepare answer tmps this s.statements).final }
  | .query answer tmps ran this st =>
    { s with statements := (Lifetime.query answer tmps ran this st s.statements).final }
  | .moveStatement this other =>
    { s with statements := (Lifetime.moveStatement this other s.statements).final }
  | .destroyStatement this =>
    { s with statements := (Lifetime.destroyStatement this s.statements).final }
  | .backup this initialised errcode =>
    { s with backups := (Lifetime.backup this initialised errcode s.backups).final }
  | .copyBackup this other =>
    { s with backups := (Lifetime.copyBackup this other s.backups).final }
  | .assignBackup this other =>
    { s with backups := (Lifetime.assignBackup this other s.backups).final }
  | .destroyBackup this => { s with backups := (Lifetime.destroyBackup this s.backups).final }

/-- An operation on objects that are not there is no operation of a program. -/
def exec (s : Owners) (e : OwnerEvent) : Owners := if e.Applies s then e.op s else s

/-- No object gets the handle of another one: what is returned with a handle is elided, and what is
moved or copied has none. -/
def CopiesNoHandle (s : Owners) (e : OwnerEvent) : Prop :=
  e.Applies s → match e with
    | .prepare answer tmps _ => answer = .compiled → tmps = []
    | .query answer tmps ran _ st =>
      answer = .compiled → tmps = [] ∧ (st = .elided ∨ ∃ e, ran = .error e)
    | .moveStatement _ other => s.statements.held other = none
    | .copyBackup _ other => s.backups.held other = none
    | .assignBackup this other =>
      this ≠ other → s.backups.held this = none ∧ s.backups.held other = none
    | .destroyStatement _ | .backup _ _ _ | .destroyBackup _ => True

end OwnerEvent

namespace Owners

def empty : Owners := ⟨RawOwners.empty, RawOwners.empty⟩

/-- Every handle made is released once and by an object that has it, whatever order the objects
are destroyed in. -/
def Orderly (s : Owners) : Prop := s.statements.Orderly ∧ s.backups.Orderly

end Owners

namespace Lifetime
open RawOwners

private theorem destructor_ends (this : Nat) (s : RawOwners) :
    Prog.Ends (destructor this) s (.ok ()) (s.drop this) := by
  rcases h : s.held this with _ | i
  · constructor <;> simp [destructor, RawOwners.drop, h]
  · constructor <;> simp [destructor, RawOwners.drop, h]

private theorem passOn_ends (this tmp : Nat) (s : RawOwners) :
    Prog.Ends (passOn this tmp) s (.ok ()) ((s.put this (s.held tmp)).drop tmp) :=
  (Prog.Ends.perform _ s).bind (destructor_ends tmp _)

private theorem passOn_none {s : RawOwners} {this tmp : Nat} (hthis : s.held this = none)
    (htmp : s.held tmp = none) : SameOwners s ((s.put this (s.held tmp)).drop tmp) := by
  have hput : SameOwners s (s.put this (s.held tmp)) := sameOwners_put (by rw [hthis, htmp])
  refine hput.trans (sameOwners_drop ?_)
  rw [hput.held, htmp]

private theorem passOn_some {s : RawOwners} {this tmp h : Nat} (hne : this ≠ tmp)
    (htmp : s.held tmp = some h) :
    ((s.put this (s.held tmp)).drop tmp).held this = some h ∧
      ((s.put this (s.held tmp)).drop tmp).handles.frees h = s.handles.frees h + 1 := by
  have hput : (s.put this (s.held tmp)).held tmp = some h := by
    rw [put_held, Function.update_of_ne (Ne.symm hne), htmp]
  constructor
  · rw [drop_held, Function.update_of_ne hne, put_held, Function.update_self, htmp]
  · rw [drop_frees_of_held hput, put_handles]

private theorem returned_none (tmps : List Nat) {this : Nat} {s : RawOwners}
    (hnone : ∀ k ∈ this :: tmps, s.held k = none) :
    ∃ t, Prog.Ends (returned none this tmps) s (.ok ()) t ∧ SameOwners s t := by
  induction tmps generalizing this with
  | nil =>
    have hthis := hnone this List.mem_cons_self
    exact ⟨_, Prog.Ends.perform _ s, sameOwners_put hthis⟩
  | cons tmp tmps ih =>
    have hthis := hnone this List.mem_cons_self
    obtain ⟨t, hends, hsame⟩ := ih fun k hk => hnone k (List.mem_cons_of_mem _ hk)
    refine ⟨_, hends.bind (passOn_ends this tmp t), hsame.trans (passOn_none ?_ ?_)⟩
    · rw [hsame.held, hthis]
    · rw [hsame.held, hnone tmp (by simp)]

private theorem returned_held (tmps : List Nat) {this : Nat} (h : Nat) (s : RawOwners)
    (hnodup : (this :: tmps).Nodup) :
    ∃ t, Prog.Ends (returned (some h) this tmps) s (.ok ()) t ∧ t.held this = some h ∧
      (tmps ≠ [] → 1 ≤ t.handles.frees h) := by
  induction tmps generalizing this with
  | nil =>
    refine ⟨_, Prog.Ends.perform _ s, ?_, fun hne => absurd rfl hne⟩
    rw [put_held, Function.update_self]
  | cons tmp tmps ih =>
    obtain ⟨hthis, hrest⟩ := List.nodup_cons.mp hnodup
    have hne : this ≠ tmp := fun heq => hthis (heq ▸ List.mem_cons_self)
    obtain ⟨t, hends, hheld, -⟩ := ih hrest
    obtain ⟨hpassed, hfrees⟩ := passOn_some hne hheld
    refine ⟨_, hends.bind (passOn_ends this tmp t), hpassed, fun _ => ?_⟩
    omega

/-- What `prepare` can do: nothing to the handles, one new handle for the object, or an object with
a handle that a temporary has released. -/
inductive Prepared (s : RawOwners) (this : Nat) (answer : PrepareAnswer) (tmps : List Nat) :
    Except Raised Unit → RawOwners → Prop
  | without (o t) (hanswer : answer ≠ .compiled) (hsame : SameOwners s t) :
    Prepared s this answer tmps o t
  | elided (hanswer : answer = .compiled) (htmps : tmps = []) :
    Prepared s this answer tmps (.ok ()) (s.putNew this)
  | released (t h) (hanswer : answer = .compiled) (htmps : tmps ≠ [])
    (hheld : t.held this = some h) (hfrees : 1 ≤ t.handles.frees h) :
    Prepared s this answer tmps (.ok ()) t

private theorem prepare_ends (answer : PrepareAnswer) {tmps : List Nat} {this : Nat} {s : RawOwners}
    (hnodup : (this :: tmps).Nodup) (hnone : ∀ k ∈ this :: tmps, s.held k = none) :
    ∃ o t, Prog.Ends (prepare answer tmps this) s o t ∧ Prepared s this answer tmps o t := by
  have hblank : ∀ rv, rv = SQLITE_OK → ∃ t,
      Prog.Ends (if rv ≠ SQLITE_OK then Cxx.throw (staticError rv) else returned none this tmps) s
        (.ok ()) t ∧ SameOwners s t := by
    intro rv hrv
    rw [if_neg (not_not_intro hrv)]
    exact returned_none tmps hnone
  cases answer with
  | blank =>
    obtain ⟨t, hends, hsame⟩ := hblank SQLITE_OK rfl
    exact ⟨_, t, (Prog.Ends.effect _ s).bind hends, .without _ t (by decide) hsame⟩
  | failed rv =>
    by_cases hrv : rv = SQLITE_OK
    · obtain ⟨t, hends, hsame⟩ := hblank rv hrv
      exact ⟨_, t, (Prog.Ends.effect _ s).bind hends, .without _ t (by simp) hsame⟩
    · have hthrow : Prog.Ends (prepare (.failed rv) tmps this) s
          (.error (.exception (staticError rv))) s := by
        apply (Prog.Ends.effect _ s).bind
        change Prog.Ends (if rv ≠ SQLITE_OK then Cxx.throw (staticError rv) else _) s _ s
        rw [if_pos hrv]
        exact Prog.Ends.raise _ s
      exact ⟨_, s, hthrow, .without _ s (by simp) ⟨rfl, rfl⟩⟩
  | compiled =>
    by_cases htmps : tmps = []
    · subst htmps
      exact ⟨_, _, (Prog.Ends.effect _ s).bind (Prog.Ends.perform _ _), .elided rfl rfl⟩
    · obtain ⟨t, hends, hheld, hfrees⟩ := returned_held tmps s.handles.next
        { s with handles := s.handles.alloc () } hnodup
      exact ⟨_, t, (Prog.Ends.effect _ s).bind hends,
        .released t _ rfl htmps hheld (hfrees htmps)⟩

def afterPrepare (prepared : Except Raised Unit) (ran : Except Exn Unit) (this : Nat)
    (st : LocalObject) (t : RawOwners) : RawOwners :=
  match prepared, ran with
  | .error _, _ => t
  | .ok _, .error _ => t.drop (st.place this)
  | .ok _, .ok _ => (st.leave this t).final

private theorem query_final {answer : PrepareAnswer} {tmps : List Nat} {this : Nat}
    {st : LocalObject} {s t : RawOwners} {o : Except Raised Unit} (ran : Except Exn Unit)
    (hprepare : Prog.Ends (prepare answer tmps (st.place this)) s o t) :
    (query answer tmps ran this st s).final = afterPrepare o ran this st t := by
  cases o with
  | error r => exact hprepare.bind_error.final
  | ok a =>
    cases ran with
    | ok b =>
      have hran := Cxx.unwinding_ok (Prog.Ends.pure () t) (destroyStatement (st.place this))
      exact (hprepare.bind (hran.bind ⟨rfl, rfl⟩)).final
    | error e =>
      have hran : Prog.Ends (Cxx.unwinding (query.runResult (.error e))
          (destroyStatement (st.place this))) t (.error (.exception e)) (t.drop (st.place this)) :=
        Cxx.unwinding_throw (Prog.Ends.raise _ t) (destructor_ends (st.place this) t)
      exact (hprepare.bind hran.bind_error).final

private theorem leave_final (st : LocalObject) (this : Nat) (t : RawOwners) :
    (st.leave this t).final =
      match st with
      | .elided => t
      | .moved st => (t.put this (t.held st)).drop st := by
  cases st with
  | elided => rfl
  | moved st => exact (passOn_ends this st t).final

private theorem fresh_place {st : LocalObject} {this : Nat} {tmps : List Nat} {s : RawOwners}
    (hnodup : (st.names this ++ tmps).Nodup)
    (hnone : ∀ k ∈ st.names this ++ tmps, s.held k = none) :
    (st.place this :: tmps).Nodup ∧ ∀ k ∈ st.place this :: tmps, s.held k = none := by
  cases st with
  | elided => exact ⟨hnodup, hnone⟩
  | moved st =>
    refine ⟨(List.nodup_cons.mp hnodup).2, ?_⟩
    intro k hk
    exact hnone k (List.mem_cons_of_mem _ hk)

private theorem query_owned {answer : PrepareAnswer} {tmps : List Nat} (ran : Except Exn Unit)
    {this : Nat} {st : LocalObject} {s : RawOwners} (hs : s.handles.Owned s.held)
    (hnodup : (st.names this ++ tmps).Nodup)
    (hnone : ∀ k ∈ st.names this ++ tmps, s.held k = none)
    (hok : answer = .compiled → tmps = [] ∧ (st = .elided ∨ ∃ e, ran = .error e)) :
    (query answer tmps ran this st s).final.handles.Owned
      (query answer tmps ran this st s).final.held := by
  obtain ⟨hplace, hplaceNone⟩ := fresh_place hnodup hnone
  obtain ⟨o, t, hends, hprepared⟩ := prepare_ends answer hplace hplaceNone
  rw [query_final ran hends]
  cases hprepared with
  | without _ _ _ hsame =>
    have ht := hsame.owned hs
    cases o with
    | error r => exact ht
    | ok a =>
      cases ran with
      | error e => exact owned_drop ht _
      | ok b =>
        rw [afterPrepare, leave_final]
        cases st with
        | elided => exact ht
        | moved st =>
          have hpassed : SameOwners t ((t.put this (t.held st)).drop st) := by
            apply passOn_none
            · rw [hsame.held, hnone this (by simp [LocalObject.names])]
            · rw [hsame.held, hnone st (by simp [LocalObject.names])]
          exact hpassed.owned ht
  | elided hanswer _ =>
    have ht := owned_putNew hs (hplaceNone _ List.mem_cons_self)
    cases ran with
    | error e => exact owned_drop ht _
    | ok b =>
      have hst : st = .elided := (hok hanswer).2.resolve_right (by simp)
      subst hst
      exact ht
  | released _ _ hanswer htmps => exact absurd (hok hanswer).1 htmps

private theorem query_not_orderly {answer : PrepareAnswer} {tmps : List Nat} (ran : Except Exn Unit)
    {this : Nat} {st : LocalObject} {s : RawOwners}
    (hnodup : (st.names this ++ tmps).Nodup)
    (hnone : ∀ k ∈ st.names this ++ tmps, s.held k = none)
    (hno : ¬ (answer = .compiled → tmps = [] ∧ (st = .elided ∨ ∃ e, ran = .error e))) :
    ¬ (query answer tmps ran this st s).final.Orderly := by
  obtain ⟨hcompiled, hno⟩ := Classical.not_imp.mp hno
  obtain ⟨hplace, hplaceNone⟩ := fresh_place hnodup hnone
  have hleave : ∀ t h, t.held (st.place this) = some h →
      (st = .elided → 1 ≤ t.handles.frees h) → ¬ (st.leave this t).final.Orderly := by
    intro t h hheld hfrees
    rw [leave_final]
    cases st with
    | elided => exact not_orderly_of_dangling hheld (hfrees rfl)
    | moved st =>
      have hne : this ≠ st := by
        have hnotin := (List.nodup_cons.mp hnodup).1
        exact fun heq => hnotin (heq ▸ List.mem_cons_self)
      obtain ⟨hpassed, hcount⟩ := passOn_some hne hheld
      apply not_orderly_of_dangling hpassed
      rw [hcount]
      omega
  obtain ⟨o, t, hends, hprepared⟩ := prepare_ends answer hplace hplaceNone
  rw [query_final ran hends]
  cases hprepared with
  | without _ _ hanswer _ => exact absurd hcompiled hanswer
  | elided _ htmps =>
    cases ran with
    | error e => exact absurd ⟨htmps, Or.inr ⟨e, rfl⟩⟩ hno
    | ok b =>
      apply hleave (s.putNew (st.place this)) s.handles.next
      · rw [putNew, put_held, Function.update_self]
      · intro hst
        exact absurd ⟨htmps, Or.inl hst⟩ hno
  | released _ h _ _ hheld hfrees =>
    cases ran with
    | error e =>
      apply not_orderly_of_twice (h := h)
      change 2 ≤ (t.drop (st.place this)).handles.frees h
      rw [drop_frees_of_held hheld]
      omega
    | ok b => exact hleave t h hheld fun _ => hfrees

end Lifetime

namespace Owners

/-- The handles alive are those the objects have, each of one object. -/
structure Single (s : Owners) : Prop where
  statements : s.statements.handles.Owned s.statements.held
  backups : s.backups.handles.Owned s.backups.held

private theorem Single.orderly {s : Owners} (hs : s.Single) : s.Orderly :=
  ⟨RawOwners.orderly_of_owned hs.statements, RawOwners.orderly_of_owned hs.backups⟩

private theorem single_empty : empty.Single := ⟨RawOwners.owned_empty, RawOwners.owned_empty⟩

end Owners

namespace Lifetime
open RawOwners

private theorem backup_final (this : Nat) (initialised : Bool) (errcode : Int) (s : RawOwners) :
    (backup this initialised errcode s).final = if initialised then s.putNew this else s := by
  cases initialised <;> simp [backup, putNew]

private theorem put_not_orderly {s : RawOwners} {this other h : Nat}
    (hne : this ≠ other) (hother : s.held other = some h) :
    ¬ (s.put this (s.held other)).Orderly := by
  apply not_orderly_of_shared hne (h := h)
  · rw [put_held, Function.update_self, hother]
  · rw [put_held, Function.update_of_ne (Ne.symm hne), hother]

end Lifetime

namespace OwnerEvent
open RawOwners Lifetime

private theorem exec_single {s : Owners} (hs : s.Single) (e : OwnerEvent)
    (hok : e.CopiesNoHandle s) :
    (e.exec s).Single := by
  rw [exec]
  by_cases happ : e.Applies s
  · rw [if_pos happ]
    have hok := hok happ
    cases e with
    | prepare answer tmps this =>
      obtain ⟨hnodup, hnew⟩ := happ
      have hnone : ∀ k ∈ this :: tmps, s.statements.held k = none :=
        fun k hk => held_of_not_exists (hnew k hk)
      refine ⟨?_, hs.backups⟩
      obtain ⟨o, t, hends, hprepared⟩ := prepare_ends answer hnodup hnone
      rw [op, hends.final]
      cases hprepared with
      | without _ _ _ hsame => exact hsame.owned hs.statements
      | elided _ _ => exact owned_putNew hs.statements (hnone this List.mem_cons_self)
      | released _ _ hanswer htmps => exact absurd (hok hanswer) htmps
    | query answer tmps ran this st =>
      obtain ⟨hnodup, hnew⟩ := happ
      refine ⟨query_owned ran hs.statements hnodup ?_ hok, hs.backups⟩
      intro k hk
      exact held_of_not_exists (hnew k hk)
    | moveStatement this other =>
      have hother : s.statements.held other = none := hok
      have hsame : s.statements.held this = s.statements.held other := by
        rw [held_of_not_exists happ.1, hother]
      exact ⟨(sameOwners_put hsame).owned hs.statements, hs.backups⟩
    | destroyStatement this =>
      refine ⟨?_, hs.backups⟩
      rw [op, Lifetime.destroyStatement, (destructor_ends this s.statements).final]
      exact owned_drop hs.statements this
    | backup this initialised errcode =>
      refine ⟨hs.statements, ?_⟩
      rw [op, backup_final]
      cases initialised with
      | false => exact hs.backups
      | true => exact owned_putNew hs.backups (held_of_not_exists happ)
    | copyBackup this other =>
      have hother : s.backups.held other = none := hok
      have hsame : s.backups.held this = s.backups.held other := by
        rw [held_of_not_exists happ.1, hother]
      exact ⟨hs.statements, (sameOwners_put hsame).owned hs.backups⟩
    | assignBackup this other =>
      have hsame : s.backups.held this = s.backups.held other := by
        by_cases hself : this = other
        · rw [hself]
        · obtain ⟨hthis, hother⟩ := hok hself
          rw [hthis, hother]
      exact ⟨hs.statements, (sameOwners_put hsame).owned hs.backups⟩
    | destroyBackup this =>
      refine ⟨hs.statements, ?_⟩
      rw [op, Lifetime.destroyBackup, (destructor_ends this s.backups).final]
      exact owned_drop hs.backups this
  · rw [if_neg happ]
    exact hs

private theorem exec_not_orderly {s : Owners} (hs : s.Single) (e : OwnerEvent)
    (hno : ¬ e.CopiesNoHandle s) : ¬ (e.exec s).Orderly := by
  obtain ⟨happ, hno⟩ := Classical.not_imp.mp hno
  rw [exec, if_pos happ]
  intro horderly
  cases e with
  | prepare answer tmps this =>
    obtain ⟨hnodup, hnew⟩ := happ
    obtain ⟨hcompiled, htmps⟩ := Classical.not_imp.mp hno
    have hnone : ∀ k ∈ this :: tmps, s.statements.held k = none :=
      fun k hk => held_of_not_exists (hnew k hk)
    obtain ⟨o, t, hends, hprepared⟩ := prepare_ends answer hnodup hnone
    have ht : t.Orderly := hends.final ▸ horderly.1
    cases hprepared with
    | without _ _ hanswer => exact hanswer hcompiled
    | elided _ hnil => exact htmps hnil
    | released _ _ _ _ hheld hfrees => exact not_orderly_of_dangling hheld hfrees ht
  | query answer tmps ran this st =>
    obtain ⟨hnodup, hnew⟩ := happ
    refine query_not_orderly ran hnodup ?_ hno horderly.1
    intro k hk
    exact held_of_not_exists (hnew k hk)
  | moveStatement this other =>
    obtain ⟨h, hother⟩ := Option.ne_none_iff_exists'.mp hno
    have hne : this ≠ other := fun heq => happ.1 (heq ▸ happ.2)
    exact put_not_orderly hne hother horderly.1
  | copyBackup this other =>
    obtain ⟨h, hother⟩ := Option.ne_none_iff_exists'.mp hno
    have hne : this ≠ other := fun heq => happ.1 (heq ▸ happ.2)
    exact put_not_orderly hne hother horderly.2
  | assignBackup this other =>
    obtain ⟨hne, hno⟩ := Classical.not_imp.mp hno
    rcases hother : s.backups.held other with _ | h
    · -- the handle of the target is overwritten with null
      obtain ⟨h, hthis⟩ := Option.ne_none_iff_exists'.mp fun hthis => hno ⟨hthis, hother⟩
      have hlive := hs.backups.live this h hthis
      refine not_orderly_of_lost (h := h) ?_ ?_ ?_ horderly.2
      · exact hs.backups.sound.lt_next hlive
      · exact hs.backups.sound.live h hlive
      · intro k hk
        change (s.backups.put this (s.backups.held other)).held k = some h at hk
        rw [put_held, hother] at hk
        obtain ⟨hkne, hk⟩ := Heap.of_update_none hk
        exact hkne (hs.backups.inj k this h hk hthis)
    · exact put_not_orderly hne hother horderly.2
  | _ => exact hno trivial

end OwnerEvent

/-- Every statement and backup handle is released exactly once, in whatever order the objects go, in
exactly the executions in which no object gets the handle of another one. -/
theorem released_once_iff (es : List OwnerEvent) :
    Always OwnerEvent.exec Owners.Orderly Owners.empty es ↔
      StepsMeet OwnerEvent.exec OwnerEvent.CopiesNoHandle Owners.empty es :=
  always_iff_stepsMeet (fun _ hs => hs.orderly) (fun _ e hs hok => e.exec_single hs hok)
    (fun _ e hs hno => e.exec_not_orderly hs hno) Owners.single_empty es

/-- A statement is prepared, moved from and both objects are destroyed; a backup is copied and both
are destroyed. -/
theorem released_twice_after_move_or_copy :
    let es : List OwnerEvent :=
      [.prepare .compiled [] 0, .moveStatement 1 0, .destroyStatement 1, .destroyStatement 0,
        .backup 0 true 0, .copyBackup 1 0, .destroyBackup 1, .destroyBackup 0]
    (run OwnerEvent.exec Owners.empty es).statements.handles.frees 0 = 2 ∧
      (run OwnerEvent.exec Owners.empty es).backups.handles.frees 0 = 2 ∧
      ¬ Always OwnerEvent.exec Owners.Orderly Owners.empty es := by
  intro es
  have htwice : (run OwnerEvent.exec Owners.empty es).statements.handles.frees 0 = 2 := by decide
  have hbackup : (run OwnerEvent.exec Owners.empty es).backups.handles.frees 0 = 2 := by decide
  refine ⟨htwice, hbackup, fun halways => ?_⟩
  exact RawOwners.not_orderly_of_twice (Nat.le_of_eq htwice.symm) halways.last.1

end Sqxx
