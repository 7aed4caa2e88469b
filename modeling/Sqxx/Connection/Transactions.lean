import Sqxx.Connection.LibraryWork
import Sqxx.Sqlite.Transactions

/-!
# Transactions under handlers

The commit handler of a connection decides over its transactions, and the update and the rollback
handler hear of what becomes of them, as far as the library tells them.
-/

namespace Sqxx
open Framework

structure TransactionWorld (S U X : Type) where
  handlers : HandlerWorld S U
  contents : Contents X

def TransactionWorld.withHandlers {S U X : Type} (handlers : HandlerWorld S U)
    (w : TransactionWorld S U X) : TransactionWorld S U X :=
  { w with handlers := handlers }

inductive TransactionEvent (U X R : Type)
  | handler (e : HandlerEvent (HandlerFunctions U))
  | exceptionHandler (fn : CallbackExceptionHandler U)
  | work (d : TransactionWork X R)

variable {S U X R : Type}

/-- The contents change, and a hook may be called. -/
def TransactionAct.carryOut [HookApi S] (this : Nat) (act : TransactionAct X) :
    Cxx (TransactionWorld S U X) (Option Int) := do
  Prog.perform fun w => { w with contents := act.effect w.contents }
  match act.hook with
  | some c =>
    Prog.zoom TransactionWorld.handlers TransactionWorld.withHandlers (c.callHook this)
  | none => pure none

namespace TransactionEvent

variable [HookApi S]

def op (this : Nat) : TransactionEvent U X R → Cxx (TransactionWorld S U X) (Option R)
  | .handler e => Prog.zoom TransactionWorld.handlers TransactionWorld.withHandlers
    (LibraryEvent.op this (.handler e))
  | .exceptionHandler fn => Prog.zoom TransactionWorld.handlers TransactionWorld.withHandlers
    (LibraryEvent.op this (.exceptionHandler fn))
  | .work d => do
    let r ← d.calling (TransactionAct.carryOut this)
    pure (some r)

def machine (this : Nat) :
    Machine (TransactionWorld S U X) (TransactionEvent U X R) (Except Raised (Option R)) :=
  fun w e => ((op this e w).outcome, (op this e w).final)

end TransactionEvent

/-- The contents, and the functions alone. -/
structure Transactions (U X : Type) where
  functions : LastFunctions U
  contents : Contents X

namespace Transactions

def carryOut (this : Nat) : Machine (Transactions U X) (TransactionAct X) (Option Int) :=
  fun t act =>
    match act.hook with
    | some c => ((LastFunctions.tell this t.functions c).1,
        ⟨(LastFunctions.tell this t.functions c).2, act.effect t.contents⟩)
    | none => (none, ⟨t.functions, act.effect t.contents⟩)

def machine (shared : Bool) (this : Nat) :
    Machine (Transactions U X) (TransactionEvent U X R) (Except Raised (Option R)) := fun t e =>
  match e with
  | .handler e => (.ok none, { t with
      functions := { t.functions with last := e.note shared t.functions.last } })
  | .exceptionHandler fn => (.ok none, { t with functions := { t.functions with
      callbacks := { t.functions.callbacks with handler := fn } } })
  | .work d => (.ok (some (d.talk (carryOut this) t).1), (d.talk (carryOut this) t).2)

private theorem carryOut_call {this : Nat} {t : Transactions U X} {act : TransactionAct X}
    {c : LibraryCall} (hhook : act.hook = some c) :
    carryOut this t act = ((LastFunctions.tell this t.functions c).1,
      ⟨(LastFunctions.tell this t.functions c).2, act.effect t.contents⟩) := by
  rw [carryOut, hhook]

private theorem carryOut_silent {this : Nat} {t : Transactions U X} {act : TransactionAct X}
    (hhook : act.hook = none) :
    carryOut this t act = (none, ⟨t.functions, act.effect t.contents⟩) := by
  rw [carryOut, hhook]

theorem returns (shared : Bool) (this : Nat) (t : Transactions U X)
    (es : List (TransactionEvent U X R)) :
    ∀ answer ∈ (machine shared this).history t es, ∃ r, answer.2 = .ok r := by
  induction es generalizing t with
  | nil => simp
  | cons e es ih =>
    rw [Machine.history_cons]
    refine List.forall_mem_cons.mpr ⟨?_, ih _⟩
    cases e with
    | handler e => exact ⟨none, rfl⟩
    | exceptionHandler fn => exact ⟨none, rfl⟩
    | work d => exact ⟨some _, rfl⟩

end Transactions

section Following

variable [HookApi S] {shared : Bool} {this h : Nat} {w : TransactionWorld S U X}
  {t : Transactions U X}

/-- The handlers of the connection are the functions set last, and the contents are the same. -/
structure Follows (this h : Nat) (w : TransactionWorld S U X) (t : Transactions U X) : Prop where
  implements : Implements this h w.handlers t.functions
  contents : w.contents = t.contents

namespace Follows

theorem carryOut (hw : Follows this h w t) (act : TransactionAct X) :
    ∃ v, Prog.Ends (act.carryOut this) w (.ok (Transactions.carryOut this t act).1) v ∧
      Follows this h v ((Transactions.carryOut this).next t act) := by
  let changed : TransactionWorld S U X := { w with contents := act.effect w.contents }
  have heffect : changed.contents = act.effect t.contents := congrArg act.effect hw.contents
  rw [Machine.next]
  rcases hhook : act.hook with _ | c
  · rw [Transactions.carryOut_silent hhook]
    refine ⟨changed, ?_, hw.implements, heffect⟩
    apply (Prog.Ends.perform _ w).bind
    rw [hhook]
    exact Prog.Ends.pure none changed
  · rw [Transactions.carryOut_call hhook]
    let told : HandlerWorld S U := { w.handlers with
      callbacks := (LastFunctions.tell this t.functions c).2.callbacks }
    refine ⟨.withHandlers told changed, ?_, hw.implements.told c, heffect⟩
    apply (Prog.Ends.perform _ w).bind
    rw [hhook]
    exact Prog.Ends.zoom (hw.implements.callHook_ends c)

theorem work (hw : Follows this h w t) (d : TransactionWork X R) :
    ∃ v, Prog.Ends (TransactionEvent.op this (.work d : TransactionEvent U X R)) w
        (.ok (some (d.talk (Transactions.carryOut this) t).1)) v ∧
      Follows this h v (d.talk (Transactions.carryOut this) t).2 := by
  have hcall : ∀ (w : TransactionWorld S U X) t act, Follows this h w t →
      ∃ v, Prog.Ends (TransactionAct.carryOut this act) w
          (.ok (Transactions.carryOut this t act).1) v ∧
        Follows this h v ((Transactions.carryOut this).next t act) :=
    fun w t act hw => hw.carryOut act
  obtain ⟨v, hends, hv⟩ := d.calling_follows hcall hw
  exact ⟨v, hends.bind (Prog.Ends.pure _ v), hv⟩

theorem step (laws : HookLaws shared S) (hw : Follows this h w t) (e : TransactionEvent U X R) :
    (TransactionEvent.machine this w e).1 = (Transactions.machine shared this t e).1 ∧
      Follows this h ((TransactionEvent.machine this).next w e)
        ((Transactions.machine shared this).next t e) := by
  have hends : ∃ v, Prog.Ends (e.op this) w (Transactions.machine shared this t e).1 v ∧
      Follows this h v (Transactions.machine shared this t e).2 := by
    cases e with
    | handler e =>
      obtain ⟨v, hends, hv⟩ := hw.implements.handler laws e
      exact ⟨.withHandlers v w, Prog.Ends.zoom hends, hv, hw.contents⟩
    | exceptionHandler fn =>
      obtain ⟨v, hends, hv⟩ := hw.implements.exceptionHandler fn
      exact ⟨.withHandlers v w, Prog.Ends.zoom hends, hv, hw.contents⟩
    | work d => exact hw.work d
  obtain ⟨v, hends, hv⟩ := hends
  refine ⟨hends.outcome, ?_⟩
  change Follows this h (e.op this w).final _
  rw [hends.final]
  exact hv

private theorem installed (laws : HookLaws shared S) {sqlite : S} (hfresh : NoUserHooks sqlite)
    (this : Nat) (install : List (HandlerEvent (HandlerFunctions U)))
    (callbacks : CallbackState U) (contents : Contents X) :
    ∃ h, Follows this h
      ⟨⟨Framework.run (HandlerEvent.exec this) (World.opened sqlite this) install, callbacks⟩,
        contents⟩
      ⟨⟨HandlerEvent.lastSet shared install, callbacks⟩, contents⟩ := by
  obtain ⟨h, hopened⟩ := Registered.init hfresh this
  exact ⟨h, ⟨hopened.run_exec laws install, rfl⟩, rfl⟩

theorem run (laws : HookLaws shared S) (hw : Follows this h w t)
    (es : List (TransactionEvent U X R)) :
    (TransactionEvent.machine this).history w es = (Transactions.machine shared this).history t es ∧
      Follows this h (Framework.run (TransactionEvent.machine this).next w es)
        (Framework.run (Transactions.machine shared this).next t es) := by
  have hall : StepsMeet (Transactions.machine shared this).next (fun _ _ => True) t es :=
    stepsMeet_of_forall fun _ _ => trivial
  exact Machine.refines_run (fun _ _ e hw _ => hw.step laws e) hw hall

end Follows

/-- On an open connection, in any order of operations on handlers of all kinds and work of the
library, which calls hooks, changes rows with and without telling the update hook, commits and rolls
back as it likes and goes on as the hooks answer: every operation returns, and the results of the
work, the contents, the user's state and the reports of exceptions are those of the same work with
the functions set last. -/
theorem transactions_follow_handlers (laws : HookLaws shared S) {sqlite : S}
    (hfresh : NoUserHooks sqlite) (this : Nat) (callbacks : CallbackState U)
    (contents : Contents X) (es : List (TransactionEvent U X R)) :
    let start : TransactionWorld S U X := ⟨⟨World.opened sqlite this, callbacks⟩, contents⟩
    let alone : Transactions U X := ⟨⟨fun _ => none, callbacks⟩, contents⟩
    let w := run (TransactionEvent.machine this).next start es
    let t := run (Transactions.machine shared this).next alone es
    (∀ answer ∈ (TransactionEvent.machine this).history start es, ∃ r, answer.2 = .ok r) ∧
      (TransactionEvent.machine this).history start es =
        (Transactions.machine shared this).history alone es ∧
      w.contents = t.contents ∧ w.handlers.callbacks = t.functions.callbacks := by
  intro start alone w t
  obtain ⟨h, hstart⟩ := Follows.installed laws hfresh this [] callbacks contents
  obtain ⟨hhistory, hw⟩ := hstart.run laws es
  have hsame : (TransactionEvent.machine this).history start es =
      (Transactions.machine shared this).history alone es := hhistory
  refine ⟨?_, hsame, hw.contents, hw.implements.callbacks⟩
  rw [hsame]
  exact Transactions.returns shared this alone es

end Following

/-- A row is committed, a handler is set that throws, and the next row is rolled back. -/
theorem transactions_follow_handlers_throw :
    let row : RowChange Nat :=
      ⟨SQLITE_INSERT, ⟨[109], by decide, by decide⟩, ⟨[116], by decide, by decide⟩, 1, (· + 1)⟩
    let es : List (TransactionEvent Nat Nat Unit) :=
      [.work (acting (.write row)), .work committing,
        .handler (.set .commit 0 (some { readersOnly with
          commit := fun u => (.error (.stdException "locked"), u) })),
        .work (acting (.write row)), .work committing]
    let start : TransactionWorld (SlotTable true) Nat Nat :=
      ⟨⟨World.opened SlotTable.fresh 0, ⟨0, .default, []⟩⟩, ⟨0, 0⟩⟩
    let w := run (TransactionEvent.machine 0).next start es
    w.contents = ⟨1, 1⟩ ∧ w.handlers.callbacks.reports =
      [.printed "commit handler" (some (.stdException "locked"))
        (.what (.stdException "locked"))] := by
  intro row es start w
  obtain ⟨-, -, hcontents, hcallbacks⟩ := transactions_follow_handlers (S := SlotTable true)
    SlotTable.hookLaws SlotTable.noUserHooks 0 ⟨0, .default, []⟩ ⟨0, 0⟩ es
  refine ⟨hcontents.trans rfl, ?_⟩
  rw [hcallbacks]
  rfl

/-! ## Handlers as guards -/

section Guards

/-- What the guards know of the contents (`I`), what they let be committed (`P`), the changes that
they are told (`W`) and not told (`Z`), and the exception handlers (`H`). -/
structure Guarding (U X : Type) where
  I : U → Contents X → Prop
  P : X → Prop
  W : RowChange X → Prop
  Z : (X → X) → Prop
  H : CallbackExceptionHandler U → Prop

namespace Guarding

/-- What is known stays true where no handler is told of a change. -/
structure Steady (g : Guarding U X) : Prop where
  reports : ∀ handler, g.H handler → ∀ cbname e u x, g.I u x →
    g.I (afterHandler cbname e u handler) x
  changes : ∀ f, g.Z f → ∀ u x, g.I u x → g.I u { x with pending := f x.pending }
  commits : ∀ u x, g.I u x → g.P x.pending → g.I u { x with committed := x.pending }
  rollsBack : ∀ u x, g.I u x → g.I u { x with pending := x.committed }

/-- What the call is for: a function called for a change or a rollback is told of it, the commit
function approves nothing but what has the property, and no other function loses what is known. It
may end with an exception. -/
def Meets (g : Guarding U X) (x : Contents X) (o : Except Exn (Option Int)) (u' : U) :
    LibraryCall → Prop
  | .update op databaseName tableName rowid => ∀ change,
    g.W ⟨op, databaseName, tableName, rowid, change⟩ →
      g.I u' { x with pending := change x.pending }
  | .rollback => g.I u' { x with pending := x.committed }
  | .commit => g.I u' x ∧ (o = .ok (some 0) → g.P x.pending)
  | _ => g.I u' x

def Guards (g : Guarding U X) (this : Nat) (kind : HookKind) (f : HandlerFunctions U) : Prop :=
  ∀ c : LibraryCall, c.kind = kind → ∀ u x o u', g.I u x →
    (c.call this f).userCall u = (o, u') → g.Meets x o u' c

/-- What is set guards as well; the update and the commit handler are not cleared. -/
def Keeps (g : Guarding U X) (this : Nat) : TransactionEvent U X R → Prop
  | .handler e => (∀ f, e.leaves = some f → g.Guards this e.kind f) ∧
    (e.kind = .update ∨ e.kind = .commit → e.leaves ≠ none)
  | .exceptionHandler fn => g.H fn
  | .work d => Lawful g.W g.Z false d

end Guarding

/-- The handlers set last are guards, and an update and a commit handler are set. -/
structure UnderGuard (g : Guarding U X) (this : Nat) (t : Transactions U X) : Prop where
  reported : g.H t.functions.callbacks.handler
  guards : ∀ kind f, t.functions.last kind = some f → g.Guards this kind f
  update : t.functions.last .update ≠ none
  commit : t.functions.last .commit ≠ none
  related : g.I t.functions.callbacks.user t.contents
  holds : g.P t.contents.committed

variable {g : Guarding U X} {shared : Bool} {this : Nat} {t : Transactions U X}

namespace UnderGuard

theorem told (hsteady : g.Steady) (ht : UnderGuard g this t) {c : LibraryCall}
    {f : HandlerFunctions U} (hlast : t.functions.last c.kind = some f) {x : Contents X}
    (hcall : ∀ o u', (c.call this f).userCall t.functions.callbacks.user = (o, u') → g.I u' x)
    (hholds : g.P x.committed) :
    UnderGuard g this ⟨(LastFunctions.tell this t.functions c).2, x⟩ := by
  have hrelated : g.I ((c.call this f).ran t.functions.callbacks).2.user x :=
    HandlerCall.ran_keeps (J := fun u => g.I u x) hcall
      fun cbname e u hu => hsteady.reports _ ht.reported cbname e u x hu
  have hreported : g.H ((c.call this f).ran t.functions.callbacks).2.handler := by
    rw [HandlerCall.ran_handler]
    exact ht.reported
  rw [LastFunctions.tell_some hlast]
  exact ⟨hreported, ht.guards, ht.update, ht.commit, hrelated, hholds⟩

theorem silent (ht : UnderGuard g this t) {x : Contents X}
    (hrelated : g.I t.functions.callbacks.user x) (hholds : g.P x.committed) :
    UnderGuard g this { t with contents := x } :=
  ⟨ht.reported, ht.guards, ht.update, ht.commit, hrelated, hholds⟩

theorem called (hsteady : g.Steady) (ht : UnderGuard g this t) {c : LibraryCall}
    (hupdate : c.kind ≠ .update) (hrollback : c.kind ≠ .rollback) :
    UnderGuard g this ⟨(LastFunctions.tell this t.functions c).2, t.contents⟩ := by
  rcases hlast : t.functions.last c.kind with _ | f
  · rw [LastFunctions.tell_none hlast]
    exact ht
  · apply ht.told hsteady hlast _ ht.holds
    intro o u' hcall
    have hmeets := ht.guards c.kind f hlast c rfl _ t.contents o u' ht.related hcall
    cases c with
    | update => exact (hupdate rfl).elim
    | rollback => exact (hrollback rfl).elim
    | commit => exact hmeets.1
    | _ => exact hmeets

theorem approved (ht : UnderGuard g this t)
    (hanswer : refuses (LastFunctions.tell this t.functions .commit).1 = false) :
    g.P t.contents.pending := by
  obtain ⟨f, hlast⟩ := Option.ne_none_iff_exists'.mp ht.commit
  rw [LastFunctions.tell_some (c := .commit) hlast] at hanswer
  rcases hcall : (LibraryCall.call this f .commit).userCall t.functions.callbacks.user with
    ⟨e | answer, u'⟩
  · rw [HandlerCall.ran_throw hcall] at hanswer
    cases hanswer
  · have hmeets := ht.guards .commit f hlast .commit rfl _ t.contents _ u' ht.related hcall
    rw [HandlerCall.ran_ok hcall] at hanswer
    apply hmeets.2
    rcases hrun : f.commit t.functions.callbacks.user with ⟨e | rv, u⟩
    · rw [LibraryCall.call, HandlerCall.userCall, HandlerCall.answering, hrun] at hcall
      cases hcall
    · rw [LibraryCall.call, HandlerCall.userCall, HandlerCall.answering, hrun] at hcall
      cases hcall
      have hzero : rv = 0 := by simpa [refuses] using hanswer
      rw [hzero]

theorem carryOut (hsteady : g.Steady) (ht : UnderGuard g this t) {approved : Bool}
    (happroved : approved = true → g.P t.contents.pending) {act : TransactionAct X}
    (hact : act.Lawful g.W g.Z approved) :
    let r := Transactions.carryOut this t act
    UnderGuard g this r.2 ∧ (act.approval approved r.1 = true → g.P r.2.contents.pending) := by
  cases act with
  | call c =>
    obtain ⟨hupdate, hrollback⟩ := hact
    refine ⟨ht.called hsteady hupdate hrollback, fun hanswer => ?_⟩
    by_cases hcommit : c.kind = .commit
    · obtain rfl : c = .commit := by cases c <;> first | rfl | cases hcommit
      apply ht.approved
      simpa [TransactionAct.approval, LibraryCall.kind, Transactions.carryOut,
        TransactionAct.hook] using hanswer
    · rw [TransactionAct.approval, if_neg hcommit] at hanswer
      exact happroved hanswer
  | write row =>
    obtain ⟨f, hlast⟩ := Option.ne_none_iff_exists'.mp ht.update
    let c : LibraryCall := .update row.op row.databaseName row.tableName row.rowid
    refine ⟨ht.told (c := c) hsteady hlast ?_ ht.holds, fun h => by cases h⟩
    intro o u' hcall
    exact ht.guards .update f hlast c rfl _ t.contents o u' ht.related hcall row.change hact
  | change f =>
    exact ⟨ht.silent (hsteady.changes f hact _ _ ht.related) ht.holds, fun h => by cases h⟩
  | commit =>
    have hpending := happroved hact
    exact ⟨ht.silent (hsteady.commits _ _ ht.related hpending) hpending, fun h => by cases h⟩
  | rollback told =>
    refine ⟨?_, fun h => by cases h⟩
    have hsilent := ht.silent (hsteady.rollsBack _ _ ht.related) ht.holds
    cases told with
    | false => exact hsilent
    | true =>
      rcases hlast : t.functions.last .rollback with _ | f
      · rw [Transactions.carryOut_call (c := .rollback) rfl,
          LastFunctions.tell_none (c := .rollback) hlast]
        exact hsilent
      · refine ht.told (c := .rollback) hsteady hlast ?_ ht.holds
        intro o u' hcall
        exact ht.guards .rollback f hlast .rollback rfl _ t.contents o u' ht.related hcall

theorem talk (hsteady : g.Steady) (ht : UnderGuard g this t) {approved : Bool}
    (happroved : approved = true → g.P t.contents.pending) {d : TransactionWork X R}
    (hd : Lawful g.W g.Z approved d) :
    UnderGuard g this (d.talk (Transactions.carryOut this) t).2 := by
  induction d generalizing t approved with
  | done r => exact ht
  | ask act next ih =>
    obtain ⟨hact, hnext⟩ := hd
    obtain ⟨hguard, hpending⟩ := ht.carryOut hsteady happroved hact
    exact ih _ hguard hpending (hnext _)

theorem next (hsteady : g.Steady) (ht : UnderGuard g this t) {e : TransactionEvent U X R}
    (he : g.Keeps this e) : UnderGuard g this ((Transactions.machine shared this).next t e) := by
  cases e with
  | handler e =>
    obtain ⟨hguards, hset⟩ := he
    -- no kind cancels the update or the commit handler
    have hother : ∀ kind, (∀ other : HookKind, other.cancels shared kind = false) →
        (e.kind = kind → e.leaves ≠ none) → t.functions.last kind ≠ none →
        e.note shared t.functions.last kind ≠ none := by
      intro kind hkept hleaves hlast
      by_cases hkind : kind = e.kind
      · rw [HandlerEvent.note, HandlerEvent.leaving, hkind, Function.update_self]
        exact hleaves hkind.symm
      · rw [HandlerEvent.note, HandlerEvent.leaving, Function.update_of_ne hkind, hkept]
        exact hlast
    have hupdate := hother .update (fun other => by cases other <;> rfl)
      (fun hkind => hset (Or.inl hkind)) ht.update
    have hcommit := hother .commit (fun other => by cases other <;> rfl)
      (fun hkind => hset (Or.inr hkind)) ht.commit
    refine ⟨ht.reported, ?_, hupdate, hcommit, ht.related, ht.holds⟩
    intro kind f hlast
    rcases HandlerEvent.leaving_some hlast with ⟨rfl, hleaves⟩ | hbefore
    · exact hguards f hleaves
    · exact ht.guards kind f hbefore
  | exceptionHandler fn => exact ⟨he, ht.guards, ht.update, ht.commit, ht.related, ht.holds⟩
  | work d => exact ht.talk hsteady (fun h => by cases h) he

end UnderGuard

/-- Handlers guard the database when they keep what is known of the contents over the changes,
rollbacks and commits that they are told of, what is known stays true where they are told nothing,
and the commit handler approves nothing but what has a property: after every operation of a run what
is committed has the property, even if handlers throw. -/
theorem commits_guarded [HookApi S] (laws : HookLaws shared S) {sqlite : S}
    (hfresh : NoUserHooks sqlite) (hsteady : g.Steady) {callbacks : CallbackState U}
    (hreported : g.H callbacks.handler) {contents : Contents X}
    (hrelated : g.I callbacks.user contents) (hholds : g.P contents.committed)
    {install : List (HandlerEvent (HandlerFunctions U))}
    (hguards : ∀ kind f, HandlerEvent.lastSet shared install kind = some f → g.Guards this kind f)
    (hupdate : HandlerEvent.lastSet shared install .update ≠ none)
    (hcommit : HandlerEvent.lastSet shared install .commit ≠ none)
    {es : List (TransactionEvent U X R)} (hes : ∀ e ∈ es, g.Keeps this e) :
    let installed := run (HandlerEvent.exec this) (World.opened sqlite this) install
    Always (TransactionEvent.machine this).next (fun w => g.P w.contents.committed)
      (⟨⟨installed, callbacks⟩, contents⟩ : TransactionWorld S U X) es := by
  intro installed
  obtain ⟨h, hfollows⟩ := Follows.installed laws hfresh this install callbacks contents
  have hguard : UnderGuard g this
      ⟨⟨HandlerEvent.lastSet shared install, callbacks⟩, contents⟩ :=
    ⟨hreported, hguards, hupdate, hcommit, hrelated, hholds⟩
  let inv (w : TransactionWorld S U X) : Prop :=
    ∃ t, Follows this h w t ∧ UnderGuard g this t
  have hstep : ∀ (w : TransactionWorld S U X) (e : TransactionEvent U X R), inv w →
      g.Keeps this e → inv ((TransactionEvent.machine this).next w e) := by
    rintro w e ⟨t, hw, ht⟩ he
    exact ⟨_, (hw.step laws e).2, ht.next hsteady he⟩
  have hinv := always_of_stepsMeet hstep ⟨_, hfollows, hguard⟩ (stepsMeet_of_forall hes)
  apply hinv.imp
  rintro w ⟨t, hw, ht⟩
  rw [hw.contents]
  exact ht.holds

end Guards

/-! ## A table of at most two rows -/

/-- The functions keep a bound on the number of rows, since they do not hear of every row that
goes. -/
def twoRows : HandlerFunctions Nat where
  __ := readersOnly
  commit n := if n ≤ 2 then (.ok 0, n) else (.error (.stdException "full"), n)
  rollback _ := (.ok (), 2)
  update _ _ _ _ n := (.ok (), n + 1)

def guardingTwoRows : Guarding Nat Nat where
  I n x := x.committed ≤ 2 ∧ x.committed ≤ n ∧ x.pending ≤ n
  P rows := rows ≤ 2
  W row := row.change = (· + 1)
  Z f := ∀ rows, f rows ≤ rows
  H handler := handler = .default

private theorem guardingTwoRows_steady : guardingTwoRows.Steady where
  reports := by
    rintro _ rfl cbname e u x hx
    exact hx
  changes := fun f hf u x ⟨hholds, hcommitted, hpending⟩ =>
    ⟨hholds, hcommitted, Nat.le_trans (hf _) hpending⟩
  commits := fun u x ⟨_, _, hpending⟩ hholds => ⟨hholds, hpending, hpending⟩
  rollsBack := fun u x ⟨hholds, hcommitted, _⟩ => ⟨hholds, hcommitted, hcommitted⟩

private theorem twoRows_guards {kind : HookKind}
    (hkind : kind = .update ∨ kind = .commit ∨ kind = .rollback) :
    guardingTwoRows.Guards 0 kind twoRows := by
  rintro c rfl u x o u' ⟨hholds, hcommitted, hpending⟩ hcall
  cases c with
  | update op databaseName tableName rowid =>
    cases hcall
    rintro change rfl
    exact ⟨hholds, Nat.le_succ_of_le hcommitted, Nat.succ_le_succ hpending⟩
  | commit =>
    by_cases hfull : u ≤ 2
    · have hrun : twoRows.commit u = (.ok 0, u) := if_pos hfull
      rw [LibraryCall.call, HandlerCall.userCall, HandlerCall.answering, hrun] at hcall
      cases hcall
      exact ⟨⟨hholds, hcommitted, hpending⟩, fun _ => Nat.le_trans hpending hfull⟩
    · have hrun : twoRows.commit u = (.error (.stdException "full"), u) := if_neg hfull
      rw [LibraryCall.call, HandlerCall.userCall, HandlerCall.answering, hrun] at hcall
      cases hcall
      exact ⟨⟨hholds, hcommitted, hpending⟩, fun h => by cases h⟩
  | rollback =>
    cases hcall
    exact ⟨hholds, hholds, hholds⟩
  | _ => simp [LibraryCall.kind] at hkind

/-- Three rows are inserted; the handler throws at the second commit, and the table has the two rows
of the first, until a truncation that nobody is told of is committed. -/
theorem commits_guarded_twoRows :
    let row : RowChange Nat :=
      ⟨SQLITE_INSERT, ⟨[109], by decide, by decide⟩, ⟨[116], by decide, by decide⟩, 1, (· + 1)⟩
    let install : List (HandlerEvent (HandlerFunctions Nat)) :=
      [.set .update 0 (some twoRows), .set .commit 0 (some twoRows),
        .set .rollback 0 (some twoRows)]
    let es : List (TransactionEvent Nat Nat Unit) :=
      [.work (acting (.write row)), .work (acting (.write row)), .work committing,
        .work (acting (.write row)), .work committing, .work (acting (.change fun _ => 0))]
    let installed := run (HandlerEvent.exec 0) (World.opened SlotTable.fresh 0) install
    let start : TransactionWorld (SlotTable true) Nat Nat :=
      ⟨⟨installed, ⟨0, .default, []⟩⟩, ⟨0, 0⟩⟩
    (run (TransactionEvent.machine 0).next start es).contents = ⟨2, 0⟩ ∧
      Always (TransactionEvent.machine 0).next (fun w => w.contents.committed ≤ 2) start es := by
  intro row install es installed start
  have hguards : ∀ kind f, HandlerEvent.lastSet true install kind = some f →
      guardingTwoRows.Guards 0 kind f := by
    intro kind f hlast
    cases kind <;> cases hlast <;> exact twoRows_guards (by decide)
  have hes : ∀ e ∈ es, guardingTwoRows.Keeps 0 e := by
    simp only [es, List.forall_mem_cons]
    exact ⟨acting_lawful rfl, acting_lawful rfl, committing_lawful _ _, acting_lawful rfl,
      committing_lawful _ _, acting_lawful fun _ => Nat.zero_le _, fun _ h => by cases h⟩
  have hstart : ∃ h, Follows 0 h start
      ⟨⟨HandlerEvent.lastSet true install, ⟨0, .default, []⟩⟩, ⟨0, 0⟩⟩ :=
    Follows.installed SlotTable.hookLaws SlotTable.noUserHooks 0 install _ _
  obtain ⟨h, hfollows⟩ := hstart
  refine ⟨(hfollows.run SlotTable.hookLaws es).2.contents.trans rfl, ?_⟩
  have hreported : guardingTwoRows.H (⟨0, .default, []⟩ : CallbackState Nat).handler := rfl
  have hrelated : guardingTwoRows.I 0 ⟨0, 0⟩ := ⟨Nat.zero_le 2, Nat.le_refl 0, Nat.le_refl 0⟩
  exact commits_guarded SlotTable.hookLaws SlotTable.noUserHooks guardingTwoRows_steady hreported
    hrelated hrelated.1 hguards (fun h => by cases h) (fun h => by cases h) hes

end Sqxx
