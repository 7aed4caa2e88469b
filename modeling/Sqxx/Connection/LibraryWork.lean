import Sqxx.Callbacks.Handlers
import Sqxx.Connection.Registered
import Sqxx.Framework.Loops
import Sqxx.Sqlite.Work

/-!
# The work of the library under handlers

Whatever the library does with its hooks, the C functions and the objects behind them answer like
the functions that were set last, one for each kind.
-/

namespace Sqxx
open Framework

/-- A function for each kind of handler; only the one for the kind it was set for is ever called. -/
structure HandlerFunctions (U : Type) where
  commit : UserCode U Int
  rollback : UserCode U Unit
  update : Int32 → CStr → CStr → Int64 → UserCode U Unit
  trace : CStr → UserCode U Unit
  profile : CStr → UInt64 → UserCode U Unit
  authorize : Int32 → Option CStr → Option CStr → Option CStr → Option CStr → UserCode U Int
  busy : Int32 → UserCode U Bool
  progress : UserCode U Bool
  wal : CStr → Int32 → UserCode U Unit
  collation : Nat → CStr → UserCode U Unit

structure HandlerWorld (S U : Type) where
  connection : World S (HandlerFunctions U)
  callbacks : CallbackState U

inductive LibraryEvent (U R : Type)
  | handler (e : HandlerEvent (HandlerFunctions U))
  | exceptionHandler (fn : CallbackExceptionHandler U)
  | work (d : LibraryWork R)

variable {S U R : Type}

namespace LibraryCall

/-- The call of the user's function; `conn` is the connection it was set on. -/
def call (conn : Nat) (f : HandlerFunctions U) : LibraryCall → HandlerCall U
  | .commit => .commit f.commit
  | .rollback => .rollback f.rollback
  | .update op databaseName tableName rowid =>
    .update f.update op databaseName tableName rowid
  | .trace sql => .trace f.trace sql
  | .profile sql nsec => .profile f.profile sql nsec
  | .authorize action d1 d2 d3 d4 => .authorize f.authorize action d1 d2 d3 d4
  | .busy count => .busy f.busy count
  | .progress => .progress f.progress
  | .wal dbname pages => .wal f.wal dbname pages
  | .collationNeeded textrep name => .collationNeeded f.collation conn textrep name

/-- The C functions take their data for an object of their own kind, `collation_data_t` in one of
them and a function in the others, which give no connection to it. -/
def on (c : LibraryCall) : HandlerObject (HandlerFunctions U) → Option (HandlerCall U)
  | .function f => if c.kind = .collation then none else some (c.call 0 f)
  | .collationData conn f => if c.kind = .collation then some (c.call conn f) else none

def through (c : LibraryCall) : Slot → Cxx (HandlerWorld S U) (Option Int)
  | .user ⟨fn, data⟩ => do
    let object ← Prog.reading fun w => w.connection.objects.cell data
    match object.bind c.on with
    | some call =>
      if fn = trampolineOf c.kind then
        Prog.zoom HandlerWorld.callbacks (fun cs w => { w with callbacks := cs }) call.entry
      else
        Cxx.undefined
    | none => Cxx.undefined
  | .empty | .builtin => pure none

def slotOf [HookApi S] (this : Nat) (c : LibraryCall) (w : HandlerWorld S U) : Slot :=
  match w.connection.held this with
  | some h => HookApi.slot w.connection.sqlite h c.kind
  | none => .empty

def callHook [HookApi S] (this : Nat) (c : LibraryCall) : Cxx (HandlerWorld S U) (Option Int) := do
  let slot ← Prog.reading (slotOf this c)
  c.through slot

end LibraryCall

namespace LibraryEvent

variable [HookApi S]

def op (this : Nat) : LibraryEvent U R → Cxx (HandlerWorld S U) (Option R)
  | .handler e => do
    Prog.zoom HandlerWorld.connection (fun v w => { w with connection := v }) (e.op this)
    pure none
  | .exceptionHandler fn => do
    Prog.zoom HandlerWorld.callbacks (fun cs w => { w with callbacks := cs })
      (Callbacks.setCallbackExceptionHandler fn)
    pure none
  | .work d => do
    let r ← d.calling (LibraryCall.callHook this)
    pure (some r)

def machine (this : Nat) :
    Machine (HandlerWorld S U) (LibraryEvent U R) (Except Raised (Option R)) :=
  fun w e => ((op this e w).outcome, (op this e w).final)

def handlers (es : List (LibraryEvent U R)) : List (HandlerEvent (HandlerFunctions U)) :=
  es.filterMap fun e =>
    match e with
    | .handler e => some e
    | .exceptionHandler _ | .work _ => none

end LibraryEvent

/-! ## The functions alone -/

/-- The function that the last operation on each kind of handler has left. -/
structure LastFunctions (U : Type) where
  last : HookKind → Option (HandlerFunctions U)
  callbacks : CallbackState U

namespace LastFunctions

def tell (this : Nat) : Machine (LastFunctions U) LibraryCall (Option Int) := fun t c =>
  match t.last c.kind with
  | some f => (((c.call this f).ran t.callbacks).1,
      { t with callbacks := ((c.call this f).ran t.callbacks).2 })
  | none => (none, t)

def machine (shared : Bool) (this : Nat) :
    Machine (LastFunctions U) (LibraryEvent U R) (Except Raised (Option R)) := fun t e =>
  match e with
  | .handler e => (.ok none, { t with last := e.note shared t.last })
  | .exceptionHandler fn => (.ok none, { t with callbacks := { t.callbacks with handler := fn } })
  | .work d => (.ok (some (d.talk (tell this) t).1), (d.talk (tell this) t).2)

variable {shared : Bool} {this : Nat} {t : LastFunctions U}

theorem tell_some {c : LibraryCall} {f : HandlerFunctions U} (hlast : t.last c.kind = some f) :
    tell this t c = (((c.call this f).ran t.callbacks).1,
      { t with callbacks := ((c.call this f).ran t.callbacks).2 }) := by
  rw [tell, hlast]

theorem tell_none {c : LibraryCall} (hlast : t.last c.kind = none) :
    tell this t c = (none, t) := by
  rw [tell, hlast]

private theorem tell_last (c : LibraryCall) : (tell this t c).2.last = t.last := by
  rcases hlast : t.last c.kind with _ | f
  · rw [tell_none hlast]
  · rw [tell_some hlast]

private theorem talk_last (d : LibraryWork R) : (d.talk (tell this) t).2.last = t.last := by
  induction d generalizing t with
  | done r => rfl
  | ask c next ih =>
    rw [Dialogue.talk_ask, ih]
    exact tell_last c

private theorem run_last (es : List (LibraryEvent U R)) :
    (run (machine shared this).next t es).last =
      run (HandlerEvent.note shared) t.last (LibraryEvent.handlers es) := by
  induction es generalizing t with
  | nil => rfl
  | cons e es ih =>
    rw [run_cons, ih]
    cases e with
    | handler e => rfl
    | exceptionHandler fn => rfl
    | work d =>
      exact congrArg (run (HandlerEvent.note shared) · (LibraryEvent.handlers es)) (talk_last d)

theorem returns (es : List (LibraryEvent U R)) :
    ∀ answer ∈ (machine shared this).history t es, ∃ r, answer.2 = .ok r := by
  induction es generalizing t with
  | nil => simp
  | cons e es ih =>
    rw [Machine.history_cons]
    refine List.forall_mem_cons.mpr ⟨?_, ih⟩
    cases e with
    | handler e => exact ⟨none, rfl⟩
    | exceptionHandler fn => exact ⟨none, rfl⟩
    | work d => exact ⟨some _, rfl⟩

end LastFunctions

section Implementing

variable [HookApi S] {shared : Bool} {this h : Nat} {w : HandlerWorld S U} {t : LastFunctions U}

/-- The handlers of the connection are the functions set last. -/
structure Implements (this h : Nat) (w : HandlerWorld S U) (t : LastFunctions U) : Prop where
  registered : Registered this h t.last w.connection
  callbacks : w.callbacks = t.callbacks

private theorem LibraryCall.on_objectOf (this : Nat) (f : HandlerFunctions U) (c : LibraryCall) :
    c.on (objectOf this f c.kind) = some (c.call this f) := by
  cases c <;> rfl

namespace Implements

/-- The library's call of a hook reaches the function that was set last for it. -/
theorem callHook_ends (hw : Implements this h w t) (c : LibraryCall) :
    Prog.Ends (c.callHook this) w (.ok (LastFunctions.tell this t c).1)
      { w with callbacks := (LastFunctions.tell this t c).2.callbacks } := by
  have hslot : c.slotOf this w = HookApi.slot w.connection.sqlite h c.kind := by
    rw [LibraryCall.slotOf, hw.registered.handle]
  apply (Prog.Ends.reading _ w).bind
  rw [hslot]
  rcases hlast : t.last c.kind with _ | f
  · have hsame : { w with callbacks := t.callbacks } = w := by rw [← hw.callbacks]
    rw [LastFunctions.tell_none hlast, hsame]
    rcases huser : HookApi.slot w.connection.sqlite h c.kind with _ | hook | _
    · exact Prog.Ends.pure none w
    · exact (hw.registered.silent c.kind hlast hook huser).elim
    · exact Prog.Ends.pure none w
  · obtain ⟨cb, huser, -, hcell⟩ := hw.registered.calls c.kind f hlast
    rw [huser, LastFunctions.tell_some hlast]
    apply (Prog.Ends.reading _ w).bind
    rw [hcell, Option.bind_some, LibraryCall.on_objectOf]
    simp only [if_pos]
    apply Prog.Ends.zoom
    rw [hw.callbacks]
    exact (c.call this f).entry_ran t.callbacks

theorem told (hw : Implements this h w t) (c : LibraryCall) :
    Implements this h { w with callbacks := (LastFunctions.tell this t c).2.callbacks }
      (LastFunctions.tell this t c).2 where
  registered := by
    rw [LastFunctions.tell_last]
    exact hw.registered
  callbacks := rfl

theorem calling (hw : Implements this h w t) (d : LibraryWork R) :
    ∃ v, Prog.Ends (d.calling (LibraryCall.callHook this)) w
        (.ok (d.talk (LastFunctions.tell this) t).1) v ∧
      Implements this h v (d.talk (LastFunctions.tell this) t).2 := by
  have hcall : ∀ (w : HandlerWorld S U) t c, Implements this h w t →
      ∃ v, Prog.Ends (LibraryCall.callHook this c) w (.ok (LastFunctions.tell this t c).1) v ∧
        Implements this h v ((LastFunctions.tell this).next t c) :=
    fun w t c hw => ⟨_, hw.callHook_ends c, hw.told c⟩
  exact d.calling_follows hcall hw

theorem work (hw : Implements this h w t) (d : LibraryWork R) :
    ∃ v, Prog.Ends (LibraryEvent.op this (.work d : LibraryEvent U R)) w
        (.ok (some (d.talk (LastFunctions.tell this) t).1)) v ∧
      Implements this h v (d.talk (LastFunctions.tell this) t).2 := by
  obtain ⟨v, hends, hv⟩ := hw.calling d
  exact ⟨v, hends.bind (Prog.Ends.pure _ v), hv⟩

theorem handler (laws : HookLaws shared S) (hw : Implements this h w t)
    (e : HandlerEvent (HandlerFunctions U)) :
    ∃ v, Prog.Ends (LibraryEvent.op this (.handler e : LibraryEvent U R)) w (.ok none) v ∧
      Implements this h v { t with last := e.note shared t.last } := by
  obtain ⟨v, hthrough, -, hv⟩ := hw.registered.op_through laws e
  let set (v : World S (HandlerFunctions U)) (w : HandlerWorld S U) := { w with connection := v }
  have hends : Prog.Ends (Prog.zoom HandlerWorld.connection set (e.op this)) w (.ok ())
      (set v w) := Prog.Ends.zoom hthrough.toEnds
  refine ⟨set v w, hends.bind ?_, ⟨hv, hw.callbacks⟩⟩
  exact Prog.Ends.pure none (set v w)

theorem exceptionHandler (hw : Implements this h w t) (fn : CallbackExceptionHandler U) :
    ∃ v, Prog.Ends (LibraryEvent.op this (.exceptionHandler fn : LibraryEvent U R)) w
        (.ok none) v ∧
      Implements this h v { t with callbacks := { t.callbacks with handler := fn } } := by
  let set (cs : CallbackState U) (w : HandlerWorld S U) := { w with callbacks := cs }
  have hends : Prog.Ends (Prog.zoom HandlerWorld.callbacks set
      (Callbacks.setCallbackExceptionHandler fn)) w (.ok ())
      (set { w.callbacks with handler := fn } w) := Prog.Ends.zoom (Prog.Ends.perform _ _)
  refine ⟨set { w.callbacks with handler := fn } w, hends.bind ?_, ⟨hw.registered, ?_⟩⟩
  · exact Prog.Ends.pure none _
  · rw [← hw.callbacks]

theorem step (laws : HookLaws shared S) (hw : Implements this h w t) (e : LibraryEvent U R) :
    (LibraryEvent.machine this w e).1 = (LastFunctions.machine shared this t e).1 ∧
      Implements this h ((LibraryEvent.machine this).next w e)
        ((LastFunctions.machine shared this).next t e) := by
  have hends : ∃ v, Prog.Ends (e.op this) w (LastFunctions.machine shared this t e).1 v ∧
      Implements this h v (LastFunctions.machine shared this t e).2 := by
    cases e with
    | handler e => exact hw.handler laws e
    | exceptionHandler fn => exact hw.exceptionHandler fn
    | work d => exact hw.work d
  obtain ⟨v, hends, hv⟩ := hends
  refine ⟨hends.outcome, ?_⟩
  change Implements this h (e.op this w).final _
  rw [hends.final]
  exact hv

theorem init {sqlite : S} (hfresh : NoUserHooks sqlite) (this : Nat)
    (callbacks : CallbackState U) :
    ∃ h, Implements this h ⟨World.opened sqlite this, callbacks⟩ ⟨fun _ => none, callbacks⟩ := by
  obtain ⟨h, hopened⟩ := Registered.init hfresh this
  exact ⟨h, hopened, rfl⟩

theorem run (laws : HookLaws shared S) (hw : Implements this h w t) (es : List (LibraryEvent U R)) :
    (LibraryEvent.machine this).history w es = (LastFunctions.machine shared this).history t es ∧
      Implements this h (Framework.run (LibraryEvent.machine this).next w es)
        (Framework.run (LastFunctions.machine shared this).next t es) := by
  have hall : StepsMeet (LastFunctions.machine shared this).next (fun _ _ => True) t es :=
    stepsMeet_of_forall fun _ _ => trivial
  exact Machine.refines_run (fun _ _ e hw _ => hw.step laws e) hw hall

theorem after (laws : HookLaws shared S) {sqlite : S} (hfresh : NoUserHooks sqlite) (this : Nat)
    (callbacks : CallbackState U) (es : List (LibraryEvent U R)) :
    ∃ h t, Implements this h
        (Framework.run (LibraryEvent.machine this).next ⟨World.opened sqlite this, callbacks⟩ es)
        t ∧
      t.last = HandlerEvent.lastSet shared (LibraryEvent.handlers es) := by
  obtain ⟨h, hopened⟩ := Implements.init hfresh this callbacks
  exact ⟨h, _, (hopened.run laws es).2, LastFunctions.run_last es⟩

end Implements

/-- On an open connection, in any order of setting and clearing handlers of all kinds, setting the
exception handler, and work of the library, which calls hooks as it likes and goes on as they
answer: every operation returns, the work comes to what it comes to with the functions set last, and
so do the user's state and the reports of exceptions.  Where trace and profile hooks are shared, to
set or clear one of the two leaves no function for the other. -/
theorem handlers_refine_functions (laws : HookLaws shared S) {sqlite : S}
    (hfresh : NoUserHooks sqlite) (this : Nat) (callbacks : CallbackState U)
    (es : List (LibraryEvent U R)) :
    let start : HandlerWorld S U := ⟨World.opened sqlite this, callbacks⟩
    let alone : LastFunctions U := ⟨fun _ => none, callbacks⟩
    (∀ answer ∈ (LibraryEvent.machine this).history start es, ∃ r, answer.2 = .ok r) ∧
      (LibraryEvent.machine this).history start es =
        (LastFunctions.machine shared this).history alone es ∧
      (run (LibraryEvent.machine this).next start es).callbacks =
        (run (LastFunctions.machine shared this).next alone es).callbacks := by
  intro start alone
  obtain ⟨h, hopened⟩ := Implements.init hfresh this callbacks
  obtain ⟨hhistory, hw⟩ := hopened.run laws es
  refine ⟨?_, hhistory, hw.callbacks⟩
  have hsame : (LibraryEvent.machine this).history start es =
      (LastFunctions.machine shared this).history alone es := hhistory
  rw [hsame]
  exact LastFunctions.returns es

end Implementing

/-- A busy handler that gives up the third time, and an authorizer that knows of reads only; the
user counts the locks. -/
def readersOnly : HandlerFunctions Nat where
  commit u := (.ok 0, u)
  rollback u := (.ok (), u)
  update _ _ _ _ u := (.ok (), u)
  trace _ u := (.ok (), u)
  profile _ _ u := (.ok (), u)
  authorize action _ _ _ _ u :=
    if action = SQLITE_READ then (.ok SQLITE_OK, u) else (.error (.stdException "unknown"), u)
  busy count u := (.ok (count < 2), u + 1)
  progress u := (.ok false, u)
  wal _ _ u := (.ok (), u)
  collation _ _ u := (.ok (), u)

/-- Without an authorizer there is no answer; one that throws has an action ignored, which is
reported as long as there is an exception handler. -/
theorem handlers_refine_functions_throw :
    let asks : LibraryWork (Option Int) := .ask (.authorize SQLITE_INSERT none none none none) .done
    let es : List (LibraryEvent Nat (Option Int)) :=
      [.work asks, .handler (.set .authorize 0 (some readersOnly)), .work asks,
        .exceptionHandler .empty, .work asks]
    let start : HandlerWorld (SlotTable true) Nat :=
      ⟨World.opened SlotTable.fresh 0, ⟨0, .default, []⟩⟩
    ((LibraryEvent.machine 0).history start es).map (·.2) =
        [.ok (some none), .ok none, .ok (some (some SQLITE_IGNORE)), .ok none,
          .ok (some (some SQLITE_IGNORE))] ∧
      (run (LibraryEvent.machine 0).next start es).callbacks.reports =
        [.printed "authorize handler" (some (.stdException "unknown"))
          (.what (.stdException "unknown"))] := by
  intro asks es start
  obtain ⟨-, hhistory, hcallbacks⟩ := handlers_refine_functions SlotTable.hookLaws
    SlotTable.noUserHooks 0 ⟨0, .default, []⟩ es
  refine ⟨(congrArg (List.map (·.2)) hhistory).trans rfl, ?_⟩
  rw [hcallbacks]
  rfl

/-! ## Waiting for a lock -/

section Waiting

/-- The user's state after the first `count` calls of the busy handler for one lock. -/
def HandlerFunctions.turns (f : HandlerFunctions U) (u : U) : (count : Nat) → U
  | 0 => u
  | count + 1 => (f.busy (Int32.ofNat count) (turns f u count)).2

/-- The busy handler, called with `count`, wants to wait on. -/
def HandlerFunctions.WaitsOn (f : HandlerFunctions U) (u : U) (count : Nat) : Prop :=
  (f.busy (Int32.ofNat count) (f.turns u count)).1 = .ok true

variable {this : Nat} {t : LastFunctions U} {f : HandlerFunctions U} {u : U} {count : Nat}
  {wait : (held count : Nat) → LibraryWork Int}

namespace LastFunctions

private theorem tell_busy_on (hlast : t.last .busy = some f)
    (hu : t.callbacks.user = f.turns u count) (hon : f.WaitsOn u count) :
    tell this t (.busy (Int32.ofNat count)) =
      (some 1, { t with callbacks := { t.callbacks with user := f.turns u (count + 1) } }) := by
  have hcall : (HandlerCall.busy f.busy (Int32.ofNat count)).userCall t.callbacks.user =
      (.ok (some 1), f.turns u (count + 1)) := by
    rw [hu]
    exact Prod.ext (congrArg (Except.map fun on => some (Callbacks.toInt on)) hon) rfl
  rw [tell_some (c := .busy (Int32.ofNat count)) hlast, LibraryCall.call, HandlerCall.ran_ok hcall]

private theorem ran_busy_over (s : CallbackState U) (hu : s.user = f.turns u count)
    (hover : ¬ f.WaitsOn u count) :
    (HandlerCall.ran (.busy f.busy (Int32.ofNat count)) s).1 = some 0 := by
  rw [HandlerFunctions.WaitsOn, ← hu] at hover
  rcases hrun : f.busy (Int32.ofNat count) s.user with ⟨e | on, u'⟩
  · have hcall : (HandlerCall.busy f.busy (Int32.ofNat count)).userCall s.user =
        (.error e, u') := by
      rw [HandlerCall.userCall, HandlerCall.answering, hrun, Except.map]
    rw [HandlerCall.ran_throw hcall, HandlerCall.fallback]
  · cases on with
    | true =>
      rw [hrun] at hover
      exact (hover rfl).elim
    | false =>
      have hcall : (HandlerCall.busy f.busy (Int32.ofNat count)).userCall s.user =
          (.ok (some 0), u') := by
        rw [HandlerCall.userCall, HandlerCall.answering, hrun, Except.map, Callbacks.toInt,
          if_neg Bool.false_ne_true]
      rw [HandlerCall.ran_ok hcall]

/-- The library does not ask after the next failed attempt. -/
def GivesUp (wait : (held count : Nat) → LibraryWork Int) (held count : Nat) : Prop :=
  wait held count = .done SQLITE_BUSY

private theorem wait_asks (locks : LockLaws wait) {held : Nat}
    (hasks : ¬ GivesUp wait (held + 1) count) :
    ∃ timeout : Bool, wait (held + 1) count = .ask (.busy (Int32.ofNat count)) fun answer =>
      if answer.elim timeout (· != 0) then wait held (count + 1) else .done SQLITE_BUSY :=
  (locks.held held count).resolve_left hasks

private theorem wait_over (locks : LockLaws wait) (hlast : t.last .busy = some f)
    (hu : t.callbacks.user = f.turns u count) (hover : ¬ f.WaitsOn u count) {held : Nat}
    (hasks : ¬ GivesUp wait (held + 1) count) :
    (wait (held + 1) count).talk (tell this) t =
      (SQLITE_BUSY, { t with callbacks :=
        (HandlerCall.ran (.busy f.busy (Int32.ofNat count)) t.callbacks).2 }) := by
  obtain ⟨timeout, hwait⟩ := wait_asks locks hasks
  have htold : tell this t (.busy (Int32.ofNat count)) = _ := tell_some hlast
  have hzero := ran_busy_over t.callbacks hu hover
  rw [hwait, Dialogue.talk_ask, Machine.next, htold]
  simp only [LibraryCall.call, hzero, Option.elim_some, bne_self_eq_false, Bool.false_eq_true,
    if_false, Dialogue.talk_done]

private theorem wait_past (locks : LockLaws wait) (hlast : t.last .busy = some f)
    (hu : t.callbacks.user = f.turns u count) {n : Nat} (held : Nat)
    (hon : ∀ i < n, ¬ GivesUp wait (n - i + held) (count + i) ∧ f.WaitsOn u (count + i)) :
    (wait (n + held) count).talk (tell this) t =
      (wait held (count + n)).talk (tell this)
        { t with callbacks := { t.callbacks with user := f.turns u (count + n) } } := by
  induction n generalizing count t with
  | zero =>
    rw [Nat.zero_add, Nat.add_zero, ← hu]
  | succ n ih =>
    obtain ⟨hfirst, hwaits⟩ := hon 0 (Nat.succ_pos n)
    have hasks : ¬ GivesUp wait (n + held + 1) count := by
      rwa [Nat.sub_zero, Nat.succ_add] at hfirst
    obtain ⟨timeout, hwait⟩ := wait_asks locks hasks
    have htold : tell this t (.busy (Int32.ofNat count)) = _ := tell_busy_on hlast hu hwaits
    rw [Nat.succ_add, hwait, Dialogue.talk_ask, Machine.next, htold]
    have hnext := ih (t := { t with
        callbacks := { t.callbacks with user := f.turns u (count + 1) } }) hlast rfl
      fun i hi => by
        have hrest := hon (i + 1) (Nat.succ_lt_succ hi)
        rwa [Nat.succ_sub_succ, ← Nat.add_assoc, Nat.add_right_comm] at hrest
    rw [Nat.add_assoc, Nat.add_comm 1 n] at hnext
    exact hnext

private theorem wait_silent (locks : LockLaws wait) (hlast : t.last .busy = none) (held : Nat) :
    ((wait held count).talk (tell this) t).2 = t := by
  induction held generalizing count with
  | zero => rw [locks.free, Dialogue.talk_done]
  | succ held ih =>
    rcases locks.held held count with hgives | ⟨timeout, hwait⟩
    · rw [hgives, Dialogue.talk_done]
    · have htold : tell this t (.busy (Int32.ofNat count)) = _ := tell_none hlast
      rw [hwait, Dialogue.talk_ask, Machine.next, htold, Option.elim_none]
      cases timeout with
      | true => exact ih
      | false => rfl

end LastFunctions

/-- After any run the wait for a lock is up to the library and the function that was set last for
the busy handler.  The function is called with 0, 1, 2 and so on.  The library gets the lock when it
is free before either of them gives up; it ends the wait as soon as the function says so or throws,
and where it does not ask the function any more. -/
theorem waits_follow_handler [HookApi S] {shared : Bool} (laws : HookLaws shared S) {sqlite : S}
    (hfresh : NoUserHooks sqlite) (this : Nat) (callbacks : CallbackState U)
    (es : List (LibraryEvent U R)) (locks : LockLaws wait) (held : Nat) :
    let w := run (LibraryEvent.machine this).next ⟨World.opened sqlite this, callbacks⟩ es
    let last := HandlerEvent.lastSet shared (LibraryEvent.handlers es) .busy
    let u := w.callbacks.user
    ∃ rv v, Prog.Ends ((wait held 0).calling (LibraryCall.callHook this)) w (.ok rv) v ∧
      (last = none → v.callbacks = w.callbacks) ∧
      ∀ f, last = some f →
        let goesOn (i : Nat) := ¬ LastFunctions.GivesUp wait (held - i) i ∧ f.WaitsOn u i
        ((∀ i < held, goesOn i) →
          rv = SQLITE_OK ∧ v.callbacks = { w.callbacks with user := f.turns u held }) ∧
        (∀ k < held, (∀ i < k, goesOn i) → LastFunctions.GivesUp wait (held - k) k →
          rv = SQLITE_BUSY ∧ v.callbacks = { w.callbacks with user := f.turns u k }) ∧
        ∀ k < held, (∀ i < k, goesOn i) → ¬ LastFunctions.GivesUp wait (held - k) k →
          ¬ f.WaitsOn u k →
            rv = SQLITE_BUSY ∧ v.callbacks =
              (HandlerCall.ran (.busy f.busy (Int32.ofNat k))
                { w.callbacks with user := f.turns u k }).2 := by
  intro w last u
  obtain ⟨h, t, hw, hlast⟩ := Implements.after laws hfresh this callbacks es
  obtain ⟨v, hends, hv⟩ := hw.calling (wait held 0)
  have hsame : w.callbacks = t.callbacks := hw.callbacks
  refine ⟨_, v, hends, ?_, ?_⟩
  · intro hnone
    rw [hv.callbacks, LastFunctions.wait_silent locks ((congrFun hlast .busy).trans hnone), hsame]
  · intro f hf goesOn
    have hset : t.last .busy = some f := (congrFun hlast .busy).trans hf
    have hu : t.callbacks.user = f.turns u 0 := congrArg CallbackState.user hsame.symm
    -- the first `k` attempts fail, and both go on
    have hpast : ∀ k left, held = k + left → (∀ i < k, goesOn i) →
        (wait held 0).talk (LastFunctions.tell this) t =
          (wait left k).talk (LastFunctions.tell this)
            { t with callbacks := { t.callbacks with user := f.turns u k } } := by
      rintro k left rfl hon
      have hwaits : (wait (k + left) 0).talk (LastFunctions.tell this) t = _ :=
        LastFunctions.wait_past locks hset hu left fun i hi => by
          have hgoes := hon i hi
          rw [Nat.zero_add, ← Nat.sub_add_comm (Nat.le_of_lt hi)]
          exact hgoes
      rwa [Nat.zero_add] at hwaits
    refine ⟨fun hon => ?_, fun k hk hon hgives => ?_, fun k hk hon hasks hover => ?_⟩
    · rw [hv.callbacks, hpast held 0 rfl hon, locks.free, Dialogue.talk_done, hsame]
      exact ⟨rfl, rfl⟩
    · have hgives : wait (held - k) k = .done SQLITE_BUSY := hgives
      rw [hv.callbacks, hpast k (held - k) (by omega) hon, hgives, Dialogue.talk_done, hsame]
      exact ⟨rfl, rfl⟩
    · obtain ⟨left, rfl⟩ := Nat.exists_eq_add_of_lt hk
      have hleft : k + left + 1 - k = left + 1 := by omega
      rw [hleft] at hasks
      let later : LastFunctions U :=
        { t with callbacks := { t.callbacks with user := f.turns u k } }
      have hend : (wait (left + 1) k).talk (LastFunctions.tell this) later = _ :=
        LastFunctions.wait_over (t := later) locks hset rfl hover hasks
      rw [hv.callbacks, hpast k (left + 1) (by omega) hon, hend, hsame]
      exact ⟨rfl, rfl⟩

/-- The lock is held too long for the busy handler. -/
theorem waits_follow_handler_third :
    let es : List (LibraryEvent Nat Unit) := [.handler (.set .busy 0 (some readersOnly))]
    let w := run (LibraryEvent.machine 0).next
      (⟨World.opened SlotTable.fresh 0, ⟨0, .default, []⟩⟩ : HandlerWorld (SlotTable true) Nat) es
    let wait := waiting fun count => count = 7
    ∃ v, Prog.Ends ((wait 4 0).calling (LibraryCall.callHook 0)) w (.ok SQLITE_BUSY) v ∧
      v.callbacks.user = 3 := by
  intro es w wait
  obtain ⟨rv, v, hends, -, hwaits⟩ := waits_follow_handler SlotTable.hookLaws
    SlotTable.noUserHooks 0 ⟨0, .default, []⟩ es (waiting_lockLaws fun count => count = 7) 4
  obtain ⟨-, -, hover⟩ := hwaits readersOnly rfl
  have hasks : ∀ i < 4, ¬ LastFunctions.GivesUp wait (4 - i) i := by
    intro i hi hgives
    have hi : i = 0 ∨ i = 1 ∨ i = 2 ∨ i = 3 := by omega
    rcases hi with rfl | rfl | rfl | rfl <;> cases hgives
  have hon : ∀ i < 2, readersOnly.WaitsOn w.callbacks.user i := by
    intro i hi
    have hi : i = 0 ∨ i = 1 := by omega
    rcases hi with rfl | rfl <;> rfl
  have hthird : ¬ readersOnly.WaitsOn w.callbacks.user 2 := by
    intro h
    cases h
  obtain ⟨rfl, hcallbacks⟩ := hover 2 (by decide)
    (fun i hi => ⟨hasks i (by omega), hon i hi⟩) (hasks 2 (by decide)) hthird
  exact ⟨v, hends, (congrArg CallbackState.user hcallbacks).trans rfl⟩

end Waiting

/-! ## Doing what was approved -/

section Approving

/-- Every call of the function keeps a property of the user's state, also one that throws and is
reported to one of the exception handlers `H`. -/
def HandlerFunctions.Keeps (this : Nat) (H : CallbackExceptionHandler U → Prop) (I : U → Prop)
    (f : HandlerFunctions U) : Prop :=
  ∀ (c : LibraryCall) (s : CallbackState U), H s.handler → I s.user →
    I ((c.call this f).ran s).2.user

/-- What is set in the operation keeps the property. -/
def LibraryEvent.SetsKeeping (this : Nat) (H : CallbackExceptionHandler U → Prop) (I : U → Prop) :
    LibraryEvent U R → Prop
  | .handler e => ∀ f, e.leaves = some f → f.Keeps this H I
  | .exceptionHandler fn => H fn
  | .work _ => True

/-- The property of the user's state holds, and the functions set last keep it. -/
structure KeptByLast (this : Nat) (H : CallbackExceptionHandler U → Prop) (I : U → Prop)
    (t : LastFunctions U) : Prop where
  user : I t.callbacks.user
  reported : H t.callbacks.handler
  keeps : ∀ kind f, t.last kind = some f → f.Keeps this H I

variable {shared : Bool} {this : Nat} {H : CallbackExceptionHandler U → Prop} {I : U → Prop}
  {P : Action → Prop} {f : HandlerFunctions U} {t : LastFunctions U}

namespace KeptByLast

theorem tell (h : KeptByLast this H I t) (c : LibraryCall) :
    KeptByLast this H I (LastFunctions.tell this t c).2 := by
  rcases hlast : t.last c.kind with _ | f
  · rwa [LastFunctions.tell_none hlast]
  · have huser := h.keeps c.kind f hlast c t.callbacks h.reported h.user
    have hhandler := HandlerCall.ran_handler (c.call this f) t.callbacks
    rw [LastFunctions.tell_some hlast]
    exact ⟨huser, hhandler ▸ h.reported, h.keeps⟩

theorem talk (h : KeptByLast this H I t) (d : LibraryWork R) :
    KeptByLast this H I (d.talk (LastFunctions.tell this) t).2 := by
  induction d generalizing t with
  | done r => exact h
  | ask c next ih => exact ih _ (h.tell c)

theorem next (h : KeptByLast this H I t) {e : LibraryEvent U R} (he : e.SetsKeeping this H I) :
    KeptByLast this H I ((LastFunctions.machine shared this).next t e) := by
  cases e with
  | work d => exact h.talk d
  | exceptionHandler fn => exact ⟨h.user, he, h.keeps⟩
  | handler e =>
    refine ⟨h.user, h.reported, fun kind f hlast => ?_⟩
    have hlast : HandlerEvent.leaving shared t.last e.kind e.leaves kind = some f := hlast
    rcases HandlerEvent.leaving_some hlast with ⟨-, hleaves⟩ | hbefore
    · exact he f hleaves
    · exact h.keeps kind f hbefore

theorem run (h : KeptByLast this H I t) {es : List (LibraryEvent U R)}
    (hes : ∀ e ∈ es, e.SetsKeeping this H I) :
    KeptByLast this H I (Framework.run (LastFunctions.machine shared this).next t es) := by
  induction es generalizing t with
  | nil => exact h
  | cons e es ih =>
    obtain ⟨he, hes⟩ := List.forall_mem_cons.mp hes
    rw [run_cons]
    exact ih (h.next he) hes

end KeptByLast

/-- The authorizer lets the action pass: it returns and approves it, or the action is a delete and
the authorizer ignores it or throws. -/
def HandlerFunctions.LetsPass (f : HandlerFunctions U) (a : Action) (u : U) : Prop :=
  match (f.authorize a.action a.d1 a.d2 a.d3 a.d4 u).1 with
  | .ok rv => Passes a.action rv
  | .error _ => a.action = SQLITE_DELETE

private theorem letThrough_passes (hlast : t.last .authorize = some f) {c : LibraryCall}
    {a : Action} (ha : letThrough c (LastFunctions.tell this t c).1 = some a) :
    f.LetsPass a t.callbacks.user := by
  cases c with
  | authorize action d1 d2 d3 d4 =>
    rw [LastFunctions.tell_some (c := .authorize action d1 d2 d3 d4) hlast] at ha
    rcases hrun : f.authorize action d1 d2 d3 d4 t.callbacks.user with ⟨e | rv, u⟩
    · -- the C function answers that the action is to be ignored
      have hcall : (HandlerCall.authorize f.authorize action d1 d2 d3 d4).userCall
          t.callbacks.user = (.error e, u) := by
        rw [HandlerCall.userCall, HandlerCall.answering, hrun, Except.map]
      rw [LibraryCall.call, HandlerCall.ran_throw hcall, HandlerCall.fallback, letThrough,
        Option.getD_some] at ha
      split at ha
      · case isTrue hpasses =>
        cases ha
        rw [HandlerFunctions.LetsPass, hrun]
        rcases hpasses with hok | ⟨hdelete, -⟩
        · cases hok
        · exact hdelete
      · cases ha
    · have hcall : (HandlerCall.authorize f.authorize action d1 d2 d3 d4).userCall
          t.callbacks.user = (.ok (some rv), u) := by
        rw [HandlerCall.userCall, HandlerCall.answering, hrun, Except.map]
      rw [LibraryCall.call, HandlerCall.ran_ok hcall, letThrough, Option.getD_some] at ha
      split at ha
      · case isTrue hpasses =>
        cases ha
        rw [HandlerFunctions.LetsPass, hrun]
        exact hpasses
      · cases ha
  | _ => cases ha

end Approving

end Sqxx
