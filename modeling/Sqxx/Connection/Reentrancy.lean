import Sqxx.Connection.Zombies

/-!
# Handlers that are running

A handler that the library has called can use its connection: it can step statements, which calls
further handlers, and set and clear handlers.  An object is deleted when it is replaced, whether or
not its function is running.
-/

namespace Sqxx
open Framework

/-- A hook is called by a call on the handle of the connection or by a step of a statement. -/
inductive HookCaller
  | connection
  | statement (stmt : Nat)
  deriving DecidableEq, Repr

/-- A call of a handler that has not returned yet. -/
structure HandlerFrame where
  kind : HookKind
  object : Nat
  deriving DecidableEq, Repr

/-- The frames are those of one thread, the innermost first. -/
structure RunningWorld (S F : Type) where
  world : World S F
  frames : List HandlerFrame

inductive RunningEvent (F : Type)
  | life (e : LifeEvent F)
  | busyTimeout (ms : Int32)
  | walAutocheckpoint (frames : Int32)
  | callHandler (caller : HookCaller) (kind : HookKind)
  | returnHandler
  deriving DecidableEq, Repr

variable {S F : Type}

def World.callerHandle (w : World S F) (this : Nat) : HookCaller → Option Nat
  | .connection => w.held this
  | .statement stmt => w.statements stmt

/-- The first half of `sqxx_call_X_handler`: the object is found and its function entered. -/
def enterHandler [HookApi S] (h : Nat) (kind : HookKind) : Cxx (RunningWorld S F) Unit := do
  let slot ← Prog.reading fun s => HookApi.slot s.world.sqlite h kind
  match slot with
  | .user hook => do
    let object ← Prog.reading fun s => s.world.objects.cell hook.data
    if object.isSome then
      Prog.perform fun s => { s with frames := ⟨kind, hook.data⟩ :: s.frames }
    else
      Cxx.undefined
  | .empty | .builtin => pure ()

/-- The kind whose object the event deletes, if the table has one. -/
def LifeEvent.replaces : LifeEvent F → Option HookKind
  | .set kind _ (some _) faults => if faults.object = none then some kind else none
  | .set kind _ none _ => some kind
  | .clear kind => some kind
  | _ => none

namespace RunningEvent

variable [HookApi S] (this : Nat)

def exec (s : RunningWorld S F) : RunningEvent F → RunningWorld S F
  | .life e => { s with world := e.exec this s.world }
  | .busyTimeout ms => { s with world := (Connection.busyTimeout this ms s.world).final }
  | .walAutocheckpoint frames =>
    { s with world := (Connection.walAutocheckpoint this frames s.world).final }
  | .callHandler caller kind =>
    match s.world.callerHandle this caller with
    | some h => (enterHandler h kind s).final
    | none => s
  | .returnHandler => { s with frames := s.frames.tail }

/-- No handler of the kind is running. -/
def Idle (s : RunningWorld S F) (kind : HookKind) : Prop := ∀ f ∈ s.frames, f.kind ≠ kind

/-- Without a handle the two convenience functions throw before they change anything. -/
def SparesRunning (s : RunningWorld S F) : RunningEvent F → Prop
  | .life e => e.Spares this s.world ∧ ∀ kind, e.replaces = some kind → Idle s kind
  | .busyTimeout _ =>
    (s.world.held this).isSome → LifeEvent.OnlyCurrent this s.world .busy ∧ Idle s .busy
  | .walAutocheckpoint _ =>
    (s.world.held this).isSome → LifeEvent.OnlyCurrent this s.world .wal ∧ Idle s .wal
  | .callHandler _ _ | .returnHandler => True

end RunningEvent

/-- Every hook the library can call has its object, and so has every handler that is running. -/
structure HandlersAlive [HookApi S] (this : Nat) (s : RunningWorld S F) : Prop where
  callable : CallsSafe this s.world
  running : ∀ f ∈ s.frames, s.world.objects.Live f.object

/-- The invariant: a handler that is running is the one the table owns for its kind. -/
structure RunningFollow [HookApi S] (this : Nat) (s : RunningWorld S F) : Prop where
  hooks : HooksFollow this s.world
  entry : ∀ f ∈ s.frames, s.world.callback this f.kind = some f.object

section Replacing

variable [HookApi S] {this : Nat} {w : World S F}

private theorem LifeEvent.callback_exec (e : LifeEvent F) (w : World S F) {kind : HookKind}
    (hne : e.replaces ≠ some kind) : (e.exec this w).callback this kind = w.callback this kind := by
  rw [LifeEvent.exec]
  split
  · cases e with
    | openDb answer =>
      rcases Connection.openDb_cases this answer w with hopen | hopen | hopen
      · rw [LifeEvent.op, hopen, callback_setHandle]
        rfl
      · rw [LifeEvent.op, hopen, callback_setHandle]
      · rw [LifeEvent.op, hopen, callback_setHandle]
        rfl
    | close =>
      rw [LifeEvent.op, (Connection.close_ends this w).final, callback_setHandle]
      rfl
    | prepare stmt answer =>
      rw [LifeEvent.op, Connection.prepare, Prog.bind_run, sqlite3PrepareV2, Prog.effect_run,
        Exec.andThen_ok, Exec.prepend_final, Cxx.checkOk_run]
      rcases (w.conn this).handle with _ | h <;> cases answer <;> rfl
    | step stmt called => rw [LifeEvent.op, stepStatement_final]
    | destroyStatement stmt => rfl
    | set other vinst fn faults =>
      cases fn with
      | none =>
        have hother : kind ≠ other := fun heq => hne (congrArg some heq.symm)
        have hthrough : Prog.Through (fun _ => True)
            (Connection.clearHandler this other (registerOf 0 other)) w (.ok ()) _ :=
          Connection.clearHandler_through trivial (fun _ => trivial) trivial
        rw [LifeEvent.op, setterOf_none, clearerOf_eq, hthrough.final, callback_reset,
          Function.update_of_ne hother]
        rfl
      | some f =>
        rw [LifeEvent.op, setterOf_some]
        rcases hobject : faults.object with _ | ex
        · have hother : kind ≠ other := by
            intro heq
            exact hne (by rw [LifeEvent.replaces, if_pos hobject, heq])
          by_cases htable : (w.conn this).callbacks.isSome ∨ faults.table = false
          · have hthrough : Prog.Through (fun _ => True) (Connection.setHandler this other
                (registerOf vinst other) (trampolineOf other) (objectOf this f other) faults) w
                (.ok ()) _ :=
              Connection.setHandler_through hobject htable trivial trivial trivial trivial trivial
            rw [hthrough.final, callback_afterSet, Function.update_of_ne hother]
          · simp only [not_or, Option.not_isSome_iff_eq_none, Bool.not_eq_false] at htable
            rw [(Connection.setHandler_no_table hobject htable.2 htable.1).final]
            rfl
        · rw [(Connection.setHandler_no_object hobject).final]
    | clear other =>
      have hother : kind ≠ other := fun heq => hne (congrArg some heq.symm)
      have hthrough : Prog.Through (fun _ => True)
          (Connection.clearHandler this other (registerOf 0 other)) w (.ok ()) _ :=
        Connection.clearHandler_through trivial (fun _ => trivial) trivial
      rw [LifeEvent.op, clearerOf_eq, hthrough.final, callback_reset,
        Function.update_of_ne hother]
      rfl
  · rfl

private theorem LifeEvent.not_live_exec {e : LifeEvent F} {kind : HookKind} {i : Nat}
    (hreplaces : e.replaces = some kind) (hentry : w.callback this kind = some i) :
    ¬ (e.exec this w).objects.Live i := by
  have hclear : ¬ (clearerOf this kind w).final.objects.Live i := by
    have hthrough : Prog.Through (fun _ => True)
        (Connection.clearHandler this kind (registerOf 0 kind)) w (.ok ()) _ :=
      Connection.clearHandler_through trivial (fun _ => trivial) trivial
    rw [clearerOf_eq, hthrough.final, objects_reset, Heap.live_freeAll]
    exact fun hlive => hlive.1 (Option.mem_toList.mpr hentry)
  cases e with
  | set other vinst fn faults =>
    cases fn with
    | none =>
      obtain rfl : other = kind := Option.some.inj hreplaces
      rw [LifeEvent.exec, if_pos (show LifeEvent.Applies w (.set other vinst none faults) from
        trivial), LifeEvent.op, setterOf_none]
      exact hclear
    | some f =>
      rw [LifeEvent.replaces] at hreplaces
      split at hreplaces
      · case isTrue hobject =>
        obtain rfl : other = kind := Option.some.inj hreplaces
        have htable : (w.conn this).callbacks.isSome := by
          rcases hcallbacks : (w.conn this).callbacks with _ | table
          · simp [World.callback, hcallbacks] at hentry
          · rfl
        have hthrough : Prog.Through (fun _ => True) (Connection.setHandler this other
            (registerOf vinst other) (trampolineOf other) (objectOf this f other) faults) w
            (.ok ()) _ :=
          Connection.setHandler_through hobject (Or.inl htable) trivial trivial trivial trivial
            trivial
        rw [LifeEvent.exec, if_pos (show LifeEvent.Applies w (.set other vinst (some f) faults) from
          trivial), LifeEvent.op, setterOf_some, hthrough.final, objects_afterSet,
          Heap.live_freeAll]
        exact fun hlive => hlive.1 (Option.mem_toList.mpr hentry)
      · cases hreplaces
  | clear other =>
    obtain rfl : other = kind := Option.some.inj hreplaces
    rw [LifeEvent.exec, if_pos (show LifeEvent.Applies w (.clear other : LifeEvent F) from trivial)]
    exact hclear
  | _ => cases hreplaces

end Replacing

section Checked

variable [HookApi S] {this : Nat} {w : World S F} {h : Nat} {kind : HookKind} {slot : Slot}
  {f : Nat → S → Int × S}

omit [HookApi S] in
private theorem checkedReset_ends (hheld : w.held this = some h)
    (hok : (f h w.sqlite).1 = SQLITE_OK) :
    Prog.Ends (do callHookChecked this f; Connection.resetCallback this kind) w (.ok ())
      ((w.called this fun h s => (f h s).2).reset this kind) := by
  have hcalled : Prog.Through (fun _ => True) (callHookChecked this f) w (.ok ())
      (w.called this fun h s => (f h s).2) :=
    Connection.callHookChecked_through hheld hok trivial
  have hreset : Prog.Through (fun _ => True) (Connection.resetCallback this kind)
      (w.called this fun h s => (f h s).2) (.ok ())
      ((w.called this fun h s => (f h s).2).reset this kind) :=
    Connection.resetCallback_through (fun _ => trivial) trivial
  exact hcalled.toEnds.bind hreset.toEnds

omit [HookApi S] in
private theorem checkedReset_no_handle (hheld : w.held this = none) :
    Prog.Ends (do callHookChecked this f; Connection.resetCallback this kind) w
      (.error (.exception (staticError SQLITE_MISUSE))) w := by
  apply Prog.Ends.bind_error
  rw [← conn_handle] at hheld
  have hcode : w.calledForCode this f = (SQLITE_MISUSE, w) := by
    simp [World.calledForCode, hheld]
  have hmisuse : SQLITE_MISUSE ≠ SQLITE_OK := by decide
  constructor
  · simp [callHookChecked, hcode, Cxx.checkOk_run, hmisuse]
  · simp [callHookChecked, hcode, Cxx.checkOk_run, hmisuse]

theorem HooksFollow.checkedReset_spec {shared : Bool} (hw : HooksFollow this w)
    (hheld : w.held this = some h) (hslot : slot = .empty ∨ slot = .builtin)
    (hs : SlotBecomes shared h kind slot w.sqlite (f h w.sqlite).2) :
    let v := (w.called this fun h s => (f h s).2).reset this kind
    (LifeEvent.OnlyCurrent this w kind → HooksFollow this v) ∧
      (¬ LifeEvent.OnlyCurrent this w kind → ¬ CallsSafe this v) := by
  intro v
  have hcurrent : HooksFollow.CurrentSlotBecomes this kind slot w v.sqlite := by
    rw [sqlite_reset, sqlite_called hheld]
    exact .of_slotBecomes hheld hs
  have hsame : SameHandles w v := by
    have hcalled : SameHandles w (w.called this fun h s => (f h s).2) := ⟨rfl, rfl, rfl⟩
    exact hcalled.trans (sameHandles_reset _ this kind)
  have hentry : v.callback this = Function.update (w.callback this) kind none :=
    callback_reset _ this kind
  have hfreed : v.objects = w.objects.freeAll (w.callback this kind).toList :=
    objects_reset _ this kind
  constructor
  · intro honly
    apply hw.next hcurrent hsame hentry _ honly
    · rintro h' hook - rfl
      rcases hslot with heq | heq <;> cases heq
    · rw [hfreed, hentry]
      exact hw.owned.release kind
  · intro hmiss
    exact hw.not_callsSafe hcurrent hsame hfreed hmiss

end Checked

namespace RunningFollow

variable [HookApi S] {shared : Bool} {this : Nat} {s : RunningWorld S F}

theorem handlersAlive (hs : RunningFollow this s) : HandlersAlive this s where
  callable := (callsSafe_iff this s.world).mpr hs.hooks.hooksLive
  running f hf := hs.hooks.owned.live f.kind f.object (hs.entry f hf)

private theorem of_idle (hs : RunningFollow this s) {w : World S F} (hw : HooksFollow this w)
    (hkept : ∀ f ∈ s.frames, w.callback this f.kind = s.world.callback this f.kind) :
    RunningFollow this { s with world := w } where
  hooks := hw
  entry f hf := (hkept f hf).trans (hs.entry f hf)

theorem enterHandler (hs : RunningFollow this s) {h : Nat} (huse : s.world.InUse this h)
    (kind : HookKind) : RunningFollow this (Sqxx.enterHandler h kind s).final := by
  rcases hslot : HookApi.slot s.world.sqlite h kind with _ | hook | _
  · have hfinal : (Sqxx.enterHandler h kind s).final = s := by simp [Sqxx.enterHandler, hslot]
    rw [hfinal]
    exact hs
  · have hentry := hs.hooks.entry h kind hook huse hslot
    have hlive : (s.world.objects.cell hook.data).isSome :=
      hs.hooks.owned.live kind hook.data hentry
    have hfinal : (Sqxx.enterHandler h kind s).final =
        { s with frames := ⟨kind, hook.data⟩ :: s.frames } := by
      simp [Sqxx.enterHandler, hslot, hlive]
    rw [hfinal]
    refine ⟨hs.hooks, ?_⟩
    intro f hf
    rcases List.mem_cons.mp hf with rfl | hf
    · exact hentry
    · exact hs.entry f hf
  · have hfinal : (Sqxx.enterHandler h kind s).final = s := by simp [Sqxx.enterHandler, hslot]
    rw [hfinal]
    exact hs

omit [HookApi S] in
private theorem inUse_callerHandle {w : World S F} {caller : HookCaller} {h : Nat}
    (hcaller : w.callerHandle this caller = some h) : w.InUse this h := by
  cases caller with
  | connection => exact Or.inl hcaller
  | statement stmt => exact Or.inr ⟨stmt, hcaller⟩

private theorem not_handlersAlive (hs : RunningFollow this s) (kind : HookKind) {w : World S F}
    (hfreed : ∀ i, s.world.callback this kind = some i → ¬ w.objects.Live i)
    (hbusy : ¬ RunningEvent.Idle s kind) : ¬ HandlersAlive this { s with world := w } := by
  intro halive
  simp only [RunningEvent.Idle, not_forall, not_not] at hbusy
  obtain ⟨f, hf, rfl⟩ := hbusy
  exact hfreed f.object (hs.entry f hf) (halive.running f hf)

/-- Both convenience functions in one: the handle is asked, then the object of `kind` is deleted. -/
theorem checkedReset_spec (hs : RunningFollow this s) {kind : HookKind} {f : Nat → S → Int × S}
    (hf : ∀ h s, (f h s).1 = SQLITE_OK ∧ ∃ slot, (slot = .empty ∨ slot = .builtin) ∧
      SlotBecomes shared h kind slot s (f h s).2) :
    let s' := { s with world :=
      ((do callHookChecked this f; Connection.resetCallback this kind) s.world).final }
    let ok := (s.world.held this).isSome → LifeEvent.OnlyCurrent this s.world kind ∧
      RunningEvent.Idle s kind
    (ok → RunningFollow this s') ∧ (¬ ok → ¬ HandlersAlive this s') := by
  intro s' ok
  rcases hheld : s.world.held this with _ | h
  · have hsame : s' = s := by
      simp only [s', (checkedReset_no_handle hheld).final]
    rw [hsame]
    refine ⟨fun _ => hs, fun hno => (hno fun hopen => ?_).elim⟩
    rw [hheld] at hopen
    cases hopen
  · obtain ⟨hrv, slot, hslot, hbecomes⟩ := hf h s.world.sqlite
    have hspec := hs.hooks.checkedReset_spec hheld hslot hbecomes
    let v := (s.world.called this fun h s => (f h s).2).reset this kind
    have hs' : s' = { s with world := v } := by
      simp only [s', (checkedReset_ends hheld hrv).final, v]
    have hopen : (s.world.held this).isSome := by rw [hheld]; rfl
    rw [hs']
    constructor
    · intro hok
      obtain ⟨honly, hidle⟩ := hok hopen
      apply hs.of_idle (hspec.1 honly)
      intro g hg
      change v.callback this g.kind = _
      rw [callback_reset, Function.update_of_ne (hidle g hg)]
      rfl
    · intro hno
      by_cases honly : LifeEvent.OnlyCurrent this s.world kind
      · apply hs.not_handlersAlive kind
        · intro i hi hlive
          rw [objects_reset, Heap.live_freeAll] at hlive
          exact hlive.1 (Option.mem_toList.mpr hi)
        · exact fun hidle => hno fun _ => ⟨honly, hidle⟩
      · exact fun halive => hspec.2 honly halive.callable

theorem exec (laws : HookLaws shared S) (hs : RunningFollow this s) (e : RunningEvent F)
    (hok : e.SparesRunning this s) : RunningFollow this (e.exec this s) := by
  cases e with
  | life e =>
    apply hs.of_idle (hs.hooks.exec_hooksFollow laws e hok.1)
    intro f hf
    exact e.callback_exec s.world fun heq => hok.2 f.kind heq f hf rfl
  | busyTimeout ms => exact (hs.checkedReset_spec (laws.busyTimeout ms)).1 hok
  | walAutocheckpoint frames => exact (hs.checkedReset_spec (laws.walAutocheckpoint frames)).1 hok
  | callHandler caller kind =>
    rw [RunningEvent.exec]
    rcases hcaller : s.world.callerHandle this caller with _ | h
    · exact hs
    · exact hs.enterHandler (inUse_callerHandle hcaller) kind
  | returnHandler => exact ⟨hs.hooks, fun f hf => hs.entry f (List.mem_of_mem_tail hf)⟩

private theorem exec_not_handlersAlive (laws : HookLaws shared S) (hs : RunningFollow this s)
    (e : RunningEvent F) (hno : ¬ e.SparesRunning this s) :
    ¬ HandlersAlive this (e.exec this s) := by
  cases e with
  | life e =>
    by_cases hspares : e.Spares this s.world
    · have hbusy : ∃ kind, e.replaces = some kind ∧ ¬ RunningEvent.Idle s kind := by
        by_contra hidle
        push Not at hidle
        exact hno ⟨hspares, hidle⟩
      obtain ⟨kind, hreplaces, hbusy⟩ := hbusy
      exact hs.not_handlersAlive kind (fun _ hi => LifeEvent.not_live_exec hreplaces hi) hbusy
    · intro halive
      exact hs.hooks.exec_not_callsSafe laws e hspares halive.callable
  | busyTimeout ms => exact (hs.checkedReset_spec (laws.busyTimeout ms)).2 hno
  | walAutocheckpoint frames => exact (hs.checkedReset_spec (laws.walAutocheckpoint frames)).2 hno
  | callHandler caller kind => exact (hno trivial).elim
  | returnHandler => exact (hno trivial).elim

end RunningFollow

/-- No handler loses its object while it runs, and no call reaches a deleted one, in exactly the
runs in which a handler is replaced or cleared only while none of its kind is running, and no slot
of another handle in use has it. -/
theorem running_handlers_alive_iff [HookApi S] {shared : Bool} (laws : HookLaws shared S)
    {sqlite : S} (hfresh : NoUserHooks sqlite) (this : Nat) (es : List (RunningEvent F)) :
    let start : RunningWorld S F := ⟨World.oneConnection sqlite this, []⟩
    Always (RunningEvent.exec this) (HandlersAlive this) start es ↔
      StepsMeet (RunningEvent.exec this) (RunningEvent.SparesRunning this) start es := by
  intro start
  have hstart : RunningFollow this start :=
    ⟨HooksFollow.init hfresh this, fun f hf => by cases hf⟩
  exact always_iff_stepsMeet (fun _ hs => hs.handlersAlive)
    (fun _ e hs hok => hs.exec laws e hok)
    (fun _ e hs hno => hs.exec_not_handlersAlive laws e hno) hstart es

private theorem LifeEvent.onlyCurrent_of_no_statements [HookApi S] {this : Nat} {w : World S F}
    (hnone : w.statements = fun _ => none) (kind : HookKind) :
    LifeEvent.OnlyCurrent this w kind := by
  intro h hook huse _
  rcases huse with hheld | ⟨stmt, hstmt⟩
  · exact hheld
  · rw [hnone] at hstmt
    cases hstmt

/-- An update handler that sets the commit handler and runs once more inside itself is safe; one
that clears the update handler deletes itself. -/
theorem running_handlers_alive_iff_nested :
    let start : RunningWorld (SlotTable true) Nat := ⟨World.oneConnection SlotTable.fresh 0, []⟩
    let entered : List (RunningEvent Nat) :=
      [.life (.openDb .ok), .life (.set .update 0 (some 1) .none),
        .callHandler .connection .update]
    Always (RunningEvent.exec 0) (HandlersAlive 0) start (entered ++
        [.life (.set .commit 0 (some 2) .none), .callHandler .connection .update, .returnHandler,
          .returnHandler]) ∧
      ¬ Always (RunningEvent.exec 0) (HandlersAlive 0) start
        (entered ++ [.life (.clear .update)]) := by
  intro start entered
  constructor
  · apply (running_handlers_alive_iff SlotTable.hookLaws SlotTable.noUserHooks 0 _).mpr
    refine ⟨⟨trivial, fun _ h => by cases h⟩, ⟨?_, fun _ _ f hf => by cases hf⟩, trivial,
      ⟨?_, ?_⟩, trivial, trivial, trivial, trivial⟩
    · exact fun _ => ⟨LifeEvent.onlyCurrent_of_no_statements rfl _, fun h => by cases h.1⟩
    · exact fun _ => ⟨LifeEvent.onlyCurrent_of_no_statements rfl _, fun h => by cases h.1⟩
    · rintro kind ⟨⟩ f hf
      obtain rfl : f = ⟨.update, 0⟩ := List.mem_singleton.mp hf
      decide
  · intro halways
    obtain ⟨-, -, -, hclear, -⟩ := (running_handlers_alive_iff SlotTable.hookLaws
      SlotTable.noUserHooks 0 _).mp halways
    exact hclear.2 .update rfl ⟨.update, 0⟩ List.mem_cons_self rfl

end Sqxx
