import Sqxx.Connection.Object

/-!
# Handlers

The ten pairs of functions that set and clear a handler, and the two convenience functions that
replace one.  A handler object is allocated first, then registered, then stored in the table, which
deletes the object it replaces.
-/

namespace Sqxx
open Framework

variable {S F : Type}

/-- Where setting a handler can throw: at the handler object or at the callback table. -/
structure Faults where
  object : Option Exn
  table : Bool
  deriving DecidableEq, Repr

def Faults.none : Faults := ⟨.none, false⟩

def World.callback (w : World S F) (this : Nat) (kind : HookKind) : Option Nat :=
  (w.conn this).callbacks.bind (· kind)

def World.setCallback (w : World S F) (this : Nat) (kind : HookKind) (cb : Option Nat) :
    World S F :=
  w.setCallbacks this ((w.conn this).callbacks.map fun table => Function.update table kind cb)

/-- What the library's state becomes by a call with the handle; the null handle has no slots. -/
def World.called (w : World S F) (this : Nat) (f : Nat → S → S) : World S F :=
  { w with sqlite := match (w.conn this).handle with
      | some h => f h w.sqlite
      | none => w.sqlite }

def newObject (object : HandlerObject F) (fault : Option Exn) : Cxx (World S F) Nat :=
  match fault with
  | some e => Cxx.throw e
  | none => Prog.effect fun w => (w.objects.next, { w with objects := w.objects.alloc object })

def deleteObject (cb : Nat) : Cxx (World S F) Unit :=
  Prog.perform fun w => { w with objects := w.objects.free cb }

def callHook (this : Nat) (f : Nat → S → S) : Cxx (World S F) Unit :=
  Prog.perform fun w => w.called this f

/-- A call that answers a code; with the null handle it is a misuse. -/
def World.calledForCode (w : World S F) (this : Nat) (f : Nat → S → Int × S) : Int × World S F :=
  match (w.conn this).handle with
  | some h => ((f h w.sqlite).1, { w with sqlite := (f h w.sqlite).2 })
  | none => (SQLITE_MISUSE, w)

def callHookChecked (this : Nat) (f : Nat → S → Int × S) : Cxx (World S F) Unit := do
  let rv ← Prog.effect fun w => w.calledForCode this f
  Cxx.checkOk rv

namespace Connection

def setupCallbacks (this : Nat) (fault : Bool) : Cxx (World S F) Unit := do
  let callbacks ← Prog.reading fun w => (w.conn this).callbacks
  if callbacks.isSome then
    pure ()
  else if fault then
    Cxx.throw .badAlloc
  else
    Prog.perform fun w => w.setCallbacks this (some fun _ => none)

/-- Assignment to, or `reset` of, an owning pointer: the new value is stored, then the old object is
deleted. -/
def storeCallback (this : Nat) (kind : HookKind) (cb : Option Nat) : Cxx (World S F) Unit := do
  let old ← Prog.reading fun w => w.callback this kind
  Prog.perform fun w => w.setCallback this kind cb
  Prog.perform fun w => { w with objects := w.objects.freeAll old.toList }

/-- `if (callbacks) callbacks->X.reset()`. -/
def resetCallback (this : Nat) (kind : HookKind) : Cxx (World S F) Unit := do
  let callbacks ← Prog.reading fun w => (w.conn this).callbacks
  if callbacks.isSome then storeCallback this kind none else pure ()

section Set

variable (this : Nat)

/-- The body of every `set_X_handler(fun)` for a function that is not empty. -/
def setHandler (kind : HookKind) (register : Option Hook → Nat → S → S) (fn : Trampoline)
    (object : HandlerObject F) (faults : Faults) : Cxx (World S F) Unit := do
  let cb ← newObject object faults.object
  Cxx.unwinding (do
    callHook this (register (some ⟨fn, cb⟩))
    setupCallbacks this faults.table) (deleteObject cb)
  storeCallback this kind (some cb)

/-- The body of every `set_X_handler()`. -/
def clearHandler (kind : HookKind) (register : Option Hook → Nat → S → S) :
    Cxx (World S F) Unit := do
  callHook this (register none)
  resetCallback this kind

variable [HookApi S] (f : Option F) (faults : Faults)

def clearCommitHandler : Cxx (World S F) Unit := clearHandler this .commit HookApi.commitHook

def setCommitHandler : Cxx (World S F) Unit :=
  match f with
  | some f =>
    setHandler this .commit HookApi.commitHook .sqxxCallCommitHandler (.function f) faults
  | none => clearCommitHandler this

def clearRollbackHandler : Cxx (World S F) Unit := clearHandler this .rollback HookApi.rollbackHook

def setRollbackHandler : Cxx (World S F) Unit :=
  match f with
  | some f =>
    setHandler this .rollback HookApi.rollbackHook .sqxxCallRollbackHandler (.function f) faults
  | none => clearRollbackHandler this

def clearUpdateHandler : Cxx (World S F) Unit := clearHandler this .update HookApi.updateHook

def setUpdateHandler : Cxx (World S F) Unit :=
  match f with
  | some f =>
    setHandler this .update HookApi.updateHook .sqxxCallUpdateHandler (.function f) faults
  | none => clearUpdateHandler this

def clearTraceHandler : Cxx (World S F) Unit := clearHandler this .trace HookApi.trace

def setTraceHandler : Cxx (World S F) Unit :=
  match f with
  | some f => setHandler this .trace HookApi.trace .sqxxCallTraceHandler (.function f) faults
  | none => clearTraceHandler this

def clearProfileHandler : Cxx (World S F) Unit := clearHandler this .profile HookApi.profile

def setProfileHandler : Cxx (World S F) Unit :=
  match f with
  | some f => setHandler this .profile HookApi.profile .sqxxCallProfileHandler (.function f) faults
  | none => clearProfileHandler this

def clearAuthorizeHandler : Cxx (World S F) Unit :=
  clearHandler this .authorize HookApi.setAuthorizer

def setAuthorizeHandler : Cxx (World S F) Unit :=
  match f with
  | some f =>
    setHandler this .authorize HookApi.setAuthorizer .sqxxCallAuthorizeHandler (.function f) faults
  | none => clearAuthorizeHandler this

def clearBusyHandler : Cxx (World S F) Unit := clearHandler this .busy HookApi.busyHandler

def setBusyHandler : Cxx (World S F) Unit :=
  match f with
  | some f => setHandler this .busy HookApi.busyHandler .sqxxCallBusyHandler (.function f) faults
  | none => clearBusyHandler this

def clearProgressHandler : Cxx (World S F) Unit :=
  clearHandler this .progress (HookApi.progressHandler 0)

def setProgressHandler (vinst : Int32) : Cxx (World S F) Unit :=
  match f with
  | some f =>
    setHandler this .progress (HookApi.progressHandler vinst) .sqxxCallProgressHandler
      (.function f) faults
  | none => clearProgressHandler this

def clearWalHandler : Cxx (World S F) Unit := clearHandler this .wal HookApi.walHook

def setWalHandler : Cxx (World S F) Unit :=
  match f with
  | some f => setHandler this .wal HookApi.walHook .sqxxCallWalHandler (.function f) faults
  | none => clearWalHandler this

def clearCollationHandler : Cxx (World S F) Unit :=
  clearHandler this .collation HookApi.collationNeeded

/-- The object holds a reference to the connection as well. -/
def setCollationHandler : Cxx (World S F) Unit :=
  match f with
  | some f =>
    setHandler this .collation HookApi.collationNeeded .sqxxCallCollationHandler
      (.collationData this f) faults
  | none => clearCollationHandler this

def busyTimeout (ms : Int32) : Cxx (World S F) Unit := do
  callHookChecked this (HookApi.busyTimeout ms)
  resetCallback this .busy

def walAutocheckpoint (frames : Int32) : Cxx (World S F) Unit := do
  callHookChecked this (HookApi.walAutocheckpoint frames)
  resetCallback this .wal

end Set

end Connection

/-- The function that sets the handler of a kind; `vinst` is for the progress handler. -/
def setterOf [HookApi S] (this : Nat) (kind : HookKind) (vinst : Int32) (f : Option F)
    (faults : Faults) : Cxx (World S F) Unit :=
  match kind with
  | .commit => Connection.setCommitHandler this f faults
  | .rollback => Connection.setRollbackHandler this f faults
  | .update => Connection.setUpdateHandler this f faults
  | .trace => Connection.setTraceHandler this f faults
  | .profile => Connection.setProfileHandler this f faults
  | .authorize => Connection.setAuthorizeHandler this f faults
  | .busy => Connection.setBusyHandler this f faults
  | .progress => Connection.setProgressHandler this f faults vinst
  | .wal => Connection.setWalHandler this f faults
  | .collation => Connection.setCollationHandler this f faults

def clearerOf [HookApi S] (this : Nat) (kind : HookKind) : Cxx (World S F) Unit :=
  match kind with
  | .commit => Connection.clearCommitHandler this
  | .rollback => Connection.clearRollbackHandler this
  | .update => Connection.clearUpdateHandler this
  | .trace => Connection.clearTraceHandler this
  | .profile => Connection.clearProfileHandler this
  | .authorize => Connection.clearAuthorizeHandler this
  | .busy => Connection.clearBusyHandler this
  | .progress => Connection.clearProgressHandler this
  | .wal => Connection.clearWalHandler this
  | .collation => Connection.clearCollationHandler this

/-! ## What the members have in common -/

def trampolineOf : HookKind → Trampoline
  | .commit => .sqxxCallCommitHandler
  | .rollback => .sqxxCallRollbackHandler
  | .update => .sqxxCallUpdateHandler
  | .trace => .sqxxCallTraceHandler
  | .profile => .sqxxCallProfileHandler
  | .authorize => .sqxxCallAuthorizeHandler
  | .busy => .sqxxCallBusyHandler
  | .progress => .sqxxCallProgressHandler
  | .wal => .sqxxCallWalHandler
  | .collation => .sqxxCallCollationHandler

def objectOf (this : Nat) (f : F) : HookKind → HandlerObject F
  | .collation => .collationData this f
  | _ => .function f

def registerOf [HookApi S] (vinst : Int32) : HookKind → Option Hook → Nat → S → S
  | .commit => HookApi.commitHook
  | .rollback => HookApi.rollbackHook
  | .update => HookApi.updateHook
  | .trace => HookApi.trace
  | .profile => HookApi.profile
  | .authorize => HookApi.setAuthorizer
  | .busy => HookApi.busyHandler
  | .progress => HookApi.progressHandler vinst
  | .wal => HookApi.walHook
  | .collation => HookApi.collationNeeded

/-- Setting a handler of `kind` has the library call it. -/
def Active (kind : HookKind) (vinst : Int32) : Prop := kind = .progress → 1 ≤ vinst

instance (kind : HookKind) (vinst : Int32) : Decidable (Active kind vinst) :=
  inferInstanceAs (Decidable (kind = .progress → 1 ≤ vinst))

def slotAfterSet (kind : HookKind) (vinst : Int32) (cb : Nat) : Slot :=
  if Active kind vinst then .user ⟨trampolineOf kind, cb⟩ else .empty

theorem setterOf_some [HookApi S] (this : Nat) (kind : HookKind) (vinst : Int32) (f : F)
    (faults : Faults) :
    (setterOf this kind vinst (some f) faults : Cxx (World S F) Unit) =
      Connection.setHandler this kind (registerOf vinst kind) (trampolineOf kind)
        (objectOf this f kind) faults := by
  cases kind <;> rfl

theorem setterOf_none [HookApi S] (this : Nat) (kind : HookKind) (vinst : Int32)
    (faults : Faults) :
    (setterOf this kind vinst none faults : Cxx (World S F) Unit) = clearerOf this kind := by
  cases kind <;> rfl

theorem clearerOf_eq [HookApi S] (this : Nat) (kind : HookKind) :
    (clearerOf this kind : Cxx (World S F) Unit) =
      Connection.clearHandler this kind (registerOf 0 kind) := by
  cases kind <;> rfl

theorem slotAfterSet_of_active {kind : HookKind} {vinst : Int32} (h : Active kind vinst)
    (cb : Nat) : slotAfterSet kind vinst cb = .user ⟨trampolineOf kind, cb⟩ :=
  if_pos h

theorem kind_of_not_active {kind : HookKind} {vinst : Int32} (h : ¬ Active kind vinst) :
    kind = .progress :=
  (Classical.not_imp.mp h).1

theorem data_of_slotAfterSet {kind : HookKind} {vinst : Int32} {cb : Nat} {hook : Hook}
    (heq : slotAfterSet kind vinst cb = .user hook) : hook.data = cb := by
  rw [slotAfterSet] at heq
  split at heq
  · cases heq
    rfl
  · cases heq

private theorem registerOf_becomes [HookApi S] {shared : Bool} (laws : HookLaws shared S)
    (vinst : Int32) (kind : HookKind) (hook : Option Hook) (h : Nat) (s : S) :
    SlotBecomes shared h kind (if Active kind vinst then Slot.ofHook hook else .empty) s
      (registerOf vinst kind hook h s) := by
  by_cases hprogress : kind = .progress
  · subst hprogress
    have hactive : Active .progress vinst ↔ 1 ≤ vinst := by simp [Active]
    simp only [hactive]
    exact laws.progressHandler vinst hook h s
  · have hactive : Active kind vinst := fun heq => (hprogress heq).elim
    rw [if_pos hactive]
    cases kind with
    | commit => exact laws.commitHook hook h s
    | rollback => exact laws.rollbackHook hook h s
    | update => exact laws.updateHook hook h s
    | trace => exact laws.trace hook h s
    | profile => exact laws.profile hook h s
    | authorize => exact laws.setAuthorizer hook h s
    | busy => exact laws.busyHandler hook h s
    | progress => exact (hprogress rfl).elim
    | wal => exact laws.walHook hook h s
    | collation => exact laws.collationNeeded hook h s

theorem registerOf_some [HookApi S] {shared : Bool} (laws : HookLaws shared S) (vinst : Int32)
    (kind : HookKind) (cb h : Nat) (s : S) :
    SlotBecomes shared h kind (slotAfterSet kind vinst cb) s
      (registerOf vinst kind (some ⟨trampolineOf kind, cb⟩) h s) :=
  registerOf_becomes laws vinst kind (some ⟨trampolineOf kind, cb⟩) h s

theorem registerOf_none [HookApi S] {shared : Bool} (laws : HookLaws shared S) (kind : HookKind)
    (h : Nat) (s : S) : SlotBecomes shared h kind .empty s (registerOf 0 kind none h s) := by
  have hbecomes := registerOf_becomes laws 0 kind none h s
  rwa [show Slot.ofHook none = .empty from rfl, ite_self] at hbecomes

/-! ## What the members do -/

def World.withTable (w : World S F) (this : Nat) : World S F :=
  if (w.conn this).callbacks.isSome then w else w.setCallbacks this (some fun _ => none)

def World.stored (w : World S F) (this : Nat) (kind : HookKind) (cb : Option Nat) : World S F :=
  { w.setCallback this kind cb with
    objects := w.objects.freeAll (w.callback this kind).toList }

def World.reset (w : World S F) (this : Nat) (kind : HookKind) : World S F :=
  if (w.conn this).callbacks.isSome then w.stored this kind none else w

def World.registered (w : World S F) (this : Nat) (register : Option Hook → Nat → S → S)
    (fn : Trampoline) (object : HandlerObject F) : World S F :=
  World.called { w with objects := w.objects.alloc object } this
    (register (some ⟨fn, w.objects.next⟩))

@[simp] theorem callback_setHandle (w : World S F) (this : Nat) (handle : Option Nat) :
    (w.setHandle this handle).callback this = w.callback this := by
  funext kind
  simp [World.callback, World.setHandle]

theorem callbacks_withTable (w : World S F) (this : Nat) :
    ((w.withTable this).conn this).callbacks.isSome := by
  by_cases h : (w.conn this).callbacks.isSome
  · rw [World.withTable, if_pos h]
    exact h
  · rw [World.withTable, if_neg h]
    simp [World.setCallbacks]

theorem callback_withTable (w : World S F) (this : Nat) :
    (w.withTable this).callback this = w.callback this := by
  by_cases h : (w.conn this).callbacks.isSome
  · rw [World.withTable, if_pos h]
  · funext kind
    have hnone : (w.conn this).callbacks = none := by simpa using h
    rw [World.withTable, if_neg h]
    simp [World.callback, World.setCallbacks, hnone]

theorem callback_setCallback {w : World S F} {this : Nat} (h : (w.conn this).callbacks.isSome)
    (kind : HookKind) (cb : Option Nat) :
    (w.setCallback this kind cb).callback this = Function.update (w.callback this) kind cb := by
  obtain ⟨table, htable⟩ := Option.isSome_iff_exists.mp h
  funext other
  by_cases hother : other = kind
  · subst hother
    simp [World.callback, World.setCallback, World.setCallbacks, htable]
  · simp [World.callback, World.setCallback, World.setCallbacks, htable, hother]

theorem callback_reset (w : World S F) (this : Nat) (kind : HookKind) :
    (w.reset this kind).callback this = Function.update (w.callback this) kind none := by
  by_cases h : (w.conn this).callbacks.isSome
  · rw [World.reset, if_pos h]
    exact callback_setCallback h kind none
  · have hnone : w.callback this kind = none := by
      have hcallbacks : (w.conn this).callbacks = none := by simpa using h
      simp [World.callback, hcallbacks]
    rw [World.reset, if_neg h, ← hnone, Function.update_eq_self]

theorem objects_reset (w : World S F) (this : Nat) (kind : HookKind) :
    (w.reset this kind).objects = w.objects.freeAll (w.callback this kind).toList := by
  by_cases h : (w.conn this).callbacks.isSome
  · rw [World.reset, if_pos h]
    rfl
  · have hcallbacks : (w.conn this).callbacks = none := by simpa using h
    rw [World.reset, if_neg h]
    simp [World.callback, hcallbacks]

/-- Who holds which handle, and what the library knows of handles and statements, is the same. -/
structure SameHandles (w w' : World S F) : Prop where
  held : w'.held = w.held
  handles : w'.handles = w.handles
  statements : w'.statements = w.statements

theorem SameHandles.trans {w w' w'' : World S F} (h : SameHandles w w') (h' : SameHandles w' w'') :
    SameHandles w w'' :=
  ⟨h'.held.trans h.held, h'.handles.trans h.handles, h'.statements.trans h.statements⟩

private theorem sameHandles_setCallbacks (w : World S F) (this : Nat)
    (callbacks : Option CallbackTable) :
    SameHandles w (w.setCallbacks this callbacks) :=
  ⟨held_setCallbacks w this callbacks, rfl, rfl⟩

private theorem sameHandles_withTable (w : World S F) (this : Nat) :
    SameHandles w (w.withTable this) := by
  rw [World.withTable]
  split
  · exact ⟨rfl, rfl, rfl⟩
  · exact sameHandles_setCallbacks w this _

private theorem sameHandles_stored (w : World S F) (this : Nat) (kind : HookKind)
    (cb : Option Nat) :
    SameHandles w (w.stored this kind cb) :=
  (sameHandles_setCallbacks w this _).trans ⟨rfl, rfl, rfl⟩

theorem sameHandles_reset (w : World S F) (this : Nat) (kind : HookKind) :
    SameHandles w (w.reset this kind) := by
  rw [World.reset]
  split
  · exact sameHandles_stored w this kind none
  · exact ⟨rfl, rfl, rfl⟩

theorem sqlite_withTable (w : World S F) (this : Nat) : (w.withTable this).sqlite = w.sqlite := by
  rw [World.withTable]
  split <;> rfl

theorem objects_withTable (w : World S F) (this : Nat) :
    (w.withTable this).objects = w.objects := by
  rw [World.withTable]
  split <;> rfl

theorem sqlite_reset (w : World S F) (this : Nat) (kind : HookKind) :
    (w.reset this kind).sqlite = w.sqlite := by
  rw [World.reset]
  split <;> rfl

def World.afterSet (w : World S F) (this : Nat) (kind : HookKind)
    (register : Option Hook → Nat → S → S) (fn : Trampoline) (object : HandlerObject F) :
    World S F :=
  ((w.registered this register fn object).withTable this).stored this kind (some w.objects.next)

section AfterSet

variable (w : World S F) (this : Nat) (kind : HookKind) (register : Option Hook → Nat → S → S)
  (fn : Trampoline) (object : HandlerObject F)

theorem sqlite_afterSet : (w.afterSet this kind register fn object).sqlite =
    (w.called this (register (some ⟨fn, w.objects.next⟩))).sqlite :=
  sqlite_withTable (w.registered this register fn object) this

theorem callback_afterSet : (w.afterSet this kind register fn object).callback this =
    Function.update (w.callback this) kind (some w.objects.next) := by
  have hcallback : ((w.registered this register fn object).withTable this).callback this =
      w.callback this := callback_withTable _ this
  rw [← hcallback]
  exact callback_setCallback (callbacks_withTable _ this) kind _

theorem objects_afterSet : (w.afterSet this kind register fn object).objects =
    (w.objects.alloc object).freeAll (w.callback this kind).toList := by
  let ready := (w.registered this register fn object).withTable this
  change ready.objects.freeAll (ready.callback this kind).toList = _
  rw [objects_withTable, callback_withTable]
  rfl

theorem sameHandles_afterSet : SameHandles w (w.afterSet this kind register fn object) := by
  have hregistered : SameHandles w (w.registered this register fn object) := ⟨rfl, rfl, rfl⟩
  exact (hregistered.trans (sameHandles_withTable _ this)).trans (sameHandles_stored _ this kind _)

end AfterSet

theorem sqlite_called {w : World S F} {this h : Nat} (hheld : w.held this = some h)
    (f : Nat → S → S) : (w.called this f).sqlite = f h w.sqlite := by
  rw [← conn_handle] at hheld
  simp [World.called, hheld]

/-! ## Hooks and their objects -/

section Hooks

variable [HookApi S] {used : Nat → Prop} {s s' : S} {objects : Heap (HandlerObject F)}

/-- Every hook that can be called through a handle in use has an object that is alive. -/
def HooksLive (used : Nat → Prop) (s : S) (objects : Heap (HandlerObject F)) : Prop :=
  ∀ h kind hook, used h → HookApi.slot s h kind = .user hook → objects.Live hook.data

theorem HooksLive.alloc (hlive : HooksLive used s objects) (object : HandlerObject F) :
    HooksLive used s (objects.alloc object) := by
  intro h kind hook hused hslot
  exact (Heap.live_alloc _ _ _).mpr (Or.inr (hlive h kind hook hused hslot))

theorem HooksLive.slotBecomes (hlive : HooksLive used s objects) {shared : Bool} {h : Nat}
    {kind : HookKind} {slot : Slot} (hs : SlotBecomes shared h kind slot s s')
    (hslot : ∀ hook, slot = .user hook → objects.Live hook.data) : HooksLive used s' objects := by
  intro h' kind' hook hused huser
  by_cases hsame : (h', kind') = (h, kind)
  · obtain ⟨rfl, rfl⟩ := Prod.mk.inj hsame
    exact hslot hook (hs.here.symm.trans huser)
  · exact hlive h' kind' hook hused (hs.user hsame huser)

theorem HooksLive.freeAll (hlive : HooksLive used s objects) {is : List Nat}
    (hkept : ∀ h kind hook, used h → HookApi.slot s h kind = .user hook → hook.data ∉ is) :
    HooksLive used s (objects.freeAll is) := by
  intro h kind hook hused hslot
  exact (Heap.live_freeAll _ _ _).mpr ⟨hkept h kind hook hused hslot, hlive h kind hook hused hslot⟩

end Hooks

namespace Connection

variable {inv : World S F → Prop} {w : World S F} {this : Nat}

private theorem setupCallbacks_through {fault : Bool}
    (hok : (w.conn this).callbacks.isSome ∨ fault = false) (hinv : inv (w.withTable this)) :
    Prog.Through inv (setupCallbacks this fault) w (.ok ()) (w.withTable this) := by
  apply (Prog.Through.reading _ w).bind
  by_cases h : (w.conn this).callbacks.isSome
  · rw [if_pos h, World.withTable, if_pos h]
    exact Prog.Through.pure _ w
  · have hfault : ¬ fault := by simpa [h] using hok
    rw [if_neg h, if_neg hfault]
    rw [World.withTable, if_neg h] at hinv ⊢
    exact Prog.Through.perform hinv

private theorem setupCallbacks_fails (hnone : (w.conn this).callbacks = none) :
    Prog.Ends (setupCallbacks this true) w (.error (.exception .badAlloc)) w := by
  apply (Prog.Ends.reading _ w).bind
  rw [hnone]
  exact Prog.Ends.raise _ w

private theorem storeCallback_through {kind : HookKind} {cb : Option Nat}
    (hset : inv (w.setCallback this kind cb)) (hstored : inv (w.stored this kind cb)) :
    Prog.Through inv (storeCallback this kind cb) w (.ok ()) (w.stored this kind cb) := by
  apply (Prog.Through.reading _ w).bind
  apply (Prog.Through.perform hset).bind
  exact Prog.Through.perform hstored

theorem resetCallback_through {kind : HookKind}
    (hset : (w.conn this).callbacks.isSome → inv (w.setCallback this kind none))
    (hreset : inv (w.reset this kind)) :
    Prog.Through inv (resetCallback this kind) w (.ok ()) (w.reset this kind) := by
  apply (Prog.Through.reading _ w).bind
  by_cases h : (w.conn this).callbacks.isSome
  · rw [World.reset, if_pos h] at hreset ⊢
    rw [if_pos h]
    exact storeCallback_through (hset h) hreset
  · rw [World.reset, if_neg h, if_neg h]
    exact Prog.Through.pure _ w

theorem setHandler_through {kind : HookKind} {register : Option Hook → Nat → S → S}
    {fn : Trampoline} {object : HandlerObject F} {faults : Faults} (hobject : faults.object = none)
    (htable : (w.conn this).callbacks.isSome ∨ faults.table = false)
    (halloc : inv { w with objects := w.objects.alloc object })
    (hregistered : inv (w.registered this register fn object))
    (hsetup : inv ((w.registered this register fn object).withTable this))
    (hset : inv (((w.registered this register fn object).withTable this).setCallback this kind
      (some w.objects.next)))
    (hstored : inv (w.afterSet this kind register fn object)) :
    Prog.Through inv (setHandler this kind register fn object faults) w (.ok ())
      (w.afterSet this kind register fn object) := by
  have hnew : Prog.Through inv (newObject object faults.object) w (.ok w.objects.next)
      { w with objects := w.objects.alloc object } := by
    rw [hobject]
    exact Prog.Through.effect halloc
  apply hnew.bind
  apply Prog.Through.bind (a := ())
  · apply Prog.Through.catching_ok
    apply (Prog.Through.perform hregistered).bind
    exact setupCallbacks_through htable hsetup
  · exact storeCallback_through hset hstored

theorem setHandler_no_object {kind : HookKind} {register : Option Hook → Nat → S → S}
    {fn : Trampoline} {object : HandlerObject F} {faults : Faults} {e : Exn}
    (hobject : faults.object = some e) :
    Prog.Ends (setHandler this kind register fn object faults) w (.error (.exception e)) w := by
  have hnew : Prog.Ends (newObject object faults.object) w (.error (.exception e)) w := by
    rw [hobject]
    exact Prog.Ends.raise _ w
  exact hnew.bind_error

theorem setHandler_no_table {kind : HookKind} {register : Option Hook → Nat → S → S}
    {fn : Trampoline} {object : HandlerObject F} {faults : Faults} (hobject : faults.object = none)
    (htable : faults.table = true) (hnone : (w.conn this).callbacks = none) :
    Prog.Ends (setHandler this kind register fn object faults) w (.error (.exception .badAlloc))
      { w.registered this register fn object with
        objects := (w.objects.alloc object).free w.objects.next } := by
  have hnew : Prog.Ends (newObject object faults.object) w (.ok w.objects.next)
      { w with objects := w.objects.alloc object } := by
    rw [hobject]
    exact Prog.Ends.effect _ w
  apply hnew.bind
  apply Prog.Ends.bind_error
  apply Prog.Ends.catching_error (e := .exception .badAlloc)
  · apply (Prog.Ends.perform _ _).bind
    rw [htable]
    exact setupCallbacks_fails hnone
  · apply (Prog.Ends.perform _ _).bind
    exact Prog.Ends.raise _ _

theorem clearHandler_through {kind : HookKind} {register : Option Hook → Nat → S → S}
    (hcalled : inv (w.called this (register none)))
    (hset : (w.conn this).callbacks.isSome →
      inv ((w.called this (register none)).setCallback this kind none))
    (hreset : inv ((w.called this (register none)).reset this kind)) :
    Prog.Through inv (clearHandler this kind register) w (.ok ())
      ((w.called this (register none)).reset this kind) := by
  apply (Prog.Through.perform hcalled).bind
  exact resetCallback_through hset hreset

theorem callHookChecked_through {h : Nat} (hheld : w.held this = some h)
    {f : Nat → S → Int × S} (hok : (f h w.sqlite).1 = SQLITE_OK)
    (hcalled : inv (w.called this fun h s => (f h s).2)) :
    Prog.Through inv (callHookChecked this f) w (.ok ())
      (w.called this fun h s => (f h s).2) := by
  have hcode : w.calledForCode this f = (SQLITE_OK, w.called this fun h s => (f h s).2) := by
    rw [← conn_handle] at hheld
    simp [World.calledForCode, World.called, hheld, hok]
  have heffect : Prog.Through inv
      (Prog.effect fun w => w.calledForCode this f : Cxx (World S F) Int) w
      (.ok (w.calledForCode this f).1) (w.calledForCode this f).2 := by
    apply Prog.Through.effect
    rw [hcode]
    exact hcalled
  rw [hcode] at heffect
  exact heffect.bind (Prog.Through.pure () _)

end Connection

end Sqxx
