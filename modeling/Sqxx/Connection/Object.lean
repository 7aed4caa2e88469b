import Sqxx.Framework.Ownership
import Sqxx.Sqlite.Hooks

/-!
# Connection objects

The members of `sqxx::connection` and its lifetime: opening, closing, moving and destruction.
Handles and handler objects are named by the order in which they were made; a handle is freed by a
successful closing call.
-/

namespace Sqxx
open Framework

/-- What a handler object holds: the user's function, for `collation_data_t` together with the
connection it was set on. -/
inductive HandlerObject (F : Type)
  | function (fn : F)
  | collationData (conn : Nat) (fn : F)
  deriving DecidableEq, Repr

abbrev CallbackTable := HookKind → Option Nat

structure Connection where
  handle : Option Nat
  callbacks : Option CallbackTable

/-- Connection objects by number, the handler objects, and what the library knows: its hook slots,
the handles and the statements not finalized yet. -/
structure World (S F : Type) where
  sqlite : S
  handles : Heap Unit
  statements : Nat → Option Nat
  objects : Heap (HandlerObject F)
  conns : Nat → Option Connection

/-- How `sqlite3_open_v2` ends: a failing call may or may not leave a handle. -/
inductive OpenAnswer
  | ok
  | failed (rv : Int) (withHandle : Bool)
  deriving DecidableEq, Repr

variable {S F : Type}

def World.conn (w : World S F) (this : Nat) : Connection := (w.conns this).getD ⟨none, none⟩

def World.setConn (w : World S F) (this : Nat) (c : Connection) : World S F :=
  { w with conns := Function.update w.conns this (some c) }

def World.setHandle (w : World S F) (this : Nat) (handle : Option Nat) : World S F :=
  w.setConn this { w.conn this with handle := handle }

def World.setCallbacks (w : World S F) (this : Nat) (callbacks : Option CallbackTable) :
    World S F :=
  w.setConn this { w.conn this with callbacks := callbacks }

/-- `sqlite3_close`, answering `rv`; the null handle is no error. -/
def sqlite3Close (handle : Option Nat) (rv : Int) : Cxx (World S F) Int :=
  Prog.effect fun w =>
    match handle with
    | none => (SQLITE_OK, w)
    | some h => (rv, if rv = SQLITE_OK then { w with handles := w.handles.free h } else w)

/-- `sqlite3_close_v2` always succeeds; with statements left the handle lives on as a zombie. -/
def sqlite3CloseV2 (handle : Option Nat) : Cxx (World S F) Int := sqlite3Close handle SQLITE_OK

def sqlite3OpenV2 (this : Nat) (answer : OpenAnswer) : Cxx (World S F) Int :=
  Prog.effect fun w =>
    match answer with
    | .ok =>
      (SQLITE_OK, { w with handles := w.handles.alloc () }.setHandle this (some w.handles.next))
    | .failed rv true =>
      (rv, { w with handles := w.handles.alloc () }.setHandle this (some w.handles.next))
    | .failed rv false => (rv, w.setHandle this none)

namespace Connection

def construct (this : Nat) : Cxx (World S F) Unit :=
  Prog.perform fun w => w.setConn this ⟨none, none⟩

def close (this : Nat) : Cxx (World S F) Unit := do
  let handle ← Prog.reading fun w => (w.conn this).handle
  let _rv ← sqlite3CloseV2 handle
  Prog.perform fun w => w.setHandle this none

def closeSync (this : Nat) (answer : Int) : Cxx (World S F) Unit := do
  let handle ← Prog.reading fun w => (w.conn this).handle
  let rv ← sqlite3Close handle answer
  if rv ≠ SQLITE_OK then
    Cxx.throw (staticError rv)
  else
    Prog.perform fun w => w.setHandle this none

def openDb (this : Nat) (answer : OpenAnswer) : Cxx (World S F) Unit := do
  let rv ← sqlite3OpenV2 this answer
  if rv ≠ SQLITE_OK then
    let handle ← Prog.reading fun w => (w.conn this).handle
    if handle.isSome then close this else pure ()
    Cxx.throw (staticError rv)
  else
    pure ()

/-- The objects a table owns, in the order its members are destroyed. -/
def CallbackTable.owned (table : CallbackTable) : List Nat :=
  [HookKind.collation, .wal, .progress, .busy, .authorize, .profile, .trace, .update, .rollback,
    .commit].filterMap table

def destroyCallbacks (callbacks : Option CallbackTable) : Cxx (World S F) Unit :=
  Prog.perform fun w =>
    { w with objects := w.objects.freeAll ((callbacks.map CallbackTable.owned).getD []) }

/-- `connection(connection&&) = default`: the raw pointer is copied, the table is moved. -/
def moveConstruct (this other : Nat) : Cxx (World S F) Unit :=
  Prog.perform fun w => (w.setConn this (w.conn other)).setCallbacks other none

/-- `operator=(connection&&) = default`, members in order. -/
def moveAssign (this other : Nat) : Cxx (World S F) Unit := do
  Prog.perform fun w => w.setHandle this (w.conn other).handle
  if this = other then
    pure ()
  else
    let old ← Prog.reading fun w => (w.conn this).callbacks
    Prog.perform fun w => (w.setCallbacks this (w.conn other).callbacks).setCallbacks other none
    destroyCallbacks old

/-- The destruction of the members; the raw handle needs none. -/
def destroyMembers (this : Nat) : Cxx (World S F) Unit := do
  let callbacks ← Prog.reading fun w => (w.conn this).callbacks
  destroyCallbacks callbacks
  Prog.perform fun w => { w with conns := Function.update w.conns this none }

def destroy (this : Nat) : Cxx (World S F) Unit := do
  let handle ← Prog.reading fun w => (w.conn this).handle
  if handle.isSome then close this else pure ()
  destroyMembers this

end Connection

namespace World

def noConnections (sqlite : S) : World S F :=
  ⟨sqlite, Heap.empty, fun _ => none, Heap.empty, fun _ => none⟩

def oneConnection (sqlite : S) (this : Nat) : World S F :=
  (Connection.construct this (noConnections sqlite)).final

def opened (sqlite : S) (this : Nat) : World S F :=
  (Connection.openDb this .ok (oneConnection sqlite this)).final

end World

/-- The handle an object holds, if it exists and has one. -/
def World.held (w : World S F) (this : Nat) : Option Nat := (w.conns this).bind (·.handle)

theorem conn_handle (w : World S F) (this : Nat) : (w.conn this).handle = w.held this := by
  rcases h : w.conns this with _ | c <;> simp [World.conn, World.held, h]

@[simp] theorem conn_setConn (w : World S F) (this : Nat) (c : Connection) :
    (w.setConn this c).conn this = c := by
  simp [World.conn, World.setConn]

theorem held_setConn (w : World S F) (this : Nat) (c : Connection) :
    (w.setConn this c).held = Function.update w.held this c.handle := by
  funext d
  by_cases hd : d = this
  · subst hd
    simp [World.held, World.setConn]
  · simp [World.held, World.setConn, hd]

theorem held_setHandle (w : World S F) (this : Nat) (handle : Option Nat) :
    (w.setHandle this handle).held = Function.update w.held this handle :=
  held_setConn w this _

theorem held_setCallbacks (w : World S F) (this : Nat) (callbacks : Option CallbackTable) :
    (w.setCallbacks this callbacks).held = w.held := by
  rw [World.setCallbacks, held_setConn]
  change Function.update w.held this (w.conn this).handle = w.held
  rw [conn_handle, Function.update_eq_self]

namespace Connection

theorem close_ends (this : Nat) (w : World S F) :
    Prog.Ends (close this) w (.ok ())
      ({ w with handles := w.handles.freeAll (w.held this).toList }.setHandle this none) := by
  rcases h : w.held this with _ | i
  · constructor <;> simp [close, sqlite3CloseV2, sqlite3Close, conn_handle, h]
  · constructor <;> simp [close, sqlite3CloseV2, sqlite3Close, conn_handle, h]

theorem closeSync_final (this : Nat) (answer : Int) (w : World S F) :
    (closeSync this answer w).final =
      if answer = SQLITE_OK ∨ w.held this = none then (close this w).final else w := by
  rcases h : w.held this with _ | i
  · simp [(close_ends this w).final, closeSync, sqlite3Close, conn_handle, h]
  · by_cases hok : answer = SQLITE_OK
    · simp [(close_ends this w).final, closeSync, sqlite3Close, conn_handle, h, hok]
    · simp [closeSync, sqlite3Close, conn_handle, h, hok]

theorem openDb_final (this : Nat) (answer : OpenAnswer) (w : World S F) :
    (openDb this answer w).final =
      match answer with
      | .ok => { w with handles := w.handles.alloc () }.setHandle this (some w.handles.next)
      | .failed rv true =>
        if rv = SQLITE_OK then
          { w with handles := w.handles.alloc () }.setHandle this (some w.handles.next)
        else
          { w with handles := (w.handles.alloc ()).free w.handles.next }.setHandle this none
      | .failed _ false => w.setHandle this none := by
  cases answer with
  | ok => simp [openDb, sqlite3OpenV2]
  | failed rv withHandle =>
    by_cases hok : rv = SQLITE_OK
    · cases withHandle <;> simp [openDb, sqlite3OpenV2, hok]
    · cases withHandle with
      | false => simp [openDb, sqlite3OpenV2, hok, World.setHandle]
      | true =>
        let opened := { w with handles := w.handles.alloc () }.setHandle this (some w.handles.next)
        have hheld : opened.held this = some w.handles.next := by
          rw [held_setHandle, Function.update_self]
        have hclose := close_ends this opened
        rw [hheld] at hclose
        have hopen : Prog.Ends (openDb this (.failed rv true)) w
            (.error (.exception (staticError rv)))
            ({ opened with handles := opened.handles.free w.handles.next }.setHandle this
              none) := by
          apply (Prog.Ends.effect _ w).bind
          rw [if_pos hok]
          apply (Prog.Ends.reading _ opened).bind
          rw [conn_handle, hheld]
          change Prog.Ends (close this >>= fun _ => Cxx.throw (staticError rv)) opened _ _
          apply hclose.bind
          exact Prog.Ends.raise _ _
        rw [hopen.final]
        simp [hok, opened, World.setHandle, World.setConn, World.conn]

/-- What `open` can do: store a new handle, store null, or store null after closing a new one. -/
theorem openDb_cases (this : Nat) (answer : OpenAnswer) (w : World S F) :
    let w' := (openDb this answer w).final
    w' = { w with handles := w.handles.alloc () }.setHandle this (some w.handles.next) ∨
      w' = w.setHandle this none ∨
      w' = { w with handles := (w.handles.alloc ()).free w.handles.next }.setHandle this none := by
  rw [openDb_final]
  cases answer with
  | ok => exact Or.inl rfl
  | failed rv withHandle =>
    cases withHandle with
    | false => exact Or.inr (Or.inl rfl)
    | true =>
      by_cases hrv : rv = SQLITE_OK
      · exact Or.inl (if_pos hrv)
      · exact Or.inr (Or.inr (if_neg hrv))

theorem moveConstruct_handles (this other : Nat) (w : World S F) :
    (moveConstruct this other w).final.handles = w.handles ∧
      (moveConstruct this other w).final.held = Function.update w.held this (w.held other) := by
  refine ⟨rfl, ?_⟩
  change ((w.setConn this (w.conn other)).setCallbacks other none).held = _
  rw [held_setCallbacks, held_setConn, conn_handle]

theorem moveAssign_handles (this other : Nat) (w : World S F) :
    (moveAssign this other w).final.handles = w.handles ∧
      (moveAssign this other w).final.held = Function.update w.held this (w.held other) := by
  have hheld : (w.setHandle this (w.conn other).handle).held =
      Function.update w.held this (w.held other) := by
    rw [held_setHandle, conn_handle]
  by_cases hself : this = other
  · have hfinal : (moveAssign this other w).final = w.setHandle this (w.conn other).handle := by
      simp [moveAssign, hself]
    rw [hfinal]
    exact ⟨rfl, hheld⟩
  · let assigned := w.setHandle this (w.conn other).handle
    let taken := assigned.setCallbacks this (assigned.conn other).callbacks
    let moved := taken.setCallbacks other none
    have hfinal : (moveAssign this other w).final.handles = moved.handles ∧
        (moveAssign this other w).final.held = moved.held := by
      simp only [moveAssign, if_neg hself]
      exact ⟨rfl, rfl⟩
    refine ⟨hfinal.1, hfinal.2.trans ?_⟩
    rw [held_setCallbacks, held_setCallbacks]
    exact hheld

private theorem destroyMembers_handles (this : Nat) (w : World S F) :
    (destroyMembers this w).final.handles = w.handles ∧
      (destroyMembers this w).final.held = Function.update w.held this none := by
  refine ⟨rfl, ?_⟩
  funext d
  change (Function.update w.conns this none d).bind _ = _
  by_cases hd : d = this
  · subst hd
    simp
  · simp [World.held, hd]

theorem destroy_handles (this : Nat) (w : World S F) :
    (destroy this w).final.handles = w.handles.freeAll (w.held this).toList ∧
      (destroy this w).final.held = Function.update w.held this none := by
  rcases h : w.held this with _ | i
  · have hdestroy : (destroy this w).final = (destroyMembers this w).final := by
      simp [destroy, conn_handle, h]
    rw [hdestroy]
    exact destroyMembers_handles this w
  · have hclose := close_ends this w
    rw [h] at hclose
    let closed := { w with handles := w.handles.free i }.setHandle this none
    have hdestroy : Prog.Ends (destroy this) w (destroyMembers this closed).outcome
        (destroyMembers this closed).final := by
      apply (Prog.Ends.reading _ w).bind
      rw [conn_handle, h]
      exact hclose.bind ⟨rfl, rfl⟩
    obtain ⟨hhandles, hheld⟩ := destroyMembers_handles this closed
    rw [hdestroy.final]
    refine ⟨hhandles, hheld.trans ?_⟩
    rw [held_setHandle, Function.update_idem]
    rfl

end Connection

end Sqxx
