import Sqxx.Connection.Handlers
import Sqxx.Connection.Handles

/-!
# The connection a collation handler gets

`collation_data_t` keeps a reference to the connection object that the handler was set on.  The
handle and the table go to another object in a move, the reference does not.
-/

namespace Sqxx
open Framework

inductive CollationEvent (F : Type)
  | construct (this : Nat)
  | openDb (this : Nat) (answer : OpenAnswer)
  | set (this : Nat) (fn : Option F) (faults : Faults)
  | clear (this : Nat)
  | moveConstruct (this other : Nat)
  | moveAssign (this other : Nat)
  | destroy (this : Nat)
  deriving DecidableEq, Repr

/-- `owns` is the handle an object owns: the one it has opened or got by a move, as long as it was
not moved on to another one. A moved-from object keeps the pointer, but not the handle. -/
structure OwnerWorld (S F : Type) where
  world : World S F
  owns : Nat → Option Nat

variable {S F : Type}

/-- `sqxx_call_collation_handler`: the connection and the function it calls with it. -/
def sqxxCallCollationHandler (data : Nat) : Cxx (World S F) (Nat × F) := do
  match ← Prog.reading fun w => w.objects.cell data with
  | some (.collationData conn fn) => pure (conn, fn)
  | _ => Cxx.undefined

/-- The library needs a collation on the handle `h` and calls the hook, if there is one. -/
def collationNeeded [HookApi S] (h : Nat) : Cxx (World S F) (Option (Nat × F)) := do
  match ← Prog.reading fun w => HookApi.slot w.sqlite h .collation with
  | .user hook => do
    let called ← sqxxCallCollationHandler hook.data
    pure (some called)
  | .empty | .builtin => pure none

namespace CollationEvent

/-- The objects an event needs exist, and the one it makes does not. -/
def Applies (w : World S F) : CollationEvent F → Prop
  | .construct this => ¬ w.Exists this
  | .openDb this _ | .set this _ _ | .clear this | .destroy this => w.Exists this
  | .moveConstruct this other => ¬ w.Exists this ∧ w.Exists other
  | .moveAssign this other => w.Exists this ∧ w.Exists other

instance (w : World S F) : DecidablePred (Applies w)
  | .construct this => inferInstanceAs (Decidable (¬ w.Exists this))
  | .openDb this _ | .set this _ _ | .clear this | .destroy this =>
    inferInstanceAs (Decidable (w.Exists this))
  | .moveConstruct this other => inferInstanceAs (Decidable (¬ w.Exists this ∧ w.Exists other))
  | .moveAssign this other => inferInstanceAs (Decidable (w.Exists this ∧ w.Exists other))

variable [HookApi S]

def op : CollationEvent F → Cxx (World S F) Unit
  | .construct this => Connection.construct this
  | .openDb this answer => Connection.openDb this answer
  | .set this fn faults => Connection.setCollationHandler this fn faults
  | .clear this => Connection.clearCollationHandler this
  | .moveConstruct this other => Connection.moveConstruct this other
  | .moveAssign this other => Connection.moveAssign this other
  | .destroy this => Connection.destroy this

def owners (owns : Nat → Option Nat) (w : World S F) : CollationEvent F → Nat → Option Nat
  | .construct this | .openDb this _ | .destroy this => Function.update owns this (w.held this)
  | .moveConstruct this other | .moveAssign this other =>
    Function.update (Function.update owns other none) this (owns other)
  | .set _ _ _ | .clear _ => owns

def exec (s : OwnerWorld S F) (e : CollationEvent F) : OwnerWorld S F :=
  if e.Applies s.world then
    let w := (e.op s.world).final
    ⟨w, e.owners s.owns w⟩
  else s

end CollationEvent

namespace OwnerWorld

variable [HookApi S]

def start (sqlite : S) : OwnerWorld S F := ⟨World.noConnections sqlite, fun _ => none⟩

/-- Whenever a collation is needed on an open handle that has a hook, the user's function gets a
connection object that is there, has the handle and owns it. -/
def GetsOwner (s : OwnerWorld S F) : Prop :=
  ∀ h hook, s.world.handles.Live h → HookApi.slot s.world.sqlite h .collation = .user hook →
    ∃ conn fn, (collationNeeded h s.world).outcome = .ok (some (conn, fn)) ∧
      s.world.held conn = some h ∧ s.owns conn = some h

/-- The object owns an open handle that has a collation hook. -/
def HookedOwner (s : OwnerWorld S F) (this : Nat) : Prop :=
  ∃ h hook, s.owns this = some h ∧ s.world.handles.Live h ∧
    HookApi.slot s.world.sqlite h .collation = .user hook

/-- The owner of a handle with a hook is not opened again, and neither moved from nor assigned to; a
hook is set through the owner, with a table to keep its object. -/
def KeepsReference (s : OwnerWorld S F) (e : CollationEvent F) : Prop :=
  e.Applies s.world → match e with
    | .openDb this _ => ¬ s.HookedOwner this
    | .set this (some _) faults =>
      faults.object = none → ∀ h, s.world.held this = some h → s.world.handles.Live h →
        s.owns this = some h ∧ ¬ (faults.table = true ∧ (s.world.conn this).callbacks = none)
    | .moveConstruct _ other => ¬ s.HookedOwner other
    | .moveAssign this other => this ≠ other → ¬ s.HookedOwner this ∧ ¬ s.HookedOwner other
    | .construct _ | .set _ none _ | .clear _ | .destroy _ => True

end OwnerWorld

/-! ## The tables of all connections -/

section Tables

variable (w : World S F) (this other : Nat)

private theorem callback_setConn (c : Connection) :
    (w.setConn this c).callback =
      Function.update w.callback this fun kind => c.callbacks.bind (· kind) := by
  funext d
  by_cases hd : d = this
  · subst hd
    rw [Function.update_self]
    funext kind
    rw [World.callback, conn_setConn]
  · rw [Function.update_of_ne hd]
    funext kind
    simp [World.callback, World.conn, World.setConn, hd]

private theorem callback_setCallbacks (callbacks : Option CallbackTable) :
    (w.setCallbacks this callbacks).callback =
      Function.update w.callback this fun kind => callbacks.bind (· kind) :=
  callback_setConn w this _

private theorem callbacks_setHandle (handle : Option Nat) :
    ((w.setHandle this handle).conn this).callbacks = (w.conn this).callbacks := by
  simp [World.setHandle]

private theorem tables_setHandle (handle : Option Nat) :
    (w.setHandle this handle).callback = w.callback := by
  rw [World.setHandle, callback_setConn]
  exact Function.update_eq_self this w.callback

private theorem tables_afterSet (kind : HookKind) (register : Option Hook → Nat → S → S)
    (fn : Trampoline) (object : HandlerObject F) :
    (w.afterSet this kind register fn object).callback =
      Function.update w.callback this
        (Function.update (w.callback this) kind (some w.objects.next)) := by
  funext d
  by_cases hd : d = this
  · subst hd
    rw [Function.update_self]
    exact callback_afterSet w d kind register fn object
  · rw [Function.update_of_ne hd]
    let ready := (w.registered this register fn object).withTable this
    have hready : ready.callback d = w.callback d := by
      change World.callback (World.withTable _ this) d = _
      rw [World.withTable]
      split
      · rfl
      · rw [callback_setCallbacks, Function.update_of_ne hd]
        rfl
    change (ready.setCallback this kind (some w.objects.next)).callback d = _
    rw [World.setCallback, callback_setCallbacks, Function.update_of_ne hd]
    exact hready

private theorem tables_reset (kind : HookKind) :
    (w.reset this kind).callback =
      Function.update w.callback this (Function.update (w.callback this) kind none) := by
  funext d
  by_cases hd : d = this
  · subst hd
    rw [Function.update_self]
    exact callback_reset w d kind
  · rw [Function.update_of_ne hd, World.reset]
    split
    · change (w.setCallback this kind none).callback d = _
      rw [World.setCallback, callback_setCallbacks, Function.update_of_ne hd]
    · rfl

/-- The object that the table of each connection owns for collations. -/
def World.collationEntries (w : World S F) (c : Nat) : Option Nat := w.callback c .collation

private theorem entries_update (callback : Nat → HookKind → Option Nat) (this : Nat)
    (table : HookKind → Option Nat) :
    (fun c => Function.update callback this table c .collation) =
      Function.update (fun c => callback c .collation) this (table .collation) :=
  Function.comp_update (fun table : HookKind → Option Nat => table .collation) callback this table

private theorem collationEntries_update {v : World S F} {table : HookKind → Option Nat}
    (hv : v.callback = Function.update w.callback this table) :
    v.collationEntries = Function.update w.collationEntries this (table .collation) := by
  change (fun c => v.callback c .collation) = _
  rw [hv, entries_update]
  rfl

private theorem onlyCollations_update {callback : Nat → HookKind → Option Nat} {this : Nat}
    {table : HookKind → Option Nat}
    (honly : ∀ c kind, kind ≠ .collation → callback c kind = none)
    (htable : ∀ kind, kind ≠ .collation → table kind = none) :
    ∀ c kind, kind ≠ .collation → Function.update callback this table c kind = none := by
  rw [Function.forall_update_iff callback fun _ table => ∀ kind, kind ≠ .collation →
    table kind = none]
  exact ⟨htable, fun c _ => honly c⟩

/-- What the destructor of the connection's table deletes. -/
def World.tableObjects (w : World S F) (this : Nat) : List Nat :=
  ((w.conn this).callbacks.map Connection.CallbackTable.owned).getD []

private theorem tableObjects_of_only
    (honly : ∀ kind, kind ≠ .collation → w.callback this kind = none) :
    w.tableObjects this = (w.collationEntries this).toList := by
  rw [World.tableObjects]
  rcases hcallbacks : (w.conn this).callbacks with _ | table
  · simp [World.collationEntries, World.callback, hcallbacks]
  · have htable : ∀ kind, table kind = w.callback this kind := by
      intro kind
      simp [World.callback, hcallbacks]
    have hnone : ∀ kind, kind ≠ .collation → table kind = none := by
      intro kind hkind
      rw [htable, honly kind hkind]
    rw [Option.map_some, Option.getD_some, World.collationEntries, ← htable]
    rcases hentry : table .collation with _ | i
    · simp [Connection.CallbackTable.owned, hentry, hnone]
    · simp [Connection.CallbackTable.owned, hentry, hnone]

private theorem moveConstruct_callback (hne : this ≠ other) :
    (Connection.moveConstruct this other w).final.callback =
      Function.update (Function.update w.callback other fun _ => none) this (w.callback other) := by
  change ((w.setConn this (w.conn other)).setCallbacks other none).callback = _
  rw [callback_setCallbacks, callback_setConn, Function.update_comm hne]
  rfl

private theorem moveAssign_final (hne : this ≠ other) :
    let assigned := w.setHandle this (w.conn other).handle
    let taken := assigned.setCallbacks this (assigned.conn other).callbacks
    let moved := taken.setCallbacks other none
    (Connection.moveAssign this other w).final =
      { moved with objects := w.objects.freeAll (w.tableObjects this) } := by
  intro assigned taken moved
  rw [World.tableObjects, ← callbacks_setHandle w this (w.conn other).handle]
  simp only [Connection.moveAssign, if_neg hne]
  rfl

private theorem moveAssign_callback (hne : this ≠ other) :
    (Connection.moveAssign this other w).final.callback =
      Function.update (Function.update w.callback other fun _ => none) this (w.callback other) := by
  let assigned := w.setHandle this (w.conn other).handle
  have hassigned : assigned.callback = w.callback := tables_setHandle w this _
  have hother : (fun kind => (assigned.conn other).callbacks.bind (· kind)) = w.callback other := by
    rw [← hassigned]
    rfl
  rw [moveAssign_final w this other hne]
  change ((assigned.setCallbacks this (assigned.conn other).callbacks).setCallbacks other
    none).callback = _
  rw [callback_setCallbacks, callback_setCallbacks, hassigned, hother, Function.update_comm hne]
  rfl

private theorem destroyMembers_callback :
    (Connection.destroyMembers this w).final.callback =
      Function.update w.callback this fun _ => none := by
  funext d
  by_cases hd : d = this
  · subst hd
    funext kind
    simp [World.callback, World.conn, Connection.destroyMembers, Connection.destroyCallbacks]
  · rw [Function.update_of_ne hd]
    funext kind
    simp [World.callback, World.conn, Connection.destroyMembers, Connection.destroyCallbacks, hd]

private theorem destroy_table :
    (Connection.destroy this w).final.callback =
        (Function.update w.callback this fun _ => none) ∧
      (Connection.destroy this w).final.objects = w.objects.freeAll (w.tableObjects this) ∧
      (Connection.destroy this w).final.sqlite = w.sqlite := by
  rcases h : w.held this with _ | i
  · have hdestroy : (Connection.destroy this w).final =
        (Connection.destroyMembers this w).final := by
      simp [Connection.destroy, conn_handle, h]
    rw [hdestroy]
    exact ⟨destroyMembers_callback w this, rfl, rfl⟩
  · have hclose := Connection.close_ends this w
    rw [h] at hclose
    let closed := { w with handles := w.handles.free i }.setHandle this none
    have hdestroy : Prog.Ends (Connection.destroy this) w
        (Connection.destroyMembers this closed).outcome
        (Connection.destroyMembers this closed).final := by
      apply (Prog.Ends.reading _ w).bind
      rw [conn_handle, h]
      exact hclose.bind ⟨rfl, rfl⟩
    have htable : closed.tableObjects this = w.tableObjects this := by
      rw [World.tableObjects, callbacks_setHandle]
      rfl
    rw [hdestroy.final, ← htable]
    refine ⟨?_, rfl, rfl⟩
    rw [destroyMembers_callback, tables_setHandle]
    rfl

end Tables

/-! ## What the operations do -/

/-- An attempt to open, and a construction: `handle` is what the object has afterwards. -/
structure OpenAttempt (w w' : World S F) (this : Nat) (handle : Option Nat) : Prop where
  sqlite : w'.sqlite = w.sqlite
  objects : w'.objects = w.objects
  callback : w'.callback = w.callback
  held : w'.held = Function.update w.held this handle
  grows : w.handles.next ≤ w'.handles.next
  new : ∀ h, handle = some h → h = w.handles.next ∧ h < w'.handles.next
  live : ∀ h, h ≠ w.handles.next → (w'.handles.Live h ↔ w.handles.Live h)

private theorem construct_attempt {w : World S F} {this : Nat} (hnew : ¬ w.Exists this) :
    OpenAttempt w (Connection.construct this w).final this none := by
  have hconn : w.conns this = none := Option.not_isSome_iff_eq_none.mp hnew
  have hnone : w.callback this = fun _ => none := by
    funext kind
    simp [World.callback, World.conn, hconn]
  refine ⟨rfl, rfl, ?_, held_setConn w this _, Nat.le_refl _, by simp, fun h _ => Iff.rfl⟩
  change (w.setConn this ⟨none, none⟩).callback = w.callback
  rw [callback_setConn]
  change Function.update w.callback this (fun _ => none) = _
  rw [← hnone, Function.update_eq_self]

private theorem openDb_attempt (w : World S F) (this : Nat) (answer : OpenAnswer) :
    ∃ handle, OpenAttempt w (Connection.openDb this answer w).final this handle := by
  rcases Connection.openDb_cases this answer w with hstored | hnull | hclosed
  · rw [hstored]
    refine ⟨some w.handles.next, rfl, rfl, tables_setHandle _ this _, held_setHandle _ this _,
      Nat.le_succ _, ?_, ?_⟩
    · intro h hh
      obtain rfl := Option.some.inj hh
      exact ⟨rfl, Nat.lt_succ_self _⟩
    · intro h hne
      exact (Heap.live_alloc _ _ h).trans (or_iff_right hne)
  · rw [hnull]
    exact ⟨none, rfl, rfl, tables_setHandle w this none, held_setHandle w this none,
      Nat.le_refl _, by simp, fun h _ => Iff.rfl⟩
  · rw [hclosed]
    refine ⟨none, rfl, rfl, tables_setHandle _ this none, held_setHandle _ this none,
      Nat.le_succ _, by simp, ?_⟩
    intro h hne
    refine (Heap.live_free _ _ h).trans ?_
    rw [Heap.live_alloc]
    simp [hne]

/-- Between two different objects both moves do this; a new one has no table yet. -/
structure Moves (w w' : World S F) (this other : Nat) : Prop where
  sqlite : w'.sqlite = w.sqlite
  handles : w'.handles = w.handles
  held : w'.held = Function.update w.held this (w.held other)
  callback : w'.callback =
    Function.update (Function.update w.callback other fun _ => none) this (w.callback other)
  objects : w'.objects = w.objects.freeAll (w.collationEntries this).toList

private theorem moveConstruct_moves {w : World S F} {this other : Nat} (hthis : ¬ w.Exists this)
    (hne : this ≠ other) : Moves w (Connection.moveConstruct this other w).final this other := by
  obtain ⟨hhandles, hheld⟩ := Connection.moveConstruct_handles this other w
  have hnone : w.collationEntries this = none := by
    have hconn : w.conns this = none := Option.not_isSome_iff_eq_none.mp hthis
    simp [World.collationEntries, World.callback, World.conn, hconn]
  refine ⟨rfl, hhandles, hheld, moveConstruct_callback w this other hne, ?_⟩
  rw [hnone]
  rfl

private theorem moveAssign_moves {w : World S F} {this other : Nat} (hne : this ≠ other)
    (honly : ∀ kind, kind ≠ .collation → w.callback this kind = none) :
    Moves w (Connection.moveAssign this other w).final this other := by
  obtain ⟨hhandles, hheld⟩ := Connection.moveAssign_handles this other w
  have hfinal := moveAssign_final w this other hne
  refine ⟨?_, hhandles, hheld, moveAssign_callback w this other hne, ?_⟩
  · rw [hfinal]
    rfl
  · rw [hfinal, ← tableObjects_of_only w this honly]

private theorem moveAssign_self {w : World S F} {this : Nat} (hthis : w.Exists this) :
    (Connection.moveAssign this this w).final = w := by
  obtain ⟨c, hc⟩ := Option.isSome_iff_exists.mp hthis
  have hsame : Function.update w.conns this (some (w.conn this)) = w.conns := by
    rw [World.conn, hc, Option.getD_some, ← hc, Function.update_eq_self]
  have hfinal : (Connection.moveAssign this this w).final =
      w.setHandle this (w.conn this).handle := by
    simp [Connection.moveAssign]
  rw [hfinal]
  change { w with conns := Function.update w.conns this (some (w.conn this)) } = w
  rw [hsame]

section Slots

variable [HookApi S]

private theorem collationSlot_called {shared : Bool} (laws : HookLaws shared S) (w : World S F)
    (this : Nat) (hook : Option Hook) (h : Nat) :
    HookApi.slot (w.called this (HookApi.collationNeeded hook)).sqlite h .collation =
      if w.held this = some h then Slot.ofHook hook else HookApi.slot w.sqlite h .collation := by
  rcases hheld : w.held this with _ | h₀
  · have hsame : (w.called this (HookApi.collationNeeded hook)).sqlite = w.sqlite := by
      rw [← conn_handle] at hheld
      simp [World.called, hheld]
    rw [hsame, if_neg (by simp)]
  · have hbecomes := laws.collationNeeded hook h₀ w.sqlite
    rw [sqlite_called hheld]
    by_cases hh : h₀ = h
    · subst hh
      rw [if_pos rfl]
      exact hbecomes.here
    · rw [if_neg (fun heq => hh (Option.some.inj heq))]
      exact hbecomes.elsewhere h .collation fun heq => hh heq.1.symm

private theorem collationNeeded_outcome {w : World S F} {h : Nat} {hook : Hook}
    (hslot : HookApi.slot w.sqlite h .collation = .user hook) :
    (collationNeeded h w).outcome =
      match w.objects.cell hook.data with
      | some (.collationData conn fn) => .ok (some (conn, fn))
      | _ => .error .undefined := by
  simp only [collationNeeded, sqxxCallCollationHandler, Prog.bind_run, Prog.reading_run,
    Exec.andThen_ok, Exec.prepend_nil, hslot]
  rcases w.objects.cell hook.data with _ | object
  · rfl
  · cases object <;> rfl

end Slots

/-! ## The reference and the owner -/

namespace OwnerWorld

variable [HookApi S] {shared : Bool} {s s' : OwnerWorld S F}

/-- The object `i` refers to the owner of `h`, whose table has it. -/
def RefersToOwner (s : OwnerWorld S F) (h i : Nat) : Prop :=
  ∃ c fn, s.world.objects.cell i = some (.collationData c fn) ∧ s.owns c = some h ∧
    s.world.collationEntries c = some i

/-- The invariant. The hook of an open handle has the object in the table of the handle's owner; an
owner has the handle and is the only one; handles not opened yet have no hooks. -/
structure Linked (s : OwnerWorld S F) : Prop where
  objects : s.world.objects.Held s.world.collationEntries
  only : ∀ c kind, kind ≠ .collation → s.world.callback c kind = none
  hooks : ∀ h hook, s.world.handles.Live h →
    HookApi.slot s.world.sqlite h .collation = .user hook → s.RefersToOwner h hook.data
  holds : ∀ c h, s.owns c = some h → s.world.held c = some h
  inj : ∀ c d h, s.owns c = some h → s.owns d = some h → c = d
  known : ∀ c h, s.world.held c = some h → h < s.world.handles.next
  fresh : ∀ h, s.world.handles.next ≤ h → HookApi.slot s.world.sqlite h .collation = .empty

private theorem linked_start {sqlite : S}
    (hempty : ∀ h, HookApi.slot sqlite h .collation = .empty) :
    (start sqlite : OwnerWorld S F).Linked := by
  constructor
  · apply Heap.Held.init
    intro c
    rfl
  · intro c kind _
    rfl
  · intro h hook hlive
    cases hlive
  · intro c h hc
    cases hc
  · intro c d h hc
    cases hc
  · intro c h hc
    cases hc
  · intro h _
    exact hempty h

private theorem Linked.getsOwner (hs : s.Linked) : s.GetsOwner := by
  intro h hook hlive hslot
  obtain ⟨c, fn, hcell, howns, -⟩ := hs.hooks h hook hlive hslot
  refine ⟨c, fn, ?_, hs.holds c h howns, howns⟩
  rw [collationNeeded_outcome hslot, hcell]

theorem GetsOwner.cell (hs : s.GetsOwner) {h : Nat} {hook : Hook} (hlive : s.world.handles.Live h)
    (hslot : HookApi.slot s.world.sqlite h .collation = .user hook) :
    ∃ c fn, s.world.objects.cell hook.data = some (.collationData c fn) ∧ s.owns c = some h := by
  obtain ⟨c, fn, hout, -, howns⟩ := hs h hook hlive hslot
  rw [collationNeeded_outcome hslot] at hout
  rcases hcell : s.world.objects.cell hook.data with _ | object
  · rw [hcell] at hout
    cases hout
  · rw [hcell] at hout
    cases object with
    | function f => cases hout
    | collationData c' fn' =>
      cases hout
      exact ⟨c, fn, rfl, howns⟩

omit [HookApi S] in
/-- A link stays, if the owner and its entry stay and the object is not touched. -/
theorem RefersToOwner.carry {h i : Nat} (hi : s.RefersToOwner h i)
    (howner : ∀ c, s.owns c = some h →
      s'.owns c = some h ∧ s'.world.collationEntries c = s.world.collationEntries c)
    (hcell : ∀ c, s.owns c = some h → s.world.collationEntries c = some i →
      s'.world.objects.cell i = s.world.objects.cell i) : s'.RefersToOwner h i := by
  obtain ⟨c, fn, hobject, howns, hentry⟩ := hi
  obtain ⟨howns', hentry'⟩ := howner c howns
  refine ⟨c, fn, ?_, howns', hentry'.trans hentry⟩
  rw [hcell c howns hentry, hobject]

private theorem Linked.cell_freeAll (hs : s.Linked) {c this i : Nat} (hne : c ≠ this)
    (hi : s.world.collationEntries c = some i) :
    (s.world.objects.freeAll (s.world.collationEntries this).toList).cell i =
      s.world.objects.cell i := by
  apply Heap.freeAll_cell_of_notMem
  intro hmem
  exact hne (hs.objects.inj c this i hi (Option.mem_toList.mp hmem))

private theorem Linked.owner_ne (hs : s.Linked) {c this h : Nat} (howns : s.owns c = some h)
    (hthis : s.world.held this ≠ some h) : c ≠ this := by
  intro heq
  subst heq
  exact hthis (hs.holds c h howns)

private theorem Linked.known_update (hs : s.Linked) {w : World S F} {this : Nat}
    {handle : Option Nat} (hheld : w.held = Function.update s.world.held this handle)
    (hnew : ∀ h, handle = some h → h < w.handles.next)
    (hgrows : s.world.handles.next ≤ w.handles.next) :
    ∀ c h, w.held c = some h → h < w.handles.next := by
  intro c h hc
  rw [hheld] at hc
  rcases Heap.of_update hc with ⟨-, hc⟩ | ⟨-, hc⟩
  · exact hnew h hc
  · exact Nat.lt_of_lt_of_le (hs.known c h hc) hgrows

private theorem Linked.fresh_grows (hs : s.Linked) {w : World S F}
    (hsqlite : w.sqlite = s.world.sqlite) (hgrows : s.world.handles.next ≤ w.handles.next) :
    ∀ h, w.handles.next ≤ h → HookApi.slot w.sqlite h .collation = .empty := by
  intro h hh
  rw [hsqlite]
  exact hs.fresh h (Nat.le_trans hgrows hh)

private theorem linked_open (hs : s.Linked) {w : World S F} {this : Nat} {handle : Option Nat}
    (hw : OpenAttempt s.world w this handle) (hok : ¬ s.HookedOwner this) :
    Linked ⟨w, Function.update s.owns this (w.held this)⟩ := by
  have hthis : w.held this = handle := by
    rw [hw.held, Function.update_self]
  have hentries : w.collationEntries = s.world.collationEntries := by
    funext c
    rw [World.collationEntries, hw.callback]
    rfl
  refine ⟨?_, ?_, ?_, ?_, ?_, ?_, ?_⟩
  · rw [hw.objects, hentries]
    exact hs.objects
  · rw [hw.callback]
    exact hs.only
  · intro h hook hlive hslot
    rw [hw.sqlite] at hslot
    have hne : h ≠ s.world.handles.next := by
      intro heq
      rw [hs.fresh h (Nat.le_of_eq heq.symm)] at hslot
      cases hslot
    have hbefore := (hw.live h hne).mp hlive
    apply (hs.hooks h hook hbefore hslot).carry
    · intro c hc
      have hcthis : c ≠ this := by
        rintro rfl
        exact hok ⟨h, hook, hc, hbefore, hslot⟩
      exact ⟨(Function.update_of_ne hcthis _ _).trans hc, congrFun hentries c⟩
    · intro c _ _
      rw [hw.objects]
  · intro c h hc
    rcases Heap.of_update hc with ⟨rfl, hc⟩ | ⟨hcthis, hc⟩
    · exact hc
    · change w.held c = some h
      rw [hw.held, Function.update_of_ne hcthis]
      exact hs.holds c h hc
  · apply Heap.Apart.take hs.inj
    intro d h hd hh
    have hnext := (hw.new h (hthis.symm.trans hh)).1
    have hknown := hs.known d h (hs.holds d h hd)
    omega
  · exact hs.known_update hw.held (fun h hh => (hw.new h hh).2) hw.grows
  · exact hs.fresh_grows hw.sqlite hw.grows

private theorem linked_moves (hs : s.Linked) {w : World S F} {this other : Nat}
    (hw : Moves s.world w this other) (hne : this ≠ other) (hthis : ¬ s.HookedOwner this)
    (hother : ¬ s.HookedOwner other) :
    Linked ⟨w, Function.update (Function.update s.owns other none) this (s.owns other)⟩ := by
  have hentries : w.collationEntries =
      Function.update (Function.update s.world.collationEntries other none) this
        (s.world.collationEntries other) := by
    change (fun c => w.callback c .collation) = _
    rw [hw.callback, entries_update, entries_update]
    rfl
  have hgrows : s.world.handles.next ≤ w.handles.next :=
    Nat.le_of_eq (congrArg Heap.next hw.handles.symm)
  refine ⟨?_, ?_, ?_, ?_, ?_, ?_, ?_⟩
  · have hmoved := (hs.objects.release this).move this other
    rw [Function.update_of_ne (Ne.symm hne), Function.update_comm hne, Function.update_idem]
      at hmoved
    rw [hw.objects, hentries]
    exact hmoved
  · change ∀ c kind, kind ≠ .collation → w.callback c kind = none
    rw [hw.callback]
    exact onlyCollations_update (onlyCollations_update hs.only fun _ _ => rfl) (hs.only other)
  · intro h hook hlive hslot
    rw [hw.handles] at hlive
    rw [hw.sqlite] at hslot
    have howner : ∀ c, s.owns c = some h → c ≠ this ∧ c ≠ other := by
      intro c hc
      constructor
      · intro heq
        subst heq
        exact hthis ⟨h, hook, hc, hlive, hslot⟩
      · intro heq
        subst heq
        exact hother ⟨h, hook, hc, hlive, hslot⟩
    apply (hs.hooks h hook hlive hslot).carry
    · intro c hc
      obtain ⟨hcthis, hcother⟩ := howner c hc
      constructor
      · change Function.update (Function.update s.owns other none) this (s.owns other) c = some h
        rw [Function.update_of_ne hcthis, Function.update_of_ne hcother, hc]
      · rw [hentries, Function.update_of_ne hcthis, Function.update_of_ne hcother]
    · intro c hc hentry
      rw [hw.objects]
      exact hs.cell_freeAll (howner c hc).1 hentry
  · intro c h hc
    change w.held c = some h
    rw [hw.held]
    rcases Heap.of_move hc with ⟨hcthis, howned⟩ | ⟨hcthis, -, howned⟩
    · rw [hcthis, Function.update_self]
      exact hs.holds other h howned
    · rw [Function.update_of_ne hcthis]
      exact hs.holds c h howned
  · exact Heap.Apart.move hs.inj this other
  · apply hs.known_update hw.held _ hgrows
    rw [hw.handles]
    exact hs.known other
  · exact hs.fresh_grows hw.sqlite hgrows

/-- A call that sets the hook of the handle of `this` to `slot`, and its entry to `entry`. -/
structure HookCall (w w' : World S F) (this : Nat) (slot : Slot) (entry : Option Nat) : Prop where
  same : SameHandles w w'
  slots : ∀ h, HookApi.slot w'.sqlite h .collation =
    if w.held this = some h then slot else HookApi.slot w.sqlite h .collation
  callback : w'.callback =
    Function.update w.callback this (Function.update (w.callback this) .collation entry)
  held : w'.objects.Held (Function.update w.collationEntries this entry)
  kept : ∀ c i, c ≠ this → w.collationEntries c = some i → w'.objects.cell i = w.objects.cell i

theorem HookCall.entries {w w' : World S F} {this : Nat} {slot : Slot} {entry : Option Nat}
    (h : HookCall w w' this slot entry) :
    w'.collationEntries = Function.update w.collationEntries this entry := by
  have hentries := collationEntries_update w this h.callback
  rwa [Function.update_self] at hentries

private theorem linked_hookCall (hs : s.Linked) {w : World S F} {this : Nat} {slot : Slot}
    {entry : Option Nat} (hw : HookCall s.world w this slot entry)
    (hnew : ∀ h hook, s.world.held this = some h → s.world.handles.Live h → slot = .user hook →
      RefersToOwner ⟨w, s.owns⟩ h hook.data) : Linked ⟨w, s.owns⟩ := by
  refine ⟨?_, ?_, ?_, ?_, hs.inj, ?_, ?_⟩
  · have hheld := hw.held
    rw [← hw.entries] at hheld
    exact hheld
  · change ∀ c kind, kind ≠ .collation → w.callback c kind = none
    rw [hw.callback]
    apply onlyCollations_update hs.only
    intro kind hkind
    rw [Function.update_of_ne hkind]
    exact hs.only this kind hkind
  · intro h hook hlive huser
    rw [hw.same.handles] at hlive
    rw [hw.slots] at huser
    by_cases hheld : s.world.held this = some h
    · rw [if_pos hheld] at huser
      exact hnew h hook hheld hlive huser
    · rw [if_neg hheld] at huser
      apply (hs.hooks h hook hlive huser).carry
      · intro c hc
        have hentries := congrFun hw.entries c
        rw [Function.update_of_ne (hs.owner_ne hc hheld)] at hentries
        exact ⟨hc, hentries⟩
      · intro c hc hentry
        exact hw.kept c hook.data (hs.owner_ne hc hheld) hentry
  · intro c h hc
    change w.held c = some h
    rw [hw.same.held]
    exact hs.holds c h hc
  · intro c h hc
    change w.held c = some h at hc
    rw [hw.same.held] at hc
    rw [hw.same.handles]
    exact hs.known c h hc
  · intro h hh
    rw [hw.same.handles] at hh
    rw [hw.slots, if_neg]
    · exact hs.fresh h hh
    · intro hheld
      have hknown := hs.known this h hheld
      omega

section Calls

variable (laws : HookLaws shared S) (hs : s.Linked) (this : Nat) (f : F)

include laws hs

private theorem hookCall_set :
    HookCall s.world (s.world.afterSet this .collation HookApi.collationNeeded
        .sqxxCallCollationHandler (.collationData this f)) this
      (.user ⟨.sqxxCallCollationHandler, s.world.objects.next⟩) (some s.world.objects.next) := by
  have hobjects := objects_afterSet s.world this .collation HookApi.collationNeeded
    .sqxxCallCollationHandler (.collationData this f)
  refine ⟨sameHandles_afterSet s.world this _ _ _ _, ?_, tables_afterSet s.world this _ _ _ _,
    ?_, ?_⟩
  · intro h
    rw [sqlite_afterSet]
    exact collationSlot_called laws s.world this _ h
  · rw [hobjects]
    exact hs.objects.replace this _
  · intro c i hne hi
    rw [hobjects, Heap.freeAll_cell_of_notMem, Heap.alloc_cell_of_ne]
    · exact hs.objects.ne_next hi
    · intro hmem
      exact hne (hs.objects.inj c this i hi (Option.mem_toList.mp hmem))

private theorem hookCall_no_table (hnone : (s.world.conn this).callbacks = none) :
    HookCall s.world { s.world.registered this HookApi.collationNeeded .sqxxCallCollationHandler
          (.collationData this f) with
        objects := (s.world.objects.alloc (.collationData this f)).free s.world.objects.next }
      this (.user ⟨.sqxxCallCollationHandler, s.world.objects.next⟩) none := by
  have hentry : s.world.callback this .collation = none := by
    simp [World.callback, hnone]
  refine ⟨⟨rfl, rfl, rfl⟩, ?_, ?_, ?_, ?_⟩
  · intro h
    exact collationSlot_called laws s.world this _ h
  · rw [← hentry, Function.update_eq_self, Function.update_eq_self]
    rfl
  · have hsame : Function.update s.world.collationEntries this none = s.world.collationEntries := by
      rw [← hentry]
      exact Function.update_eq_self this s.world.collationEntries
    rw [hsame]
    exact hs.objects.discard _
  · intro c i _ hi
    have hne := hs.objects.ne_next hi
    exact (Heap.free_cell_of_ne _ hne).trans (Heap.alloc_cell_of_ne _ _ hne)

private theorem hookCall_clear :
    HookCall s.world ((s.world.called this (HookApi.collationNeeded none)).reset this .collation)
      this .empty none := by
  let called := s.world.called this (HookApi.collationNeeded none)
  have hobjects := objects_reset called this .collation
  have hsame : SameHandles s.world called := ⟨rfl, rfl, rfl⟩
  refine ⟨hsame.trans (sameHandles_reset called this .collation), ?_,
    tables_reset called this .collation, ?_, ?_⟩
  · intro h
    rw [sqlite_reset]
    exact collationSlot_called laws s.world this none h
  · rw [hobjects]
    exact hs.objects.release this
  · intro c i hne hi
    rw [hobjects]
    exact hs.cell_freeAll hne hi

end Calls

private theorem linked_destroy (hs : s.Linked) (this : Nat) :
    Linked ⟨(Connection.destroy this s.world).final,
      Function.update s.owns this ((Connection.destroy this s.world).final.held this)⟩ := by
  let w := (Connection.destroy this s.world).final
  obtain ⟨hcallback, hobjects, hsqlite⟩ := destroy_table s.world this
  obtain ⟨hhandles, hheld⟩ := Connection.destroy_handles this s.world
  have hentries : w.collationEntries = Function.update s.world.collationEntries this none :=
    collationEntries_update s.world this hcallback
  rw [tableObjects_of_only s.world this (hs.only this)] at hobjects
  have hnext : w.handles.next = s.world.handles.next := by
    change (Connection.destroy this s.world).final.handles.next = _
    rw [hhandles, Heap.freeAll_next]
  have hthis : w.held this = none := (congrFun hheld this).trans (Function.update_self _ _ _)
  change Linked ⟨w, Function.update s.owns this (w.held this)⟩
  rw [hthis]
  refine ⟨?_, ?_, ?_, ?_, ?_, ?_, ?_⟩
  · rw [hobjects, hentries]
    exact hs.objects.release this
  · rw [hcallback]
    exact onlyCollations_update hs.only fun _ _ => rfl
  · intro h hook hlive huser
    rw [hhandles] at hlive
    rw [hsqlite] at huser
    obtain ⟨hopen, hbefore⟩ := (Heap.live_freeAll _ _ h).mp hlive
    have hother : s.world.held this ≠ some h := fun hh => hopen (Option.mem_toList.mpr hh)
    apply (hs.hooks h hook hbefore huser).carry
    · intro c hc
      have hne := hs.owner_ne hc hother
      constructor
      · exact (Function.update_of_ne hne _ _).trans hc
      · change w.collationEntries c = _
        rw [hentries, Function.update_of_ne hne]
    · intro c hc hentry
      rw [hobjects]
      exact hs.cell_freeAll (hs.owner_ne hc hother) hentry
  · intro c h hc
    obtain ⟨hne, hc⟩ := Heap.of_update_none hc
    rw [hheld, Function.update_of_ne hne]
    exact hs.holds c h hc
  · exact Heap.Apart.forget hs.inj this
  · apply hs.known_update hheld _ (Nat.le_of_eq hnext.symm)
    intro h hnone
    cases hnone
  · exact hs.fresh_grows hsqlite (Nat.le_of_eq hnext.symm)

private theorem Linked.not_hooked (hs : s.Linked) {this : Nat} (hnew : ¬ s.world.Exists this) :
    ¬ s.HookedOwner this := by
  rintro ⟨h, hook, howns, -⟩
  have hheld := hs.holds this h howns
  have hconn : s.world.conns this = none := Option.not_isSome_iff_eq_none.mp hnew
  rw [World.held, hconn] at hheld
  cases hheld

private theorem linked_clear (laws : HookLaws shared S) (hs : s.Linked) (this : Nat) :
    Linked ⟨(Connection.clearCollationHandler this s.world).final, s.owns⟩ := by
  have hclear : Prog.Through (fun _ => True) (Connection.clearCollationHandler this) s.world
      (.ok ()) ((s.world.called this (HookApi.collationNeeded none)).reset this .collation) :=
    Connection.clearHandler_through trivial (fun _ => trivial) trivial
  rw [hclear.final]
  apply linked_hookCall hs (hookCall_clear laws hs this)
  intro h hook _ _ hslot
  cases hslot

/-- What setting a handler ends with: nothing, the new object registered and deleted, or the new
object registered and stored. -/
theorem setCollationHandler_cases (w : World S F) (this : Nat) (f : F) (faults : Faults) :
    let w' := (Connection.setCollationHandler this (some f) faults w).final
    let object : HandlerObject F := .collationData this f
    (faults.object ≠ none ∧ w' = w) ∨
      (faults.object = none ∧ (faults.table = true ∧ (w.conn this).callbacks = none) ∧
        w' = { w.registered this HookApi.collationNeeded .sqxxCallCollationHandler object with
          objects := (w.objects.alloc object).free w.objects.next }) ∨
      (faults.object = none ∧ ¬ (faults.table = true ∧ (w.conn this).callbacks = none) ∧
        w' = w.afterSet this .collation HookApi.collationNeeded .sqxxCallCollationHandler
          object) := by
  intro w' object
  cases hobject : faults.object with
  | some e => exact Or.inl ⟨by simp, (Connection.setHandler_no_object hobject).final⟩
  | none =>
    by_cases htable : faults.table = true ∧ (w.conn this).callbacks = none
    · refine Or.inr (Or.inl ⟨rfl, htable, ?_⟩)
      exact (Connection.setHandler_no_table hobject htable.1 htable.2).final
    · refine Or.inr (Or.inr ⟨rfl, htable, ?_⟩)
      have hready : (w.conn this).callbacks.isSome ∨ faults.table = false := by
        rcases hcallbacks : (w.conn this).callbacks with _ | table
        · exact Or.inr (eq_false_of_ne_true fun h => htable ⟨h, hcallbacks⟩)
        · exact Or.inl rfl
      have hset : Prog.Through (fun _ => True)
          (Connection.setCollationHandler this (some f) faults) w (.ok ()) _ :=
        Connection.setHandler_through hobject hready trivial trivial trivial trivial trivial
      exact hset.final

private theorem cell_afterSet (hs : s.Linked) (this : Nat) (f : F) :
    (s.world.afterSet this .collation HookApi.collationNeeded .sqxxCallCollationHandler
      (.collationData this f)).objects.cell s.world.objects.next =
        some (.collationData this f) := by
  rw [objects_afterSet, Heap.freeAll_cell_of_notMem, Heap.alloc_cell_self]
  intro hmem
  exact hs.objects.ne_next (k := this) (Option.mem_toList.mp hmem) rfl

private theorem linked_set (laws : HookLaws shared S) (hs : s.Linked) (this : Nat) (f : F)
    (faults : Faults)
    (hok : faults.object = none → ∀ h, s.world.held this = some h → s.world.handles.Live h →
      s.owns this = some h ∧ ¬ (faults.table = true ∧ (s.world.conn this).callbacks = none)) :
    Linked ⟨(Connection.setCollationHandler this (some f) faults s.world).final, s.owns⟩ := by
  rcases setCollationHandler_cases s.world this f faults with
    ⟨-, hw⟩ | ⟨hobject, htable, hw⟩ | ⟨hobject, htable, hw⟩
  · rw [hw]
    exact hs
  · rw [hw]
    apply linked_hookCall hs (hookCall_no_table laws hs this f htable.2)
    intro h hook hheld hlive _
    exact ((hok hobject h hheld hlive).2 htable).elim
  · rw [hw]
    have hcall := hookCall_set laws hs this f
    apply linked_hookCall hs hcall
    intro h hook hheld hlive hslot
    cases hslot
    refine ⟨this, f, cell_afterSet hs this f, (hok hobject h hheld hlive).1, ?_⟩
    exact (congrFun hcall.entries this).trans (Function.update_self _ _ _)

private theorem exec_linked (laws : HookLaws shared S) (s : OwnerWorld S F) (e : CollationEvent F)
    (hs : s.Linked) (hok : s.KeepsReference e) : (e.exec s).Linked := by
  rw [CollationEvent.exec]
  by_cases happ : e.Applies s.world
  · rw [if_pos happ]
    have hok := hok happ
    cases e with
    | construct this => exact linked_open hs (construct_attempt happ) (hs.not_hooked happ)
    | openDb this answer =>
      obtain ⟨handle, hopen⟩ := openDb_attempt s.world this answer
      exact linked_open hs hopen hok
    | set this fn faults =>
      cases fn with
      | none => exact linked_clear laws hs this
      | some f => exact linked_set laws hs this f faults hok
    | clear this => exact linked_clear laws hs this
    | moveConstruct this other =>
      have hne : this ≠ other := by
        rintro rfl
        exact happ.1 happ.2
      exact linked_moves hs (moveConstruct_moves happ.1 hne) hne (hs.not_hooked happ.1) hok
    | moveAssign this other =>
      by_cases hself : this = other
      · subst hself
        have howns : Function.update (Function.update s.owns this none) this (s.owns this) =
            s.owns := by
          rw [Function.update_idem, Function.update_eq_self]
        change Linked ⟨(Connection.moveAssign this this s.world).final,
          Function.update (Function.update s.owns this none) this (s.owns this)⟩
        rw [moveAssign_self happ.1, howns]
        exact hs
      · obtain ⟨hthis, hother⟩ := hok hself
        exact linked_moves hs (moveAssign_moves hself (hs.only this)) hself hthis hother
    | destroy this => exact linked_destroy hs this
  · rw [if_neg happ]
    exact hs

private theorem Linked.owner_eq (hs : s.Linked) {h c c' : Nat} {hook : Hook} {fn : F}
    (hlive : s.world.handles.Live h)
    (hslot : HookApi.slot s.world.sqlite h .collation = .user hook)
    (hcell : s.world.objects.cell hook.data = some (.collationData c fn))
    (howns : s.owns c' = some h) : c = c' ∧ s.world.collationEntries c' = some hook.data := by
  obtain ⟨d, fn', hcell', hd, hentry⟩ := hs.hooks h hook hlive hslot
  rw [hcell] at hcell'
  cases hcell'
  have heq := hs.inj c c' h hd howns
  exact ⟨heq, heq ▸ hentry⟩

private theorem open_not_owner (hs : s.Linked) {w : World S F} {this : Nat} {handle : Option Nat}
    (hw : OpenAttempt s.world w this handle) (hhooked : s.HookedOwner this) :
    ¬ GetsOwner ⟨w, Function.update s.owns this (w.held this)⟩ := by
  obtain ⟨h, hook, howns, hlive, hslot⟩ := hhooked
  have hknown := hs.known this h (hs.holds this h howns)
  have hlive' : w.handles.Live h := (hw.live h (Nat.ne_of_lt hknown)).mpr hlive
  have hslot' : HookApi.slot w.sqlite h .collation = .user hook := by
    rw [hw.sqlite, hslot]
  intro hafter
  obtain ⟨c, fn, hcell, hc⟩ := hafter.cell hlive' hslot'
  rw [hw.objects] at hcell
  obtain ⟨hcthis, -⟩ := hs.owner_eq hlive hslot hcell howns
  have hc : Function.update s.owns this (w.held this) c = some h := hc
  rw [hcthis, Function.update_self, hw.held, Function.update_self] at hc
  have hnew := (hw.new h hc).1
  omega

private theorem moves_not_owner (hs : s.Linked) {w : World S F} {this other : Nat}
    (hw : Moves s.world w this other) (hne : this ≠ other)
    (hhooked : s.HookedOwner this ∨ s.HookedOwner other) :
    ¬ GetsOwner ⟨w, Function.update (Function.update s.owns other none) this (s.owns other)⟩ := by
  intro hafter
  -- the hook of the handle is still there, and the user's function gets a connection
  have hgets : ∀ h hook, s.world.handles.Live h →
      HookApi.slot s.world.sqlite h .collation = .user hook →
      ∃ c fn, w.objects.cell hook.data = some (.collationData c fn) ∧
        Function.update (Function.update s.owns other none) this (s.owns other) c = some h := by
    intro h hook hlive hslot
    rw [← hw.handles] at hlive
    rw [← hw.sqlite] at hslot
    exact hafter.cell hlive hslot
  rcases hhooked with ⟨h, hook, howns, hlive, hslot⟩ | ⟨h, hook, howns, hlive, hslot⟩
  · obtain ⟨c, fn, hcell, -⟩ := hgets h hook hlive hslot
    -- the table of the target has deleted the object
    obtain ⟨d, fn', hcell', hd, hentry⟩ := hs.hooks h hook hlive hslot
    rw [hs.inj d this h hd howns] at hentry
    have hobject : w.objects.Live hook.data := by
      rw [Heap.Live, hcell, Option.isSome_some]
    rw [hw.objects, Heap.live_freeAll, hentry] at hobject
    exact hobject.1 (by simp)
  · obtain ⟨c, fn, hcell, hc⟩ := hgets h hook hlive hslot
    -- the object refers to the source, which owns nothing any more
    obtain ⟨d, fn', hcell', hd, hentry⟩ := hs.hooks h hook hlive hslot
    rw [hs.inj d other h hd howns] at hcell' hentry
    rw [hw.objects, hs.cell_freeAll (Ne.symm hne) hentry, hcell'] at hcell
    cases hcell
    rw [Function.update_of_ne (Ne.symm hne), Function.update_self] at hc
    cases hc

private theorem set_not_owner (laws : HookLaws shared S) (hs : s.Linked) (this : Nat) (f : F)
    (faults : Faults) (hobject : faults.object = none) {h : Nat}
    (hheld : s.world.held this = some h) (hlive : s.world.handles.Live h)
    (hno : ¬ (s.owns this = some h ∧
      ¬ (faults.table = true ∧ (s.world.conn this).callbacks = none))) :
    ¬ GetsOwner ⟨(Connection.setCollationHandler this (some f) faults s.world).final, s.owns⟩ := by
  intro hafter
  rcases setCollationHandler_cases s.world this f faults with
    ⟨hthrows, -⟩ | ⟨-, htable, hw⟩ | ⟨-, htable, hw⟩
  · exact hthrows hobject
  · rw [hw] at hafter
    have hcall := hookCall_no_table laws hs this f htable.2
    have hslot := (hcall.slots h).trans (if_pos hheld)
    have hlive' := hlive
    rw [← hcall.same.handles] at hlive'
    obtain ⟨c, fn, hcell, -⟩ := hafter.cell hlive' hslot
    rw [Heap.free_cell_self] at hcell
    cases hcell
  · rw [hw] at hafter
    have hcall := hookCall_set laws hs this f
    have hslot := (hcall.slots h).trans (if_pos hheld)
    have hlive' := hlive
    rw [← hcall.same.handles] at hlive'
    obtain ⟨c, fn, hcell, hc⟩ := hafter.cell hlive' hslot
    rw [cell_afterSet hs this f] at hcell
    cases hcell
    exact hno ⟨hc, htable⟩

private theorem exec_not_owner (laws : HookLaws shared S) (s : OwnerWorld S F)
    (e : CollationEvent F)
    (hs : s.Linked) (hno : ¬ s.KeepsReference e) : ¬ (e.exec s).GetsOwner := by
  obtain ⟨happ, hno⟩ := Classical.not_imp.mp hno
  rw [CollationEvent.exec, if_pos happ]
  cases e with
  | openDb this answer =>
    obtain ⟨handle, hopen⟩ := openDb_attempt s.world this answer
    exact open_not_owner hs hopen (not_not.mp hno)
  | set this fn faults =>
    cases fn with
    | none => exact (hno trivial).elim
    | some f =>
      simp only [not_forall] at hno
      obtain ⟨hobject, h, hheld, hlive, hno⟩ := hno
      exact set_not_owner laws hs this f faults hobject hheld hlive hno
  | moveConstruct this other =>
    have hne : this ≠ other := by
      rintro rfl
      exact happ.1 happ.2
    exact moves_not_owner hs (moveConstruct_moves happ.1 hne) hne (Or.inr (not_not.mp hno))
  | moveAssign this other =>
    obtain ⟨hself, hno⟩ := Classical.not_imp.mp hno
    have hhooked : s.HookedOwner this ∨ s.HookedOwner other := by
      tauto
    exact moves_not_owner hs (moveAssign_moves hself (hs.only this)) hself hhooked
  | _ => exact (hno trivial).elim

end OwnerWorld

/-- Over any number of connection objects: whenever a collation is needed on an open handle, the
user's function gets the connection that owns it, in exactly the executions in which the owner of a
handle with a hook is not opened again, moved from or assigned to, and a hook is set through the
owner. -/
theorem collation_gets_owner_iff [HookApi S] {shared : Bool} (laws : HookLaws shared S) {sqlite : S}
    (hempty : ∀ h, HookApi.slot sqlite h .collation = .empty) (es : List (CollationEvent F)) :
    Always CollationEvent.exec OwnerWorld.GetsOwner (OwnerWorld.start sqlite) es ↔
      StepsMeet CollationEvent.exec OwnerWorld.KeepsReference (OwnerWorld.start sqlite) es :=
  always_iff_stepsMeet (fun _ hs => OwnerWorld.Linked.getsOwner hs)
    (OwnerWorld.exec_linked laws) (OwnerWorld.exec_not_owner laws)
    (OwnerWorld.linked_start hempty) es

/-- A connection is moved, and the handler is set on the target. -/
theorem collation_gets_owner_iff_moved :
    let es : List (CollationEvent Unit) :=
      [.construct 0, .openDb 0 .ok, .moveConstruct 1 0, .set 1 (some ()) Faults.none]
    let start : OwnerWorld (SlotTable true) Unit := OwnerWorld.start SlotTable.fresh
    Always CollationEvent.exec OwnerWorld.GetsOwner start es ↔
      StepsMeet CollationEvent.exec OwnerWorld.KeepsReference start es :=
  collation_gets_owner_iff SlotTable.hookLaws (fun _ => rfl) _

/-- The handler is set and the connection opened again, while something still uses the first handle:
on that one the function gets the object, which has another handle now. -/
theorem collation_gets_other_connection :
    let es : List (CollationEvent Unit) :=
      [.construct 0, .openDb 0 .ok, .set 0 (some ()) Faults.none, .openDb 0 .ok]
    let start : OwnerWorld (SlotTable true) Unit := OwnerWorld.start SlotTable.fresh
    let s := run CollationEvent.exec start es
    (collationNeeded 0 s.world).outcome = .ok (some (0, ())) ∧ s.world.held 0 = some 1 ∧
      ¬ Always CollationEvent.exec OwnerWorld.GetsOwner start es := by
  intro es start s
  have hneeded : (collationNeeded 0 s.world).outcome = .ok (some (0, ())) := rfl
  have hheld : s.world.held 0 = some 1 := rfl
  refine ⟨hneeded, hheld, fun halways => ?_⟩
  obtain ⟨c, fn, hout, hc, -⟩ := halways.last 0 ⟨.sqxxCallCollationHandler, 0⟩ (by decide) rfl
  have hcall := hneeded.symm.trans hout
  cases hcall
  cases hheld.symm.trans hc

end Sqxx
