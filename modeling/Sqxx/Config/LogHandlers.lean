import Sqxx.Config.Object
import Sqxx.Framework.Runs

/-!
# The registered log handlers

The library calls a log handler through the data pointer it was registered with.  A new handler is
registered before `config_callbacks` has it: until the assignment, the unique pointer of the call
owns it.
-/

namespace Sqxx
open Framework

def LogKind.op : LogKind → ConfigOp
  | .log => .log
  | .sqllog => .sqllog

def LogKind.trampoline : LogKind → LogTrampoline
  | .log => .sqxxCallConfigLogHandler
  | .sqllog => .sqxxCallConfigSqllogHandler

/-- A call of `config_log` or `config_sqllog`; one with a function may fail to allocate its copy. -/
inductive LogEvent (F : Type)
  | config (kind : LogKind) (f : Option F) (fault : Option Exn)
  | clear (kind : LogKind)
  deriving DecidableEq, Repr

/-- The configuration, and the function of the last successful registration of each kind that has
not been cleared since. -/
structure LogSession (W F : Type) where
  state : ConfigState W F
  last : LogKind → Option F

namespace LogEvent

variable {W V F : Type} [api : ConfigApi W V]

def kind : LogEvent F → LogKind
  | .config kind _ _ => kind
  | .clear kind => kind

def toCall : LogEvent F → ConfigCall F
  | .config .log f fault => .log f fault
  | .config .sqllog f fault => .sqllog f fault
  | .clear .log => .clearLog
  | .clear .sqllog => .clearSqllog

def op (e : LogEvent F) : Cxx (ConfigState W F) Unit := e.toCall.op

def leaves : LogEvent F → Option F
  | .config _ f _ => f
  | .clear _ => none

def exec (s : LogSession W F) (e : LogEvent F) : LogSession W F where
  state := (e.op s.state).final
  last := match (e.op s.state).outcome with
    | .ok _ => Function.update s.last e.kind e.leaves
    | .error _ => s.last

private theorem op_config (kind : LogKind) (f : F) (fault : Option Exn) :
    ((LogEvent.config kind (some f) fault).op : Cxx (ConfigState W F) Unit) =
      Config.configHandler kind kind.op kind.trampoline f fault := by
  cases kind <;> rfl

private theorem op_cleared {e : LogEvent F} (he : e.leaves = none) :
    (e.op : Cxx (ConfigState W F) Unit) =
      Config.configure e.kind.op [.function none, .pointer none] := by
  cases e with
  | config kind f fault =>
    cases f with
    | none => cases kind <;> rfl
    | some f => cases he
  | clear kind => cases kind <;> rfl

end LogEvent

section Registered

variable {W V F : Type} [api : ConfigApi W V]
  (registered : V → Option LogTrampoline × Option Nat)

def registrationOf (kind : LogKind) (st : ConfigState W F) : Option LogTrampoline × Option Nat :=
  registered (api.setting st.sqlite kind.op.setting)

/-- The data pointer of a kind is null or names a live object with the function `last`, of the
owner that has `own`. -/
def AliveAs (kind : LogKind) (last : Option F) (own : Option Nat) (st : ConfigState W F) : Prop :=
  ∀ p, (registrationOf registered kind st).2 = some p →
    own = some p ∧ ∃ f, last = some f ∧ st.objects.cell p = some ⟨kind, f⟩

/-- A kind is registered with the function `last`, through the object that `config_callbacks` owns,
or with nothing. -/
def RegisteredAs (kind : LogKind) (last : Option F) (st : ConfigState W F) : Prop :=
  match last with
  | some f => ∃ p, registrationOf registered kind st = (some kind.trampoline, some p) ∧
      st.callbacks kind = some p ∧ st.objects.cell p = some ⟨kind, f⟩
  | none => registrationOf registered kind st = (none, none)

structure LogRegistered (s : LogSession W F) : Prop where
  kinds : ∀ kind, RegisteredAs registered kind (s.last kind) s.state
  owned : s.state.objects.Held s.state.callbacks

/-- The registration and the handler of a kind are the same in both states. -/
structure SameKind (kind : LogKind) (st st' : ConfigState W F) : Prop where
  registration : registrationOf registered kind st' = registrationOf registered kind st
  entry : st'.callbacks kind = st.callbacks kind
  object : ∀ p, st.callbacks kind = some p → st'.objects.cell p = st.objects.cell p

/-- Who has the object of a kind at an instant of a call: `config_callbacks` the one registered
before or the one registered by the call, or between its registration and the assignment the call
itself, the object that is made next. -/
inductive AliveDuring (s : LogSession W F) (e : LogEvent F) (kind : LogKind)
    (v : ConfigState W F) : Prop
  | before (h : AliveAs registered kind (s.last kind) (v.callbacks kind) v)
  | between (hkind : kind = e.kind) (hentry : v.callbacks kind = s.state.callbacks kind)
      (h : AliveAs registered kind e.leaves (some s.state.objects.next) v)
  | after (hkind : kind = e.kind) (h : AliveAs registered kind e.leaves (v.callbacks kind) v)

/-- What a call owes at every instant and in the end. -/
structure CallKeepsAlive (s : LogSession W F) (e : LogEvent F) : Prop where
  instants : ∀ v ∈ (e.op s.state).visited, ∀ kind, AliveDuring registered s e kind v
  thrown : ∀ err, (e.op s.state).outcome = .error err →
    ∀ kind, SameKind registered kind s.state (e.op s.state).final
  others : ∀ kind, kind ≠ e.kind → SameKind registered kind s.state (e.op s.state).final ∧
    ∀ v ∈ (e.op s.state).visited, SameKind registered kind s.state v

end Registered

namespace Config

variable {W V F : Type} [api : ConfigApi W V] (kind : LogKind) (op : ConfigOp) (fn : LogTrampoline)
  (f : F) (st : ConfigState W F)

/-- The states a registration passes through: the object is made, the library is asked, and either
the object is deleted again or `config_callbacks` has it, first beside the old object. -/
def objectMade : ConfigState W F := { st with objects := st.objects.alloc ⟨kind, f⟩ }

def objectAsked : ConfigState W F :=
  { objectMade kind f st with sqlite := (registering op fn st).2 }

def objectDeleted : ConfigState W F :=
  { objectAsked kind op fn f st with
    objects := (st.objects.alloc ⟨kind, f⟩).free st.objects.next }

def objectStored : ConfigState W F :=
  { objectAsked kind op fn f st with
    callbacks := Function.update st.callbacks kind (some st.objects.next) }

def objectReplaced : ConfigState W F :=
  { objectStored kind op fn f st with
    objects := (st.objects.alloc ⟨kind, f⟩).freeAll (st.callbacks kind).toList }

private theorem configHandler_visited_accepted (hok : (registering op fn st).1 = SQLITE_OK) :
    (configHandler kind op fn f none st).visited =
      [objectMade kind f st, objectAsked kind op fn f st, objectStored kind op fn f st,
        objectReplaced kind op fn f st] := by
  rw [registering] at hok
  simp [configHandler, newObject, configure, Cxx.unwinding, Cxx.tryCatch, storeCallback,
    Cxx.checkOk_run, Exec.prepend, hok, objectMade, objectAsked, objectStored, objectReplaced,
    registering]

private theorem configHandler_visited_rejected (hno : (registering op fn st).1 ≠ SQLITE_OK) :
    (configHandler kind op fn f none st).visited =
      [objectMade kind f st, objectAsked kind op fn f st, objectDeleted kind op fn f st] := by
  rw [registering] at hno
  simp [configHandler, newObject, configure, Cxx.unwinding, Cxx.tryCatch, deleteObject,
    Cxx.checkOk_run, Exec.prepend, hno, objectMade, objectAsked, objectDeleted, registering]

private theorem configHandler_visited_no_object (e : Exn) :
    (configHandler kind op fn f (some e) st).visited = [] := rfl

private theorem configure_visited (args : List ConfigArg) :
    (configure op args st).visited = [(configure op args st).final] := by
  simp [configure, Cxx.checkOk_run]

end Config

section Steps

variable {W V F : Type} [api : ConfigApi W V]
  {registered : V → Option LogTrampoline × Option Nat}

private theorem LogKind.setting_inj {kind kind' : LogKind}
    (h : kind.op.setting = kind'.op.setting) :
    kind = kind' := by
  cases kind <;> cases kind' <;> first | rfl | cases h

private theorem registrationOf_rejected (laws : LogLaws W registered) {op : ConfigOp}
    {args : List ConfigArg} {st st' : ConfigState W F}
    (hno : (api.config st.sqlite op args).1 ≠ SQLITE_OK)
    (hst' : st'.sqlite = (api.config st.sqlite op args).2) (kind : LogKind) :
    registrationOf registered kind st' = registrationOf registered kind st := by
  rw [registrationOf, hst', laws.rejected st.sqlite op args hno, registrationOf]

private theorem registrationOf_accepted (laws : LogLaws W registered) {kind : LogKind}
    {fn : Option LogTrampoline} {p : Option Nat} {st st' : ConfigState W F}
    (hok : (api.config st.sqlite kind.op [.function fn, .pointer p]).1 = SQLITE_OK)
    (hst' : st'.sqlite = (api.config st.sqlite kind.op [.function fn, .pointer p]).2) :
    registrationOf registered kind st' = (fn, p) ∧ ∀ other, other ≠ kind →
      registrationOf registered other st' = registrationOf registered other st := by
  constructor
  · rw [registrationOf, hst', laws.accepted _ _ _ hok, Function.update_self]
    cases kind with
    | log => exact laws.log fn p
    | sqllog => exact laws.sqllog fn p
  · intro other hne
    have hsetting : other.op.setting ≠ kind.op.setting := fun h => hne (LogKind.setting_inj h)
    rw [registrationOf, hst', laws.accepted _ _ _ hok, Function.update_of_ne hsetting,
      registrationOf]

theorem SameKind.refl (kind : LogKind) (st : ConfigState W F) :
    SameKind registered kind st st := ⟨rfl, rfl, fun _ _ => rfl⟩

theorem RegisteredAs.same {kind : LogKind} {last : Option F} {st v : ConfigState W F}
    (h : RegisteredAs registered kind last st) (hsame : SameKind registered kind st v) :
    RegisteredAs registered kind last v := by
  cases last with
  | some f =>
    obtain ⟨p, hreg, hentry, hcell⟩ := h
    exact ⟨p, hsame.registration.trans hreg, hsame.entry.trans hentry,
      (hsame.object p hentry).trans hcell⟩
  | none => exact hsame.registration.trans h

theorem RegisteredAs.alive {kind : LogKind} {last : Option F} {st : ConfigState W F}
    (h : RegisteredAs registered kind last st) :
    AliveAs registered kind last (st.callbacks kind) st := by
  intro p hp
  cases last with
  | some f =>
    obtain ⟨q, hreg, hentry, hcell⟩ := h
    rw [hreg] at hp
    cases hp
    exact ⟨hentry, f, rfl, hcell⟩
  | none =>
    rw [show registrationOf registered kind st = (none, none) from h] at hp
    cases hp

namespace LogRegistered

variable {s : LogSession W F}

theorem alive (hs : LogRegistered registered s) {kind : LogKind} {v : ConfigState W F}
    (hsame : SameKind registered kind s.state v) :
    AliveAs registered kind (s.last kind) (v.callbacks kind) v :=
  ((hs.kinds kind).same hsame).alive

private theorem keeps_of_same (hs : LogRegistered registered s) {e : LogEvent F}
    {t : ConfigState W F} {err : Raised} (hends : Prog.Ends e.op s.state (.error err) t)
    (hsame : ∀ kind, SameKind registered kind s.state t)
    (hvisited : ∀ v ∈ (e.op s.state).visited, ∀ kind, SameKind registered kind s.state v)
    (howned : t.objects.Held t.callbacks) :
    LogRegistered registered (e.exec s) ∧ CallKeepsAlive registered s e := by
  have hexec : e.exec s = ⟨t, s.last⟩ := by
    rw [LogEvent.exec, hends.outcome, hends.final]
  rw [hexec]
  refine ⟨⟨fun kind => (hs.kinds kind).same (hsame kind), howned⟩, ?_, ?_, ?_⟩
  · intro v hv kind
    exact .before (hs.alive (hvisited v hv kind))
  · intro err' _ kind
    rw [hends.final]
    exact hsame kind
  · intro kind _
    rw [hends.final]
    exact ⟨hsame kind, fun v hv => hvisited v hv kind⟩

private theorem keeps_of_returned (hs : LogRegistered registered s) {e : LogEvent F}
    {t : ConfigState W F} (hends : Prog.Ends e.op s.state (.ok ()) t)
    (hown : RegisteredAs registered e.kind e.leaves t)
    (hothers : ∀ kind, kind ≠ e.kind → SameKind registered kind s.state t ∧
      ∀ v ∈ (e.op s.state).visited, SameKind registered kind s.state v)
    (hvisited : ∀ v ∈ (e.op s.state).visited, AliveDuring registered s e e.kind v)
    (howned : t.objects.Held t.callbacks) :
    LogRegistered registered (e.exec s) ∧ CallKeepsAlive registered s e := by
  have hexec : e.exec s = ⟨t, Function.update s.last e.kind e.leaves⟩ := by
    rw [LogEvent.exec, hends.outcome, hends.final]
  rw [hexec]
  refine ⟨⟨?_, howned⟩, ?_, ?_, ?_⟩
  · intro kind
    by_cases hkind : kind = e.kind
    · subst hkind
      change RegisteredAs registered e.kind (Function.update s.last e.kind e.leaves e.kind) t
      rw [Function.update_self]
      exact hown
    · change RegisteredAs registered kind (Function.update s.last e.kind e.leaves kind) t
      rw [Function.update_of_ne hkind]
      exact (hs.kinds kind).same (hothers kind hkind).1
  · intro v hv kind
    by_cases hkind : kind = e.kind
    · subst hkind
      exact hvisited v hv
    · exact .before (hs.alive ((hothers kind hkind).2 v hv))
  · intro err herr
    rw [hends.outcome] at herr
    cases herr
  · intro kind hkind
    rw [hends.final]
    exact hothers kind hkind

private theorem clear_keeps (laws : LogLaws W registered) (hs : LogRegistered registered s)
    {e : LogEvent F} (he : e.leaves = none) :
    LogRegistered registered (e.exec s) ∧ CallKeepsAlive registered s e := by
  set asked := api.config s.state.sqlite e.kind.op [.function none, .pointer none] with hasked
  set t : ConfigState W F := { s.state with sqlite := asked.2 } with ht
  have hends := Config.configure_ends e.kind.op [.function none, .pointer none] s.state
  have hvisited := Config.configure_visited e.kind.op s.state [.function none, .pointer none]
  rw [hends.final, ← LogEvent.op_cleared he, ← hasked, ← ht] at hvisited
  rw [← LogEvent.op_cleared he, ← hasked, ← ht] at hends
  by_cases hok : asked.1 = SQLITE_OK
  · have hregistered : registrationOf registered e.kind t = (none, none) ∧
        ∀ other, other ≠ e.kind →
          registrationOf registered other t = registrationOf registered other s.state :=
      registrationOf_accepted laws hok rfl
    obtain ⟨hown, hothers⟩ := hregistered
    have hsame : ∀ kind, kind ≠ e.kind → SameKind registered kind s.state t :=
      fun kind hkind => ⟨hothers kind hkind, rfl, fun _ _ => rfl⟩
    have hleft : RegisteredAs registered e.kind e.leaves t := by
      rw [he]
      exact hown
    rw [Config.answered, if_pos hok] at hends
    apply hs.keeps_of_returned hends hleft
    · intro kind hkind
      rw [hvisited]
      exact ⟨hsame kind hkind, List.forall_mem_singleton.mpr (hsame kind hkind)⟩
    · rw [hvisited]
      exact List.forall_mem_singleton.mpr (.after rfl hleft.alive)
    · exact hs.owned
  · have hsame : ∀ kind, SameKind registered kind s.state t :=
      fun kind => ⟨registrationOf_rejected laws hok rfl kind, rfl, fun _ _ => rfl⟩
    rw [Config.answered, if_neg hok] at hends
    apply hs.keeps_of_same hends hsame
    · rw [hvisited]
      exact List.forall_mem_singleton.mpr hsame
    · exact hs.owned

private theorem sameKind_objectMade (hs : LogRegistered registered s) (made : LogKind) (f : F)
    (kind : LogKind) : SameKind registered kind s.state (Config.objectMade made f s.state) where
  registration := rfl
  entry := rfl
  object _p hp := Heap.alloc_cell_of_ne _ _ (hs.owned.ne_next hp)

private theorem no_object_keeps (hs : LogRegistered registered s) (kind : LogKind) (f : F)
    (err : Exn) :
    LogRegistered registered (LogEvent.exec s (.config kind (some f) (some err))) ∧
      CallKeepsAlive registered s (.config kind (some f) (some err)) := by
  have hends := Config.configHandler_no_object kind kind.op kind.trampoline f s.state err
  have hvisited :=
    Config.configHandler_visited_no_object kind kind.op kind.trampoline f s.state err
  rw [← LogEvent.op_config] at hends hvisited
  apply hs.keeps_of_same hends
  · intro other
    exact SameKind.refl other s.state
  · rw [hvisited]
    exact List.forall_mem_nil _
  · exact hs.owned

private theorem rejected_keeps (laws : LogLaws W registered) (hs : LogRegistered registered s)
    (kind : LogKind) (f : F)
    (hno : (Config.registering kind.op kind.trampoline s.state).1 ≠ SQLITE_OK) :
    LogRegistered registered (LogEvent.exec s (.config kind (some f) none)) ∧
      CallKeepsAlive registered s (.config kind (some f) none) := by
  have hends := Config.configHandler_rejected kind kind.op kind.trampoline f s.state hno
  have hvisited := Config.configHandler_visited_rejected kind kind.op kind.trampoline f s.state hno
  rw [← LogEvent.op_config] at hends hvisited
  have hmade : ∀ other, SameKind registered other s.state (Config.objectMade kind f s.state) :=
    hs.sameKind_objectMade kind f
  have hasked : ∀ other, SameKind registered other s.state
      (Config.objectAsked kind kind.op kind.trampoline f s.state) :=
    fun other => ⟨registrationOf_rejected laws hno rfl other, rfl, (hmade other).object⟩
  have hdeleted : ∀ other, SameKind registered other s.state
      (Config.objectDeleted kind kind.op kind.trampoline f s.state) := by
    intro other
    refine ⟨registrationOf_rejected laws hno rfl other, rfl, ?_⟩
    intro p hp
    exact (Heap.free_cell_of_ne _ (hs.owned.ne_next hp)).trans ((hmade other).object p hp)
  apply hs.keeps_of_same hends hdeleted
  · rw [hvisited]
    simp only [List.forall_mem_cons, List.not_mem_nil, IsEmpty.forall_iff, implies_true, and_true]
    exact ⟨hmade, hasked, hdeleted⟩
  · exact hs.owned.discard ⟨kind, f⟩

/-- An instant at which the library has the object that was made, and the other kinds are untouched.
The owner may be the call or `config_callbacks`. -/
structure Taken (s : LogSession W F) (kind : LogKind) (f : F) (v : ConfigState W F) : Prop where
  sqlite : v.sqlite = (Config.registering kind.op kind.trampoline s.state).2
  object : v.objects.cell s.state.objects.next = some ⟨kind, f⟩
  entries : ∀ other, other ≠ kind → v.callbacks other = s.state.callbacks other
  objects : ∀ other, other ≠ kind → ∀ p, s.state.callbacks other = some p →
    v.objects.cell p = s.state.objects.cell p

namespace Taken

variable {kind : LogKind} {f : F} {v : ConfigState W F}

private theorem registration (ht : Taken s kind f v) (laws : LogLaws W registered)
    (hok : (Config.registering kind.op kind.trampoline s.state).1 = SQLITE_OK) :
    registrationOf registered kind v = (some kind.trampoline, some s.state.objects.next) :=
  (registrationOf_accepted laws hok ht.sqlite).1

theorem others (ht : Taken s kind f v) (laws : LogLaws W registered)
    (hok : (Config.registering kind.op kind.trampoline s.state).1 = SQLITE_OK) {other : LogKind}
    (hne : other ≠ kind) : SameKind registered other s.state v where
  registration := (registrationOf_accepted laws hok ht.sqlite).2 other hne
  entry := ht.entries other hne
  object := ht.objects other hne

theorem alive (ht : Taken s kind f v) (laws : LogLaws W registered)
    (hok : (Config.registering kind.op kind.trampoline s.state).1 = SQLITE_OK) :
    AliveAs registered kind (some f) (some s.state.objects.next) v := by
  intro p hp
  rw [ht.registration laws hok] at hp
  cases hp
  exact ⟨rfl, f, rfl, ht.object⟩

end Taken

section States

variable (hs : LogRegistered registered s) (kind : LogKind) (f : F)
include hs

private theorem taken_asked :
    Taken s kind f (Config.objectAsked kind kind.op kind.trampoline f s.state) where
  sqlite := rfl
  object := Heap.alloc_cell_self _ _
  entries _ _ := rfl
  objects other _ p hp := (hs.sameKind_objectMade kind f other).object p hp

private theorem taken_stored :
    Taken s kind f (Config.objectStored kind kind.op kind.trampoline f s.state) where
  sqlite := rfl
  object := (hs.taken_asked kind f).object
  entries _ hne := Function.update_of_ne hne _ _
  objects := (hs.taken_asked kind f).objects

private theorem taken_replaced :
    Taken s kind f (Config.objectReplaced kind kind.op kind.trampoline f s.state) := by
  have hstored := hs.taken_stored kind f
  refine ⟨rfl, ?_, hstored.entries, ?_⟩
  · refine (Heap.freeAll_cell_of_notMem _ fun hnew => ?_).trans hstored.object
    exact hs.owned.ne_next (Option.mem_toList.mp hnew) rfl
  · intro other hne p hp
    refine (Heap.freeAll_cell_of_notMem _ fun hold => ?_).trans (hstored.objects other hne p hp)
    exact hne (hs.owned.inj other kind p hp (Option.mem_toList.mp hold))

end States

private theorem accepted_keeps (laws : LogLaws W registered) (hs : LogRegistered registered s)
    (kind : LogKind) (f : F)
    (hok : (Config.registering kind.op kind.trampoline s.state).1 = SQLITE_OK) :
    LogRegistered registered (LogEvent.exec s (.config kind (some f) none)) ∧
      CallKeepsAlive registered s (.config kind (some f) none) := by
  have hends := Config.configHandler_accepted kind kind.op kind.trampoline f s.state hok
  have hvisited := Config.configHandler_visited_accepted kind kind.op kind.trampoline f s.state hok
  rw [← LogEvent.op_config] at hends hvisited
  have hmade := hs.sameKind_objectMade kind f
  have hasked := hs.taken_asked kind f
  have hstored := hs.taken_stored kind f
  have hreplaced := hs.taken_replaced kind f
  have hentry : Function.update s.state.callbacks kind (some s.state.objects.next) kind =
      some s.state.objects.next := Function.update_self _ _ _
  have hafter : ∀ v, Taken s kind f v →
      v.callbacks = Function.update s.state.callbacks kind (some s.state.objects.next) →
      AliveDuring registered s (.config kind (some f) none) kind v := by
    intro v hv hcallbacks
    apply AliveDuring.after rfl
    change AliveAs registered kind (some f) (v.callbacks kind) v
    rw [hcallbacks, hentry]
    exact hv.alive laws hok
  apply hs.keeps_of_returned hends
  · exact ⟨s.state.objects.next, hreplaced.registration laws hok, hentry, hreplaced.object⟩
  · intro other hne
    refine ⟨hreplaced.others laws hok hne, ?_⟩
    rw [hvisited]
    simp only [List.forall_mem_cons, List.not_mem_nil, IsEmpty.forall_iff, implies_true, and_true]
    exact ⟨hmade other, hasked.others laws hok hne, hstored.others laws hok hne,
      hreplaced.others laws hok hne⟩
  · rw [hvisited]
    simp only [List.forall_mem_cons, List.not_mem_nil, IsEmpty.forall_iff, implies_true, and_true]
    exact ⟨.before (hs.alive (hmade kind)), .between rfl rfl (hasked.alive laws hok),
      hafter _ hstored rfl, hafter _ hreplaced rfl⟩
  · exact hs.owned.replace kind ⟨kind, f⟩

private theorem exec_keeps (laws : LogLaws W registered) (hs : LogRegistered registered s)
    (e : LogEvent F) :
    LogRegistered registered (e.exec s) ∧ CallKeepsAlive registered s e := by
  cases e with
  | config kind f fault =>
    cases f with
    | none => exact hs.clear_keeps laws rfl
    | some f =>
      cases fault with
      | some err => exact hs.no_object_keeps kind f err
      | none =>
        by_cases hok : (Config.registering kind.op kind.trampoline s.state).1 = SQLITE_OK
        · exact hs.accepted_keeps laws kind f hok
        · exact hs.rejected_keeps laws kind f hok
  | clear kind => exact hs.clear_keeps laws rfl

end LogRegistered

end Steps

def LogSession.initial {W : Type} (F : Type) (w : W) : LogSession W F :=
  ⟨⟨w, Heap.empty, fun _ => none⟩, fun _ => none⟩

/-- After any calls, whatever of them failed, each kind is registered with the function of its last
successful call, through the object in `config_callbacks`; and no call ever leaves the library with
a dead object, changes the other kind, or changes anything when it throws. -/
theorem log_handlers_alive {W V F : Type} [api : ConfigApi W V]
    {registered : V → Option LogTrampoline × Option Nat} (laws : LogLaws W registered) (w : W)
    (hfresh : ∀ kind : LogKind, registered (api.setting w kind.op.setting) = (none, none))
    (es : List (LogEvent F)) :
    Always LogEvent.exec (LogRegistered registered) (LogSession.initial F w) es ∧
      StepsMeet LogEvent.exec (CallKeepsAlive registered) (LogSession.initial F w) es := by
  have hinit : LogRegistered registered (LogSession.initial F w) :=
    ⟨hfresh, Heap.Held.init _ fun _ => rfl⟩
  have hstep : ∀ (s : LogSession W F) e, LogRegistered registered s →
      LogRegistered registered (LogEvent.exec s e) := fun s e hs => (hs.exec_keeps laws e).1
  exact ⟨always_of_preserved hstep hinit es,
    stepsMeet_of_preserved hstep (fun s e hs => (hs.exec_keeps laws e).2) hinit es⟩

theorem log_handlers_alive_replaced :
    (Always LogEvent.exec (LogRegistered SettingTable.registered)
        (LogSession.initial Nat SettingTable.initial)
        [.config .log (some 7) none, .config .sqllog (some 8) (some .badAlloc),
          .config .log (some 9) none, .clear .log]) ∧
      StepsMeet LogEvent.exec (CallKeepsAlive SettingTable.registered)
        (LogSession.initial Nat SettingTable.initial)
        [.config .log (some 7) none, .config .sqllog (some 8) (some .badAlloc),
          .config .log (some 9) none, .clear .log] :=
  log_handlers_alive logLaws_settingTable SettingTable.initial (fun _ => rfl) _

/-- A library that has taken a handler at an instant at which `config_callbacks` has none. -/
theorem log_handler_not_yet_owned :
    ∃ v ∈ ((LogEvent.config .log (some 7) none).op
        (LogSession.initial Nat SettingTable.initial).state).visited,
      (registrationOf SettingTable.registered .log v).2 = some 0 ∧
        ∀ kind, v.callbacks kind = none := by
  have hvisited := Config.configHandler_visited_accepted .log .log .sqxxCallConfigLogHandler 7
    (LogSession.initial Nat SettingTable.initial).state rfl
  refine ⟨_, List.mem_of_getElem? (i := 1) (congrArg (·[1]?) hvisited), ?_⟩
  exact ⟨rfl, fun _ => rfl⟩

end Sqxx
