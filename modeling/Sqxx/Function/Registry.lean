import Sqxx.Framework.Refinement
import Sqxx.Function.Registration
import Sqxx.Function.Scalar

/-!
# What is called under a name

The registrations of one handle implement a store: under every key the callable of the last
registration that did not throw, or none.  A scalar function that SQL calls is the last one
registered for its name and number of arguments.
-/

namespace Sqxx
open Framework

/-- Where the code of a function comes from: a copied object, or a function of the program. -/
inductive Callee (F : Type)
  | object (f : F)
  | function (fptr : Nat)
  | static (fptr : Nat)
  deriving DecidableEq, Repr

/-- What the library reaches through an entry. -/
inductive Target (F : Type)
  | scalar (callee : Callee F)
  | aggregate (adat : F)
  | collation (callee : Callee F)
  deriving DecidableEq, Repr

variable {Q K F : Type}

/-- The data is followed to the object it points to, as the callback does. -/
def Entry.target (h : Heap F) : Entry → Option (Target F)
  | ⟨.object id, .functionCallPtr, _⟩ => (h.cell id).map fun f => .scalar (.object f)
  | ⟨.functionPointer fptr, .functionCallPtr, _⟩ => some (.scalar (.function fptr))
  | ⟨_, .functionCallStaticfptr fptr, _⟩ => some (.scalar (.static fptr))
  | ⟨.object id, .aggregateCalls, _⟩ => (h.cell id).map .aggregate
  | ⟨.object id, .collationComparePtr, _⟩ => (h.cell id).map fun f => .collation (.object f)
  | ⟨.functionPointer fptr, .collationComparePtr, _⟩ => some (.collation (.function fptr))
  | ⟨_, .collationCompareStaticfptr fptr, _⟩ => some (.collation (.static fptr))
  | _ => none

def targetAt (K : Type) [api : RegistryApi Q K] (w : RegistryWorld Q F) (k : K) :
    Option (Target F) :=
  (api.entry w.sqlite k).bind (Entry.target w.callables)

def Source.callee : Source F → Callee F
  | .function fptr => .function fptr
  | .callable f _ => .object f

namespace RegistryEvent

def key (K : Type) {Q : Type} [api : RegistryApi Q K] : RegistryEvent F → K
  | .createFunction name argc _ => api.functionKey name argc
  | .createFunctionStatic name argc _ => api.functionKey name argc
  | .createAggregate name nargs _ _ => api.functionKey name nargs
  | .createCollation name _ => api.collationKey name
  | .createCollationStatic name _ => api.collationKey name
  | .removeFunction name argc => api.functionKey name argc
  | .removeAggregate name argc => api.functionKey name argc
  | .removeCollation name => api.collationKey name

def registers : RegistryEvent F → Option (Target F)
  | .createFunction _ _ source => some (.scalar source.callee)
  | .createFunctionStatic _ _ Fun => some (.scalar (.static Fun))
  | .createAggregate _ _ adat _ => some (.aggregate adat)
  | .createCollation _ source => some (.collation source.callee)
  | .createCollationStatic _ Fun => some (.collation (.static Fun))
  | .removeFunction _ _ | .removeAggregate _ _ | .removeCollation _ => none

/-- The registrations of a handle as a machine that answers how each call ends. -/
def machine (K : Type) [RegistryApi Q K] :
    Machine (RegistryWorld Q F) (RegistryEvent F) (Except Raised Unit) :=
  fun w e => ((op K e w).outcome, (op K e w).final)

/-- The store, told how the calls end. -/
def store (K : Type) (Q : Type) [RegistryApi Q K] [DecidableEq K] (t : K → Option (Target F)) :
    RegistryEvent F × Except Raised Unit → K → Option (Target F)
  | (e, .ok ()) => Function.update t (key (Q := Q) K e) e.registers
  | (_, .error _) => t

/-- The assignments of a history: its calls that did not throw. -/
def succeeded (K : Type) (Q : Type) [RegistryApi Q K] :
    List (RegistryEvent F × Except Raised Unit) → List (K × Option (Target F)) :=
  List.filterMap fun
    | (e, .ok ()) => some (key (Q := Q) K e, e.registers)
    | (_, .error _) => none

end RegistryEvent

/-- A handle with nothing registered by the wrapper yet. -/
def RegistryWorld.fresh (q : Q) : RegistryWorld Q F := ⟨q, Heap.empty, 0⟩

/-- What the last of the events on a fresh handle that did not throw registered under the key. -/
def lastTarget [DecidableEq K] [RegistryApi Q K] (q : Q) (es : List (RegistryEvent F)) (k : K) :
    Option (Target F) :=
  (lastAssigned k (RegistryEvent.succeeded K Q
    ((RegistryEvent.machine K).history (.fresh q) es))).join

section Targets

variable [DecidableEq K] [api : RegistryApi Q K] {w v : RegistryWorld Q F} {k : K} {r : Reply Q}

omit [DecidableEq K] api in
private theorem Entry.target_congr {h h' : Heap F} {e : Entry} (he : e.Proper)
    (hcell : ∀ id, e.owned = some id → h'.cell id = h.cell id) : e.target h' = e.target h := by
  obtain ⟨data, callback, destroy⟩ := e
  cases data with
  | object id =>
    obtain rfl : destroy = .appdataDestroyObject := he
    have hsame := hcell id rfl
    cases callback <;> simp [Entry.target, hsame]
  | functionPointer fptr => cases callback <;> rfl
  | null => cases callback <;> rfl

omit [DecidableEq K] in
private theorem targetAt_kept (hw : RegistrySound K w) {l : K}
    (hentry : api.entry v.sqlite l = api.entry w.sqlite l)
    (hcell : ∀ id, ownedBy w.sqlite l = some id → v.callables.cell id = w.callables.cell id) :
    targetAt K v l = targetAt K w l := by
  rw [targetAt, targetAt, hentry]
  rcases he : api.entry w.sqlite l with _ | e
  · rfl
  · apply Entry.target_congr (hw.proper l e he)
    intro id hid
    apply hcell
    rw [ownedBy, he, Option.bind_some, hid]

private theorem targetAt_registers (hw : RegistrySound K w) {e : Option Entry}
    (hentry : api.entry v.sqlite = Function.update (api.entry w.sqlite) k e)
    (hcell : ∀ l id, l ≠ k → ownedBy w.sqlite l = some id →
      v.callables.cell id = w.callables.cell id) :
    targetAt K v = Function.update (targetAt K w) k (e.bind (Entry.target v.callables)) := by
  funext l
  by_cases hl : l = k
  · subst hl
    rw [targetAt, hentry, Function.update_self, Function.update_self]
  · rw [Function.update_of_ne hl]
    apply targetAt_kept hw
    · rw [hentry, Function.update_of_ne hl]
    · exact fun id hid => hcell l id hl hid

omit [DecidableEq K] in
private theorem other_callable (hw : RegistrySound K w) {l : K} {id : Nat} (hl : l ≠ k)
    (hid : ownedBy w.sqlite l = some id) :
    id ∉ (ownedBy w.sqlite k).toList ∧ id ≠ w.callables.next :=
  ⟨fun hmem => hl (hw.owned.inj l k id hid (Option.mem_toList.mp hmem)), hw.owned.ne_next hid⟩

private theorem targetAt_new (hw : RegistrySound K w) (callable : F) {callback : Callback}
    (hr : r.Registers w.sqlite k
      (some ⟨.object w.callables.next, callback, .appdataDestroyObject⟩))
    (hok : r.rv = SQLITE_OK) {target : Target F}
    (htarget : ∀ h : Heap F, h.cell w.callables.next = some callable →
      Entry.target h ⟨.object w.callables.next, callback, .appdataDestroyObject⟩ = some target) :
    targetAt K (applyReply { w with callables := w.callables.alloc callable } r) =
      Function.update (targetAt K w) k (some target) := by
  obtain ⟨hentry, hdestructed⟩ := hr hok
  let v : RegistryWorld Q F := { w with
    sqlite := r.state
    callables := (w.callables.alloc callable).freeAll (ownedBy w.sqlite k).toList }
  have hv : applyReply { w with callables := w.callables.alloc callable } r = v := by
    rw [applyReply, hdestructed, destructorCalls_of_proper (hw.proper k), foldl_destroy_objects]
    rfl
  have hnext : v.callables.cell w.callables.next = some callable := by
    rw [Heap.freeAll_cell_of_notMem]
    · exact Heap.alloc_cell_self _ _
    · intro hmem
      exact hw.owned.ne_next (Option.mem_toList.mp hmem) rfl
  rw [hv, targetAt_registers (v := v) hw hentry, Option.bind_some, htarget _ hnext]
  intro l id hl hid
  obtain ⟨hother, hne⟩ := other_callable hw hl hid
  exact (Heap.freeAll_cell_of_notMem _ hother).trans (Heap.alloc_cell_of_ne _ _ hne)

private theorem targetAt_plain (hw : RegistrySound K w) {e : Option Entry}
    (hr : r.Registers w.sqlite k e) (hok : r.rv = SQLITE_OK) {target : Option (Target F)}
    (htarget : ∀ h : Heap F, e.bind (Entry.target h) = target) :
    targetAt K (applyReply w r) = Function.update (targetAt K w) k target := by
  obtain ⟨hentry, hdestructed⟩ := hr hok
  let v : RegistryWorld Q F := { w with
    sqlite := r.state
    callables := w.callables.freeAll (ownedBy w.sqlite k).toList }
  have hv : applyReply w r = v := by
    rw [applyReply, hdestructed, destructorCalls_of_proper (hw.proper k), foldl_destroy_objects]
    rfl
  rw [hv, targetAt_registers (v := v) hw hentry, htarget]
  intro l id hl hid
  exact Heap.freeAll_cell_of_notMem _ (other_callable hw hl hid).1

omit [DecidableEq K] in
private theorem targetAt_discard (hw : RegistrySound K w) (callable : F)
    (hentry : api.entry r.state = api.entry w.sqlite) :
    targetAt K (appdataDestroyObject
      { w with sqlite := r.state, callables := w.callables.alloc callable }
      (.object w.callables.next)) = targetAt K w := by
  funext l
  apply targetAt_kept hw (congrFun hentry l)
  intro id hid
  have hne := hw.owned.ne_next hid
  exact (Heap.free_cell_of_ne _ hne).trans (Heap.alloc_cell_of_ne _ _ hne)

omit [DecidableEq K] in
private theorem targetAt_keeps_nothing (hw : RegistrySound K w) (hr : r.Keeps K w.sqlite [])
    (hfail : r.rv ≠ SQLITE_OK) : targetAt K (applyReply w r) = targetAt K w := by
  obtain ⟨hentry, hdestructed⟩ := hr hfail
  rw [applyReply, hdestructed, List.foldl_nil]
  funext l
  exact targetAt_kept hw (congrFun hentry l) fun id _ => rfl

end Targets

/-- The call has put the target under `k`, or it has thrown and every key has its old one. -/
def Assigns (K : Type) [RegistryApi Q K] [DecidableEq K] (w : RegistryWorld Q F) (k : K)
    (target : Option (Target F)) (x : Exec (RegistryWorld Q F) Raised Unit) : Prop :=
  x.outcome = .ok () ∧ targetAt K x.final = Function.update (targetAt K w) k target ∨
    ∃ e, x.outcome = .error e ∧ targetAt K x.final = targetAt K w

section Operations

variable [DecidableEq K] [api : RegistryApi Q K] {w : RegistryWorld Q F}

private theorem newCallable_assigns {k : K} {target : Option (Target F)} (callable : F)
    (fault : Option Exn) {f : AppData → Cxx (RegistryWorld Q F) Unit}
    (hf : Assigns K w k target (f (.object w.callables.next)
      { w with callables := w.callables.alloc callable })) :
    Assigns K w k target ((newCallable callable fault >>= f) w) := by
  cases fault with
  | some e => exact Or.inr ⟨.exception e, rfl, rfl⟩
  | none =>
    have hnew : Prog.Ends (newCallable callable none >>= f) w _ _ :=
      (Prog.Ends.effect _ w).bind ⟨rfl, rfl⟩
    rw [Assigns, hnew.outcome, hnew.final]
    exact hf

omit [DecidableEq K] api in
private theorem callRegistry_checked_outcome (f : Q → Reply Q) (w : RegistryWorld Q F) :
    (((do
      let rv ← callRegistry f
      if rv ≠ SQLITE_OK then Cxx.throw (staticError rv) else pure ()) :
        Cxx (RegistryWorld Q F) Unit) w).outcome =
      if (f w.sqlite).rv = SQLITE_OK then .ok ()
      else .error (.exception (staticError (f w.sqlite).rv)) := by
  by_cases hok : (f w.sqlite).rv = SQLITE_OK <;> simp [callRegistry, hok]

omit [DecidableEq K] in
private theorem createCollationRegister_outcome (name : CStr) (data : AppData) (callback : Callback)
    (destroy : Destroy) (w : RegistryWorld Q F) :
    (createCollationRegister K name data callback destroy w).outcome =
      let r := api.createCollationV2 w.sqlite name data (some callback) destroy
      if r.rv = SQLITE_OK then .ok () else .error (.exception (staticError r.rv)) := by
  by_cases hok : (api.createCollationV2 w.sqlite name data (some callback) destroy).rv = SQLITE_OK
  · simp [createCollationRegister, callRegistry, hok]
  · by_cases hdestroy : destroy = .null
    · subst hdestroy
      simp [createCollationRegister, callRegistry, hok]
    · simp [createCollationRegister, callRegistry, hok, hdestroy]

private theorem createFunctionRegister_new_assigns (laws : RegistryLaws Q K)
    (hw : RegistrySound K w)
    (callable : F) (name : CStr) (argc : Int) {callback : Callback} {target : Target F}
    (htarget : ∀ h : Heap F, h.cell w.callables.next = some callable →
      Entry.target h ⟨.object w.callables.next, callback, .appdataDestroyObject⟩ = some target) :
    Assigns K w (api.functionKey name argc) (some target)
      (createFunctionRegister K name argc (.object w.callables.next) callback
        .appdataDestroyObject { w with callables := w.callables.alloc callable }) := by
  rw [Assigns, createFunctionRegister_final, createFunctionRegister,
    callRegistry_checked_outcome]
  by_cases hok : (api.createFunctionV2 w.sqlite name argc (.object w.callables.next)
      (some callback) .appdataDestroyObject).rv = SQLITE_OK
  · left
    refine ⟨if_pos hok, ?_⟩
    exact targetAt_new hw callable (laws.function_ok _ _ _ _ _ _) hok htarget
  · right
    refine ⟨_, if_neg hok, ?_⟩
    obtain ⟨hentry, hdestructed⟩ := laws.function_failed _ _ _ _ _ _ hok
    rw [applyReply, hdestructed]
    exact targetAt_discard hw callable hentry

private theorem createFunctionV2_plain_assigns (laws : RegistryLaws Q K) (hw : RegistrySound K w)
    (name : CStr) (argc : Int) (data : AppData) (callback : Option Callback)
    {target : Option (Target F)}
    (htarget : ∀ h : Heap F, (newEntry data callback .null).bind (Entry.target h) = target)
    {x : Exec (RegistryWorld Q F) Raised Unit}
    (hfinal : x.final = applyReply w (api.createFunctionV2 w.sqlite name argc data callback .null))
    (hout : x.outcome =
      let r := api.createFunctionV2 w.sqlite name argc data callback .null
      if r.rv = SQLITE_OK then .ok () else .error (.exception (staticError r.rv))) :
    Assigns K w (api.functionKey name argc) target x := by
  rw [Assigns, hfinal, hout]
  by_cases hok : (api.createFunctionV2 w.sqlite name argc data callback .null).rv = SQLITE_OK
  · left
    refine ⟨if_pos hok, ?_⟩
    exact targetAt_plain hw (laws.function_ok _ _ _ _ _ _) hok htarget
  · right
    refine ⟨_, if_neg hok, ?_⟩
    exact targetAt_keeps_nothing hw (laws.function_failed _ _ _ _ _ _) hok

private theorem createCollationRegister_new_assigns (laws : RegistryLaws Q K)
    (hw : RegistrySound K w) (callable : F) (name : CStr) {callback : Callback} {target : Target F}
    (htarget : ∀ h : Heap F, h.cell w.callables.next = some callable →
      Entry.target h ⟨.object w.callables.next, callback, .appdataDestroyObject⟩ = some target) :
    Assigns K w (api.collationKey name) (some target)
      (createCollationRegister K name (.object w.callables.next) callback
        .appdataDestroyObject { w with callables := w.callables.alloc callable }) := by
  rw [Assigns, createCollationRegister_final, createCollationRegister_outcome]
  by_cases hok : (api.createCollationV2 w.sqlite name (.object w.callables.next)
      (some callback) .appdataDestroyObject).rv = SQLITE_OK
  · left
    refine ⟨if_pos hok, ?_⟩
    rw [if_neg (fun h => h.1 hok)]
    exact targetAt_new hw callable (laws.collation_ok _ _ _ _ _) hok htarget
  · right
    refine ⟨_, if_neg hok, ?_⟩
    obtain ⟨hentry, hdestructed⟩ := laws.collation_failed _ _ _ _ _ hok
    rw [if_pos ⟨hok, by simp⟩, applyReply, hdestructed]
    exact targetAt_discard hw callable hentry

private theorem createCollationV2_plain_assigns (laws : RegistryLaws Q K) (hw : RegistrySound K w)
    (name : CStr) (data : AppData) (callback : Option Callback) {target : Option (Target F)}
    (htarget : ∀ h : Heap F, (newEntry data callback .null).bind (Entry.target h) = target)
    {x : Exec (RegistryWorld Q F) Raised Unit}
    (hfinal : x.final = applyReply w (api.createCollationV2 w.sqlite name data callback .null))
    (hout : x.outcome =
      let r := api.createCollationV2 w.sqlite name data callback .null
      if r.rv = SQLITE_OK then .ok () else .error (.exception (staticError r.rv))) :
    Assigns K w (api.collationKey name) target x := by
  rw [Assigns, hfinal, hout]
  by_cases hok : (api.createCollationV2 w.sqlite name data callback .null).rv = SQLITE_OK
  · left
    refine ⟨if_pos hok, ?_⟩
    exact targetAt_plain hw (laws.collation_ok _ _ _ _ _) hok htarget
  · right
    refine ⟨_, if_neg hok, ?_⟩
    exact targetAt_keeps_nothing hw (laws.collation_failed _ _ _ _ _) hok

private theorem removeFunction_assigns (laws : RegistryLaws Q K) (hw : RegistrySound K w)
    (name : CStr) (argc : Int) :
    Assigns K w (api.functionKey name argc) none (removeFunction K name argc w) := by
  apply createFunctionV2_plain_assigns laws hw name argc .null none (fun h => rfl)
  · simp only [removeFunction, callRegistry, Prog.bind_run, Prog.effect_run, Exec.andThen_ok,
      Exec.prepend_final]
    split <;> rfl
  · rw [removeFunction, callRegistry_checked_outcome]

/-- Every registration and removal assigns its target to its key, or throws. -/
theorem op_assigns (laws : RegistryLaws Q K) (hw : RegistrySound K w) (e : RegistryEvent F) :
    Assigns K w (e.key (Q := Q) K) e.registers (e.op K w) := by
  cases e with
  | createFunction name argc source =>
    cases source with
    | function fptr =>
      apply createFunctionV2_plain_assigns laws hw name argc (.functionPointer fptr)
        (some .functionCallPtr) (fun h => rfl)
      · exact createFunctionRegister_final name argc _ _ _ w
      · rw [RegistryEvent.op, createFunction, createFunctionRegister,
          callRegistry_checked_outcome]
    | callable f fault =>
      apply newCallable_assigns f fault
      apply createFunctionRegister_new_assigns laws hw f name argc
      intro h hcell
      simp [Entry.target, hcell, Source.callee]
  | createFunctionStatic name argc Fun =>
    apply createFunctionV2_plain_assigns laws hw name argc .null
      (some (.functionCallStaticfptr Fun)) (fun h => rfl)
    · exact createFunctionRegister_final name argc _ _ _ w
    · rw [RegistryEvent.op, createFunctionStatic, createFunctionRegister,
        callRegistry_checked_outcome]
  | createAggregate name nargs adat fault =>
    apply newCallable_assigns adat fault
    apply createFunctionRegister_new_assigns laws hw adat name nargs
    intro h hcell
    simp [Entry.target, hcell]
  | createCollation name source =>
    cases source with
    | function fptr =>
      apply createCollationV2_plain_assigns laws hw name (.functionPointer fptr)
        (some .collationComparePtr) (fun h => rfl)
      · rw [RegistryEvent.op, createCollation, createCollationRegister_final,
          if_neg (fun h => h.2 rfl)]
      · exact createCollationRegister_outcome name _ _ _ w
    | callable f fault =>
      apply newCallable_assigns f fault
      apply createCollationRegister_new_assigns laws hw f name
      intro h hcell
      simp [Entry.target, hcell, Source.callee]
  | createCollationStatic name Fun =>
    apply createCollationV2_plain_assigns laws hw name .null
      (some (.collationCompareStaticfptr Fun)) (fun h => rfl)
    · rw [RegistryEvent.op, createCollationStatic, createCollationRegister_final,
        if_neg (fun h => h.2 rfl)]
    · exact createCollationRegister_outcome name _ _ _ w
  | removeFunction name argc => exact removeFunction_assigns laws hw name argc
  | removeAggregate name argc => exact removeFunction_assigns laws hw name argc
  | removeCollation name =>
    apply createCollationV2_plain_assigns laws hw name .null none (fun h => rfl)
    · simp only [RegistryEvent.op, removeCollation, callRegistry, Prog.bind_run, Prog.effect_run,
        Exec.andThen_ok, Exec.prepend_final]
      split <;> rfl
    · rw [RegistryEvent.op, removeCollation, callRegistry_checked_outcome]

end Operations

section Runs

variable [DecidableEq K] [api : RegistryApi Q K]

private theorem run_store (hist : List (RegistryEvent F × Except Raised Unit))
    (t : K → Option (Target F)) :
    run (RegistryEvent.store K Q) t hist = run assign t (RegistryEvent.succeeded K Q hist) := by
  induction hist generalizing t with
  | nil => rfl
  | cons p hist ih =>
    obtain ⟨e, _ | _⟩ := p
    · exact ih t
    · exact ih (Function.update t (e.key (Q := Q) K) e.registers)

theorem store_step (laws : RegistryLaws Q K) (w : RegistryWorld Q F) (e : RegistryEvent F)
    (hw : RegistrySound K w) :
    targetAt K ((RegistryEvent.machine K).next w e) =
      RegistryEvent.store K Q (targetAt K w) (e, (RegistryEvent.machine K w e).1) := by
  change targetAt K (e.op K w).final = RegistryEvent.store K Q _ (e, (e.op K w).outcome)
  rcases op_assigns laws hw e with ⟨hout, htarget⟩ | ⟨raised, hout, htarget⟩
  · rw [hout, htarget, RegistryEvent.store]
  · rw [hout, htarget, RegistryEvent.store]

omit [DecidableEq K] in
theorem registrySound_fresh {q : Q} (hq : ∀ k : K, api.entry q k = none) :
    RegistrySound K (.fresh q : RegistryWorld Q F) := by
  have hnone : ∀ k : K, api.entry (RegistryWorld.fresh q : RegistryWorld Q F).sqlite k = none := hq
  refine ⟨Heap.Owned.init _ fun k => ?_, fun k e he => ?_, rfl⟩
  · rw [ownedBy, hnone k, Option.bind_none]
  · cases (hnone k).symm.trans he

theorem targetAt_run (laws : RegistryLaws Q K) {q : Q} (hq : ∀ k : K, api.entry q k = none)
    (es : List (RegistryEvent F)) (k : K) :
    targetAt K (run (RegistryEvent.exec K) (.fresh q) es) k = lastTarget q es k := by
  let start : RegistryWorld Q F := .fresh q
  have hnone : ∀ k : K, api.entry start.sqlite k = none := hq
  have hstart : RegistrySound K start ∧ targetAt K start = fun _ => none := by
    refine ⟨registrySound_fresh hq, funext fun k => ?_⟩
    rw [targetAt, hnone k, Option.bind_none]
  have hstep : ∀ (w : RegistryWorld Q F) t e, RegistrySound K w ∧ targetAt K w = t →
      RegistrySound K ((RegistryEvent.machine K).next w e) ∧
        targetAt K ((RegistryEvent.machine K).next w e) =
          RegistryEvent.store K Q t (e, (RegistryEvent.machine K w e).1) := by
    rintro w t e ⟨hsound, rfl⟩
    exact ⟨exec_registrySound laws w e hsound, store_step laws w e hsound⟩
  have hfollows := Machine.follows_run hstep hstart es
  change targetAt K (run (RegistryEvent.machine K).next start es) k = _
  rw [hfollows.2, run_store, run_assign, lastTarget]
  rcases lastAssigned k _ with _ | target <;> rfl

end Runs

/-! ## What is registered has a target -/

/-- The call has put an entry under `k`, or taken it away, or has thrown and left the entries. -/
def Enters (K : Type) [api : RegistryApi Q K] [DecidableEq K] (w : RegistryWorld Q F) (k : K)
    (present : Bool) (x : Exec (RegistryWorld Q F) Raised Unit) : Prop :=
  x.outcome = .ok () ∧ (∃ e, api.entry x.final.sqlite = Function.update (api.entry w.sqlite) k e ∧
      e.isSome = present) ∨
    ∃ e, x.outcome = .error e ∧ api.entry x.final.sqlite = api.entry w.sqlite

section Entries

variable [DecidableEq K] [api : RegistryApi Q K] {w : RegistryWorld Q F}

omit [DecidableEq K] api in
private theorem applyReply_sqlite (w : RegistryWorld Q F) (r : Reply Q) :
    (applyReply w r).sqlite = r.state := by
  have hfold : ∀ (ds : List AppData) (v : RegistryWorld Q F),
      (ds.foldl appdataDestroyObject v).sqlite = v.sqlite := by
    intro ds
    induction ds with
    | nil => exact fun _ => rfl
    | cons d ds ih =>
      intro v
      rw [List.foldl_cons, ih]
      cases d <;> rfl
  exact hfold r.destructed _

private theorem enters_of_reply {k : K} {e : Option Entry} {r : Reply Q}
    {x : Exec (RegistryWorld Q F) Raised Unit} (hok : r.Registers w.sqlite k e)
    {destructed : List AppData} (hfailed : r.Keeps K w.sqlite destructed)
    (hsqlite : x.final.sqlite = r.state)
    (hout : x.outcome = if r.rv = SQLITE_OK then .ok () else
      .error (.exception (staticError r.rv))) : Enters K w k e.isSome x := by
  by_cases hrv : r.rv = SQLITE_OK
  · rw [if_pos hrv] at hout
    exact Or.inl ⟨hout, e, hsqlite ▸ (hok hrv).1, rfl⟩
  · rw [if_neg hrv] at hout
    exact Or.inr ⟨_, hout, hsqlite ▸ (hfailed hrv).1⟩

private theorem createFunctionRegister_enters (laws : RegistryLaws Q K) (w : RegistryWorld Q F)
    (name : CStr) (argc : Int) (data : AppData) (callback : Callback) (destroy : Destroy) :
    Enters K w (api.functionKey name argc) true
      (createFunctionRegister K name argc data callback destroy w) := by
  apply enters_of_reply (e := some ⟨data, callback, destroy⟩)
    (laws.function_ok w.sqlite name argc data (some callback) destroy)
    (laws.function_failed w.sqlite name argc data (some callback) destroy)
  · rw [createFunctionRegister_final, applyReply_sqlite]
  · rw [createFunctionRegister, callRegistry_checked_outcome]

private theorem createCollationRegister_enters (laws : RegistryLaws Q K) (w : RegistryWorld Q F)
    (name : CStr) (data : AppData) (callback : Callback) (destroy : Destroy) :
    Enters K w (api.collationKey name) true
      (createCollationRegister K name data callback destroy w) := by
  apply enters_of_reply (e := some ⟨data, callback, destroy⟩)
    (laws.collation_ok w.sqlite name data (some callback) destroy)
    (laws.collation_failed w.sqlite name data (some callback) destroy)
  · rw [createCollationRegister_final, ← applyReply_sqlite w]
    dsimp only
    split
    · cases data <;> rfl
    · rfl
  · exact createCollationRegister_outcome name data callback destroy w

private theorem newCallable_enters {k : K} {present : Bool} (callable : F) (fault : Option Exn)
    {f : AppData → Cxx (RegistryWorld Q F) Unit}
    (hf : ∀ (v : RegistryWorld Q F) data, Enters K v k present (f data v)) :
    Enters K w k present ((newCallable callable fault >>= f) w) := by
  cases fault with
  | some e => exact Or.inr ⟨.exception e, rfl, rfl⟩
  | none =>
    have hnew : Prog.Ends (newCallable callable none >>= f) w _ _ :=
      (Prog.Ends.effect _ w).bind ⟨rfl, rfl⟩
    rw [Enters, hnew.outcome, hnew.final]
    exact hf { w with callables := w.callables.alloc callable } _

private theorem removeFunction_enters (laws : RegistryLaws Q K) (w : RegistryWorld Q F)
    (name : CStr)
    (argc : Int) : Enters K w (api.functionKey name argc) false (removeFunction K name argc w) := by
  apply enters_of_reply (e := none) (laws.function_ok w.sqlite name argc .null none .null)
    (laws.function_failed w.sqlite name argc .null none .null)
  · simp only [removeFunction, callRegistry, Prog.bind_run, Prog.effect_run, Exec.andThen_ok,
      Exec.prepend_final]
    rw [← applyReply_sqlite w]
    split <;> rfl
  · rw [removeFunction, callRegistry_checked_outcome]

private theorem removeCollation_enters (laws : RegistryLaws Q K) (w : RegistryWorld Q F)
    (name : CStr) :
    Enters K w (api.collationKey name) false (removeCollation K name w) := by
  apply enters_of_reply (e := none) (laws.collation_ok w.sqlite name .null none .null)
    (laws.collation_failed w.sqlite name .null none .null)
  · simp only [removeCollation, callRegistry, Prog.bind_run, Prog.effect_run, Exec.andThen_ok,
      Exec.prepend_final]
    rw [← applyReply_sqlite w]
    split <;> rfl
  · rw [removeCollation, callRegistry_checked_outcome]

private theorem op_enters (laws : RegistryLaws Q K) (w : RegistryWorld Q F) (e : RegistryEvent F) :
    Enters K w (e.key (Q := Q) K) e.registers.isSome (e.op K w) := by
  cases e with
  | createFunction name argc source =>
    cases source with
    | function fptr => exact createFunctionRegister_enters laws w name argc _ _ _
    | callable f fault =>
      exact newCallable_enters f fault fun v data =>
        createFunctionRegister_enters laws v name argc data _ _
  | createFunctionStatic name argc Fun => exact createFunctionRegister_enters laws w name argc _ _ _
  | createAggregate name nargs adat fault =>
    exact newCallable_enters adat fault fun v data =>
      createFunctionRegister_enters laws v name nargs data _ _
  | createCollation name source =>
    cases source with
    | function fptr => exact createCollationRegister_enters laws w name _ _ _
    | callable f fault =>
      exact newCallable_enters f fault fun v data =>
        createCollationRegister_enters laws v name data _ _
  | createCollationStatic name Fun => exact createCollationRegister_enters laws w name _ _ _
  | removeFunction name argc => exact removeFunction_enters laws w name argc
  | removeAggregate name argc => exact removeFunction_enters laws w name argc
  | removeCollation name => exact removeCollation_enters laws w name

/-- Where there is an entry there is something to call. -/
def EntriesHaveTargets (K : Type) [api : RegistryApi Q K] (w : RegistryWorld Q F) : Prop :=
  ∀ k : K, (targetAt K w k).isSome = (api.entry w.sqlite k).isSome

theorem op_entriesHaveTargets (laws : RegistryLaws Q K) (e : RegistryEvent F)
    (hw : RegistrySound K w) (h : EntriesHaveTargets K w) :
    EntriesHaveTargets K (e.exec K w) := by
  intro k
  rw [RegistryEvent.exec]
  rcases op_assigns laws hw e with ⟨hout, htarget⟩ | ⟨raised, hout, htarget⟩
  · rcases op_enters laws w e with ⟨-, e', hentry, hpresent⟩ | ⟨raised, hout', -⟩
    · rw [htarget, hentry]
      by_cases hk : k = e.key (Q := Q) K
      · subst hk
        rw [Function.update_self, Function.update_self, hpresent]
      · rw [Function.update_of_ne hk, Function.update_of_ne hk, h k]
    · cases hout.symm.trans hout'
  · rcases op_enters laws w e with ⟨hout', -⟩ | ⟨-, -, hentry⟩
    · cases hout.symm.trans hout'
    · rw [htarget, hentry, h k]

theorem run_registrySound (laws : RegistryLaws Q K) (hw : RegistrySound K w)
    (h : EntriesHaveTargets K w) (es : List (RegistryEvent F)) :
    RegistrySound K (run (RegistryEvent.exec K) w es) ∧
      EntriesHaveTargets K (run (RegistryEvent.exec K) w es) := by
  have hstep : ∀ (w : RegistryWorld Q F) (e : RegistryEvent F),
      RegistrySound K w ∧ EntriesHaveTargets K w →
        RegistrySound K (e.exec K w) ∧ EntriesHaveTargets K (e.exec K w) :=
    fun w e hw => ⟨exec_registrySound laws w e hw.1, op_entriesHaveTargets laws e hw.1 hw.2⟩
  exact (always_of_preserved hstep ⟨hw, h⟩ es).last

omit [DecidableEq K] in
theorem entriesHaveTargets_fresh {q : Q} (hq : ∀ k : K, api.entry q k = none) :
    EntriesHaveTargets K (.fresh q : RegistryWorld Q F) := by
  intro k
  have hnone : api.entry (RegistryWorld.fresh q : RegistryWorld Q F).sqlite k = none := hq k
  rw [targetAt, hnone, Option.bind_none]
  rfl

end Entries

/-- After any registrations and removals, failing or not, each key has what the last one for it
registered that did not throw. -/
theorem targets_lastAssigned [DecidableEq K] [api : RegistryApi Q K] (laws : RegistryLaws Q K)
    {q : Q} (hq : ∀ k : K, api.entry q k = none) (es : List (RegistryEvent F)) (k : K) :
    targetAt K (run (RegistryEvent.exec K) (.fresh q) es) k = lastTarget q es k :=
  targetAt_run laws hq es k

/-- A function is replaced, an aggregate under more arguments than there can be is refused, and the
collation of the same name has its own key. -/
theorem targets_lastAssigned_replaced :
    let name : CStr := ⟨[102], by decide, by decide⟩
    let es : List (RegistryEvent Nat) :=
      [.createFunction name 1 (.callable 3 none), .createCollation name (.function 5),
        .createFunction name 1 (.callable 7 none), .createAggregate name 128 9 none]
    let w := run (RegistryEvent.exec (CStr × Option Int)) (.fresh (∅ : EntryTable)) es
    targetAt (CStr × Option Int) w (name, some 1) = some (.scalar (.object 7)) ∧
      targetAt (CStr × Option Int) w (name, none) = some (.collation (.function 5)) := by
  intro name es w
  have htarget := targets_lastAssigned EntryTable.registryLaws (q := (∅ : EntryTable))
    (fun _ => rfl) es
  exact ⟨(htarget (name, some 1)).trans rfl, (htarget (name, none)).trans rfl⟩

/-! ## Calls from SQL -/

section Calls

variable {V A R : Type} (code : Nat → (n : Nat) × Callable V A R n)
  (scalarOf : F → Option ((n : Nat) × Callable V A R n))

/-- The callable behind a callee, with its number of parameters. -/
def Callee.callable : Callee F → Option ((n : Nat) × Callable V A R n)
  | .object f => scalarOf f
  | .function fptr | .static fptr => some (code fptr)

/-- The number of arguments registered is the one of the callable's type. -/
def RegistryEvent.Typed : RegistryEvent F → Prop
  | .createFunction _ argc source =>
    ∃ f, source.callee.callable code scalarOf = some f ∧ argc = f.1
  | .createFunctionStatic _ argc Fun => argc = (code Fun).1
  | _ => True

def AppData.callable (h : Heap F) : AppData → Option ((n : Nat) × Callable V A R n)
  | .object id => (h.cell id).bind scalarOf
  | .functionPointer fptr => some (code fptr)
  | .null => none

def callEntry (h : Heap F) (order : (n : Nat) → EvalOrder n) (argv : List V) :
    Entry → Option (Except Raised Unit × List (Effect A R))
  | ⟨data, .functionCallPtr, _⟩ =>
    (data.callable code scalarOf h).map fun ⟨n, f⟩ =>
      let r := functionCallPtr (order n) argv ⟨some f, []⟩
      (r.outcome, r.final.trace)
  | ⟨_, .functionCallStaticfptr fptr, _⟩ =>
    let r := functionCallStaticfptr (code fptr).2 (order (code fptr).1) argv ⟨none, []⟩
    some (r.outcome, r.final.trace)
  | _ => none

/-- SQL calls `name` with the values `argv`, if there is such a function. -/
def callFunction (K : Type) [api : RegistryApi Q K] (w : RegistryWorld Q F)
    (order : (n : Nat) → EvalOrder n) (name : CStr) (argv : List V) :
    Option (Except Raised Unit × List (Effect A R)) :=
  (api.entry w.sqlite (api.functionKey (Q := Q) name argv.length)).bind
    (callEntry code scalarOf w.callables order argv)

private theorem callEntry_scalar {h : Heap F} {e : Entry} {callee : Callee F}
    (htarget : e.target h = some (.scalar callee)) {n : Nat} {f : Callable V A R n}
    (hf : callee.callable code scalarOf = some ⟨n, f⟩) (order : (n : Nat) → EvalOrder n)
    (argv : List V) :
    ∃ trace, callEntry code scalarOf h order argv e = some (.ok (), trace) ∧
      DispatchMeets f argv trace := by
  obtain ⟨trace, hmeets, hends⟩ := staticfptr_ends f (order n) argv
  have hptr : functionCallPtr (order n) argv ⟨some f, []⟩ =
      functionCallStaticfptr f (order n) argv ⟨some f, []⟩ := functionCallPtr_eq _ argv rfl
  have hcalled : ∀ world : Option (Callable V A R n),
      (functionCallStaticfptr f (order n) argv ⟨world, []⟩).outcome = .ok () ∧
        (functionCallStaticfptr f (order n) argv ⟨world, []⟩).final.trace = trace := by
    intro world
    rw [(hends _).outcome, (hends _).final]
    exact ⟨rfl, List.nil_append trace⟩
  refine ⟨trace, ?_, hmeets⟩
  obtain ⟨data, callback, destroy⟩ := e
  cases callback with
  | functionCallPtr =>
    have hfound : data.callable code scalarOf h = some ⟨n, f⟩ := by
      cases data with
      | object id =>
        obtain ⟨g, hcell, hg⟩ := Option.map_eq_some_iff.mp htarget
        cases hg
        rw [AppData.callable, hcell]
        exact hf
      | functionPointer fptr =>
        cases htarget
        exact hf
      | null => cases htarget
    rw [callEntry, hfound, Option.map_some]
    simp only [hptr, (hcalled _).1, (hcalled _).2]
  | functionCallStaticfptr fptr =>
    have hcallee : callee = .static fptr := by
      cases data <;> cases htarget <;> rfl
    subst hcallee
    have hcode : code fptr = ⟨n, f⟩ := Option.some.inj hf
    rw [callEntry, hcode, (hcalled _).1, (hcalled _).2]
  | aggregateCalls =>
    cases data with
    | object id =>
      obtain ⟨g, -, hg⟩ := Option.map_eq_some_iff.mp htarget
      cases hg
    | functionPointer fptr => cases htarget
    | null => cases htarget
  | collationComparePtr =>
    cases data with
    | object id =>
      obtain ⟨g, -, hg⟩ := Option.map_eq_some_iff.mp htarget
      cases hg
    | functionPointer fptr => cases htarget
    | null => cases htarget
  | collationCompareStaticfptr fptr => cases data <;> cases htarget

private theorem callEntry_none {h : Heap F} {e : Entry} (htarget : e.target h = none)
    (order : (n : Nat) → EvalOrder n) (argv : List V) :
    callEntry code scalarOf h order argv e = none := by
  obtain ⟨data, callback, destroy⟩ := e
  cases callback with
  | functionCallPtr =>
    cases data with
    | object id =>
      have hcell : h.cell id = none := Option.map_eq_none_iff.mp htarget
      rw [callEntry, AppData.callable, hcell]
      rfl
    | functionPointer fptr => cases htarget
    | null => rfl
  | functionCallStaticfptr fptr => cases data <;> cases htarget
  | _ => rfl

variable [DecidableEq K] [api : RegistryApi Q K]

private theorem arity_of_lastAssigned
    (harity : ∀ name name' argc argc',
      api.functionKey name argc = api.functionKey name' argc' → argc = argc')
    (hkinds : ∀ name argc name', api.functionKey name argc ≠ api.collationKey name')
    {q : Q} {es : List (RegistryEvent F)} (htyped : ∀ e ∈ es, e.Typed code scalarOf)
    {name : CStr} {argc : Int} {callee : Callee F}
    (hlast : lastTarget q es (api.functionKey (Q := Q) name argc) = some (.scalar callee)) :
    ∃ f, callee.callable code scalarOf = some f ∧ argc = f.1 := by
  have hmem := mem_of_lastAssigned (Option.join_eq_some_iff.mp hlast)
  obtain ⟨⟨e, out⟩, hhist, hsucceeded⟩ := List.mem_filterMap.mp hmem
  have he := htyped e (Machine.mem_of_mem_history hhist)
  rcases out with raised | _
  · cases hsucceeded
  · obtain ⟨hkey, hregisters⟩ := Prod.mk.inj (Option.some.inj hsucceeded)
    cases e with
    | createFunction name' argc' source =>
      obtain rfl := harity _ _ _ _ hkey
      cases hregisters
      exact he
    | createFunctionStatic name' argc' Fun =>
      obtain rfl := harity _ _ _ _ hkey
      cases hregisters
      exact ⟨code Fun, rfl, he⟩
    | createCollation name' source => exact (hkinds name argc name' hkey.symm).elim
    | createCollationStatic name' Fun => exact (hkinds name argc name' hkey.symm).elim
    | _ => cases hregisters

theorem callFunction_of_last (laws : RegistryLaws Q K) {q : Q}
    (hq : ∀ k : K, api.entry q k = none) (es : List (RegistryEvent F))
    (order : (n : Nat) → EvalOrder n) (name : CStr) (argv : List V) {callee : Callee F}
    (hlast : lastTarget q es (api.functionKey (Q := Q) name argv.length) = some (.scalar callee))
    {n : Nat} {f : Callable V A R n} (hf : callee.callable code scalarOf = some ⟨n, f⟩) :
    let w := run (RegistryEvent.exec K) (.fresh q) es
    ∃ trace, callFunction code scalarOf K w order name argv = some (.ok (), trace) ∧
      DispatchMeets f argv trace := by
  intro w
  have htarget := (targetAt_run laws hq es (api.functionKey (Q := Q) name argv.length)).trans hlast
  rw [targetAt] at htarget
  obtain ⟨e, hentry, he⟩ := Option.bind_eq_some_iff.mp htarget
  obtain ⟨trace, htrace, hmeets⟩ := callEntry_scalar code scalarOf he hf order argv
  refine ⟨trace, ?_, hmeets⟩
  rw [callFunction, hentry, Option.bind_some]
  exact htrace

/-- SQL's call of a name with some number of values runs the callable of the last registration for
the two that did not throw: it has as many parameters, so it is called once on the converted values
unless a conversion throws.  Without one there is no function to call. -/
theorem sqlCall_reaches_last (laws : RegistryLaws Q K)
    (harity : ∀ name name' argc argc',
      api.functionKey name argc = api.functionKey name' argc' → argc = argc')
    (hkinds : ∀ name argc name', api.functionKey name argc ≠ api.collationKey name')
    {q : Q} (hq : ∀ k : K, api.entry q k = none) {es : List (RegistryEvent F)}
    (htyped : ∀ e ∈ es, e.Typed code scalarOf) (order : (n : Nat) → EvalOrder n) (name : CStr)
    (argv : List V) :
    let w := run (RegistryEvent.exec K) (.fresh q) es
    let call := callFunction code scalarOf K w order name argv
    let last := lastTarget q es (api.functionKey (Q := Q) name argv.length)
    (∀ callee, last = some (.scalar callee) →
        ∃ n f trace, callee.callable code scalarOf = some ⟨n, f⟩ ∧ argv.length = n ∧
          call = some (.ok (), trace) ∧ DispatchMeets f argv trace) ∧
      (last = none → call = none) := by
  intro w call last
  constructor
  · intro callee hlast
    obtain ⟨⟨n, f⟩, hf, hargc⟩ := arity_of_lastAssigned code scalarOf harity hkinds htyped hlast
    obtain ⟨trace, htrace, hmeets⟩ :=
      callFunction_of_last code scalarOf laws hq es order name argv hlast hf
    exact ⟨n, f, trace, hf, Int.ofNat.inj hargc, htrace, hmeets⟩
  · intro hlast
    have htarget : targetAt K w (api.functionKey (Q := Q) name argv.length) = none :=
      (targetAt_run laws hq es _).trans hlast
    rw [targetAt] at htarget
    change Option.bind _ _ = none
    rcases hentry : api.entry w.sqlite (api.functionKey (Q := Q) name argv.length) with _ | e
    · rfl
    · rw [hentry, Option.bind_some] at htarget
      exact callEntry_none code scalarOf htarget order argv

end Calls

/-- The second function of the name is called, after a registration that ran out of memory. -/
theorem sqlCall_reaches_last_replaced :
    let name : CStr := ⟨[102], by decide, by decide⟩
    let addOne : (n : Nat) × Callable Nat Nat Nat n :=
      ⟨1, fun _ v => .ok v, fun args => .ok (args.head + 1)⟩
    let double : (n : Nat) × Callable Nat Nat Nat n :=
      ⟨1, fun _ v => .ok v, fun args => .ok (2 * args.head)⟩
    let es : List (RegistryEvent ((n : Nat) × Callable Nat Nat Nat n)) :=
      [.createFunction name 1 (.callable addOne none),
        .createFunction name 1 (.callable double none),
        .createFunction name 1 (.callable addOne (some .badAlloc))]
    let w := run (RegistryEvent.exec (CStr × Option Int)) (.fresh (∅ : EntryTable)) es
    ∃ n f trace, some double = some ⟨n, f⟩ ∧ [21].length = n ∧
      callFunction (fun _ => addOne) some (CStr × Option Int) w EvalOrder.leftToRight name [21] =
        some (.ok (), trace) ∧ DispatchMeets f [21] trace := by
  intro name addOne double es w
  have hkeys : ∀ (name name' : CStr) (argc argc' : Int),
      ((name, some argc) : CStr × Option Int) = (name', some argc') → argc = argc' :=
    fun _ _ _ _ heq => Option.some.inj (Prod.mk.inj heq).2
  have htyped : ∀ e ∈ es, e.Typed (fun _ => addOne) some := by
    intro e he
    simp only [es, List.mem_cons, List.not_mem_nil, or_false] at he
    rcases he with rfl | rfl | rfl
    · exact ⟨addOne, rfl, rfl⟩
    · exact ⟨double, rfl, rfl⟩
    · exact ⟨addOne, rfl, rfl⟩
  exact (sqlCall_reaches_last (fun _ => addOne) some EntryTable.registryLaws hkeys
    (fun _ _ _ heq => by cases (Prod.mk.inj heq).2) (fun _ => rfl) htyped _ name [21]).1
    (.object double) rfl

end Sqxx
