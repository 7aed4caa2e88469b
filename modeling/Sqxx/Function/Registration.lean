import Sqxx.Framework.Ownership
import Sqxx.Framework.Runs
import Sqxx.Sqlite.Functions
import Mathlib.Data.List.AList

/-!
# Registration of functions, aggregates and collations

A callable object is copied to the heap and the copy is handed to the library together with a
destructor; a plain function pointer is handed over as it is, without one.
-/

namespace Sqxx
open Framework

/-- The registry of a handle and the callables the wrapper has allocated. `strayDeletes` counts
deletions of what is no heap object. -/
structure RegistryWorld (Q F : Type) where
  sqlite : Q
  callables : Heap F
  strayDeletes : Nat

variable {Q K F : Type}

def appdataDestroyObject (w : RegistryWorld Q F) : AppData → RegistryWorld Q F
  | .object id => { w with callables := w.callables.free id }
  | _ => { w with strayDeletes := w.strayDeletes + 1 }

def applyReply (w : RegistryWorld Q F) (r : Reply Q) : RegistryWorld Q F :=
  r.destructed.foldl appdataDestroyObject { w with sqlite := r.state }

/-- A call into the library, with the destructors it calls before it returns. -/
def callRegistry (f : Q → Reply Q) : Cxx (RegistryWorld Q F) Int :=
  Prog.effect fun w => ((f w.sqlite).rv, applyReply w (f w.sqlite))

/-- `new CallableType(callable)`; copying or allocating may throw. -/
def newCallable (callable : F) (fault : Option Exn) : Cxx (RegistryWorld Q F) AppData :=
  match fault with
  | some e => Cxx.throw e
  | none => Prog.effect fun w =>
      (.object w.callables.next, { w with callables := w.callables.alloc callable })

/-- What a user registers: a function pointer, or an object that is copied. -/
inductive Source (F : Type)
  | function (fptr : Nat)
  | callable (callable : F) (fault : Option Exn)

section Register

variable (K) [api : RegistryApi Q K]

def createFunctionRegister (name : CStr) (argc : Int) (data : AppData) (callback : Callback)
    (destroy : Destroy) : Cxx (RegistryWorld Q F) Unit := do
  let rv ← callRegistry fun q => api.createFunctionV2 q name argc data (some callback) destroy
  -- on failure the library has called the destructor
  if rv ≠ SQLITE_OK then Cxx.throw (staticError rv) else pure ()

def createAggregateRegister (name : CStr) (nargs : Int) (adat : AppData) (callback : Callback)
    (destroy : Destroy) : Cxx (RegistryWorld Q F) Unit := do
  let rv ← callRegistry fun q => api.createFunctionV2 q name nargs adat (some callback) destroy
  if rv ≠ SQLITE_OK then Cxx.throw (staticError rv) else pure ()

def createCollationRegister (name : CStr) (data : AppData) (callback : Callback)
    (destroy : Destroy) : Cxx (RegistryWorld Q F) Unit := do
  let rv ← callRegistry fun q => api.createCollationV2 q name data (some callback) destroy
  if rv ≠ SQLITE_OK then
    -- here it has not
    if destroy ≠ .null then Prog.perform (appdataDestroyObject · data) else pure ()
    Cxx.throw (staticError rv)
  else
    pure ()

def createFunction (name : CStr) (argc : Int) (source : Source F) :
    Cxx (RegistryWorld Q F) Unit :=
  match source with
  | .function fptr =>
    createFunctionRegister K name argc (.functionPointer fptr) .functionCallPtr .null
  | .callable callable fault => do
    let cptr ← newCallable callable fault
    createFunctionRegister K name argc cptr .functionCallPtr .appdataDestroyObject

def createFunctionStatic (name : CStr) (argc : Int) (Fun : Nat) : Cxx (RegistryWorld Q F) Unit :=
  createFunctionRegister K name argc .null (.functionCallStaticfptr Fun) .null

def createAggregate (name : CStr) (nargs : Int) (adat : F) (fault : Option Exn) :
    Cxx (RegistryWorld Q F) Unit := do
  let adat ← newCallable adat fault
  createAggregateRegister K name nargs adat .aggregateCalls .appdataDestroyObject

def createCollation (name : CStr) (source : Source F) : Cxx (RegistryWorld Q F) Unit :=
  match source with
  | .function fptr =>
    createCollationRegister K name (.functionPointer fptr) .collationComparePtr .null
  | .callable callable fault => do
    let cptr ← newCallable callable fault
    createCollationRegister K name cptr .collationComparePtr .appdataDestroyObject

def createCollationStatic (name : CStr) (Fun : Nat) : Cxx (RegistryWorld Q F) Unit :=
  createCollationRegister K name .null (.collationCompareStaticfptr Fun) .null

def removeFunction (name : CStr) (argc : Int) : Cxx (RegistryWorld Q F) Unit := do
  let rv ← callRegistry fun q => api.createFunctionV2 q name argc .null none .null
  if rv ≠ SQLITE_OK then Cxx.throw (staticError rv) else pure ()

def removeAggregate (name : CStr) (argc : Int) : Cxx (RegistryWorld Q F) Unit :=
  removeFunction K name argc

def removeCollation (name : CStr) : Cxx (RegistryWorld Q F) Unit := do
  let rv ← callRegistry fun q => api.createCollationV2 q name .null none .null
  if rv ≠ SQLITE_OK then Cxx.throw (staticError rv) else pure ()

end Register

/-- The end of the handle: the library calls the destructors that are left. -/
def closeRegistry (K : Type) [api : RegistryApi Q K] (w : RegistryWorld Q F) : RegistryWorld Q F :=
  ((api.close w.sqlite).map (·.2)).foldl appdataDestroyObject w

inductive RegistryEvent (F : Type)
  | createFunction (name : CStr) (argc : Int) (source : Source F)
  | createFunctionStatic (name : CStr) (argc : Int) (Fun : Nat)
  | createAggregate (name : CStr) (nargs : Int) (adat : F) (fault : Option Exn)
  | createCollation (name : CStr) (source : Source F)
  | createCollationStatic (name : CStr) (Fun : Nat)
  | removeFunction (name : CStr) (argc : Int)
  | removeAggregate (name : CStr) (argc : Int)
  | removeCollation (name : CStr)

namespace RegistryEvent

def op (K : Type) [RegistryApi Q K] : RegistryEvent F → Cxx (RegistryWorld Q F) Unit
  | .createFunction name argc source => Sqxx.createFunction K name argc source
  | .createFunctionStatic name argc Fun => Sqxx.createFunctionStatic K name argc Fun
  | .createAggregate name nargs adat fault => Sqxx.createAggregate K name nargs adat fault
  | .createCollation name source => Sqxx.createCollation K name source
  | .createCollationStatic name Fun => Sqxx.createCollationStatic K name Fun
  | .removeFunction name argc => Sqxx.removeFunction K name argc
  | .removeAggregate name argc => Sqxx.removeAggregate K name argc
  | .removeCollation name => Sqxx.removeCollation K name

def exec (K : Type) [RegistryApi Q K] (w : RegistryWorld Q F) (e : RegistryEvent F) :
    RegistryWorld Q F :=
  (op K e w).final

end RegistryEvent

def Entry.owned : Entry → Option Nat
  | ⟨.object id, _, .appdataDestroyObject⟩ => some id
  | _ => none

/-- A destructor comes with a heap object and a heap object with a destructor, and a callback that
looks at its data has some. -/
def Entry.Proper : Entry → Prop
  | ⟨.object _, _, destroy⟩ => destroy = .appdataDestroyObject
  | ⟨.functionPointer _, _, destroy⟩ => destroy = .null
  | ⟨.null, callback, destroy⟩ => destroy = .null ∧ ¬ callback.UsesData

def ownedBy [api : RegistryApi Q K] (q : Q) (k : K) : Option Nat := (api.entry q k).bind Entry.owned

/-- Every callable is owned by the one entry it is registered under. -/
structure RegistrySound (K : Type) [api : RegistryApi Q K] (w : RegistryWorld Q F) : Prop where
  owned : w.callables.Owned (ownedBy (K := K) w.sqlite)
  proper : ∀ (k : K) e, api.entry w.sqlite k = some e → e.Proper
  stray : w.strayDeletes = 0

theorem foldl_destroy_objects (w : RegistryWorld Q F) (ids : List Nat) :
    (ids.map .object).foldl appdataDestroyObject w =
      { w with callables := w.callables.freeAll ids } := by
  induction ids generalizing w with
  | nil => rfl
  | cons id ids ih =>
    rw [List.map_cons, List.foldl_cons, ih]
    rfl

theorem destructorCalls_of_proper {e : Option Entry} (he : ∀ e', e = some e' → e'.Proper) :
    destructorCalls e = (e.bind Entry.owned).toList.map .object := by
  rcases e with _ | ⟨data, callback, destroy⟩
  · rfl
  · have hproper := he _ rfl
    cases data with
    | object id =>
      cases destroy with
      | null => cases hproper
      | appdataDestroyObject => rfl
    | functionPointer fptr =>
      cases destroy with
      | null => rfl
      | appdataDestroyObject => cases hproper
    | null =>
      cases destroy with
      | null => rfl
      | appdataDestroyObject => cases hproper.1

section Calls

variable [DecidableEq K] [api : RegistryApi Q K] {w : RegistryWorld Q F} {k : K} {r : Reply Q}

private theorem ownedBy_registers {q : Q} {e : Option Entry}
    (hentry : api.entry r.state = Function.update (api.entry q) k e) :
    ownedBy (K := K) r.state = Function.update (ownedBy q) k (e.bind Entry.owned) := by
  funext l
  by_cases hl : l = k
  · subst hl
    rw [ownedBy, hentry, Function.update_self, Function.update_self]
  · rw [ownedBy, hentry, Function.update_of_ne hl, Function.update_of_ne hl, ownedBy]

private theorem proper_registers {q : Q} {e : Option Entry}
    (hentry : api.entry r.state = Function.update (api.entry q) k e)
    (hq : ∀ (l : K) e', api.entry q l = some e' → e'.Proper)
    (he : ∀ e', e = some e' → e'.Proper) (l : K) (e' : Entry)
    (hl : api.entry r.state l = some e') : e'.Proper := by
  rw [hentry] at hl
  by_cases hlk : l = k
  · subst hlk
    rw [Function.update_self] at hl
    exact he e' hl
  · rw [Function.update_of_ne hlk] at hl
    exact hq l e' hl

private theorem sound_registers_new (hw : RegistrySound K w) (callable : F) {callback : Callback}
    (hr : r.Registers w.sqlite k
      (some ⟨.object w.callables.next, callback, .appdataDestroyObject⟩))
    (hok : r.rv = SQLITE_OK) :
    RegistrySound K
      (applyReply { w with callables := w.callables.alloc callable } r) := by
  obtain ⟨hentry, hdestructed⟩ := hr hok
  rw [applyReply, hdestructed, destructorCalls_of_proper (hw.proper k), foldl_destroy_objects]
  constructor
  · rw [ownedBy_registers hentry]
    exact hw.owned.replace k callable
  · apply proper_registers hentry hw.proper
    intro e' he'
    cases he'
    rfl
  · exact hw.stray

private theorem sound_registers_plain (hw : RegistrySound K w) {e : Option Entry}
    (he : ∀ e', e = some e' → e'.Proper) (hnone : e.bind Entry.owned = none)
    (hr : r.Registers w.sqlite k e) (hok : r.rv = SQLITE_OK) :
    RegistrySound K (applyReply w r) := by
  obtain ⟨hentry, hdestructed⟩ := hr hok
  rw [applyReply, hdestructed, destructorCalls_of_proper (hw.proper k), foldl_destroy_objects]
  constructor
  · rw [ownedBy_registers hentry, hnone]
    exact hw.owned.release k
  · exact proper_registers hentry hw.proper he
  · exact hw.stray

omit [DecidableEq K] in
private theorem sound_discard (hw : RegistrySound K w) (callable : F)
    (hentry : api.entry r.state = api.entry w.sqlite) :
    RegistrySound K (appdataDestroyObject
      { w with sqlite := r.state, callables := w.callables.alloc callable }
      (.object w.callables.next)) := by
  constructor
  · change ((w.callables.alloc callable).free w.callables.next).Owned (ownedBy r.state)
    have hsame : ownedBy (K := K) r.state = ownedBy w.sqlite := by
      funext l
      rw [ownedBy, hentry, ownedBy]
    rw [hsame]
    exact hw.owned.discard callable
  · intro l e hl
    exact hw.proper l e (by rw [← hentry]; exact hl)
  · exact hw.stray

omit [DecidableEq K] in
private theorem sound_keeps_nothing (hw : RegistrySound K w) (hr : r.Keeps K w.sqlite [])
    (hfail : r.rv ≠ SQLITE_OK) : RegistrySound K (applyReply w r) := by
  obtain ⟨hentry, hdestructed⟩ := hr hfail
  rw [applyReply, hdestructed, List.foldl_nil]
  constructor
  · have hsame : ownedBy (K := K) r.state = ownedBy w.sqlite := by
      funext l
      rw [ownedBy, hentry, ownedBy]
    rw [hsame]
    exact hw.owned
  · intro l e hl
    exact hw.proper l e (by rw [← hentry]; exact hl)
  · exact hw.stray

end Calls

section Operations

variable [DecidableEq K] [api : RegistryApi Q K] {w : RegistryWorld Q F}

omit [DecidableEq K] in
theorem createFunctionRegister_final (name : CStr) (argc : Int) (data : AppData)
    (callback : Callback) (destroy : Destroy) (w : RegistryWorld Q F) :
    (createFunctionRegister K name argc data callback destroy w).final =
      applyReply w (api.createFunctionV2 w.sqlite name argc data (some callback) destroy) := by
  simp only [createFunctionRegister, callRegistry, Prog.bind_run, Prog.effect_run,
    Exec.andThen_ok, Exec.prepend_final]
  split <;> rfl

/-- With a function's registration the library takes the callable over, whether it succeeds or
not. -/
theorem createFunctionRegister_new_sound (laws : RegistryLaws Q K) (hw : RegistrySound K w)
    (callable : F) (name : CStr) (argc : Int) (callback : Callback) :
    RegistrySound K (createFunctionRegister K name argc (.object w.callables.next) callback
      .appdataDestroyObject { w with callables := w.callables.alloc callable }).final := by
  rw [createFunctionRegister_final]
  by_cases hok : (api.createFunctionV2 w.sqlite name argc (.object w.callables.next)
      (some callback) .appdataDestroyObject).rv = SQLITE_OK
  · exact sound_registers_new hw callable (laws.function_ok _ _ _ _ _ _) hok
  · obtain ⟨hentry, hdestructed⟩ := laws.function_failed _ _ _ _ _ _ hok
    rw [applyReply, hdestructed]
    exact sound_discard hw callable hentry

private theorem createFunctionV2_plain_sound (laws : RegistryLaws Q K) (hw : RegistrySound K w)
    (name : CStr) (argc : Int) {data : AppData} {callback : Option Callback}
    (hdata : ∀ e, newEntry data callback .null = some e → e.Proper) :
    RegistrySound K
      (applyReply w (api.createFunctionV2 w.sqlite name argc data callback .null)) := by
  by_cases hok : (api.createFunctionV2 w.sqlite name argc data callback .null).rv = SQLITE_OK
  · refine sound_registers_plain hw hdata ?_ (laws.function_ok _ _ _ _ _ _) hok
    cases callback <;> cases data <;> rfl
  · exact sound_keeps_nothing hw (laws.function_failed _ _ _ _ _ _) hok

omit [DecidableEq K] in
theorem createCollationRegister_final (name : CStr) (data : AppData) (callback : Callback)
    (destroy : Destroy) (w : RegistryWorld Q F) :
    (createCollationRegister K name data callback destroy w).final =
      let r := api.createCollationV2 w.sqlite name data (some callback) destroy
      if r.rv ≠ SQLITE_OK ∧ destroy ≠ .null then appdataDestroyObject (applyReply w r) data
      else applyReply w r := by
  simp only [createCollationRegister, callRegistry, Prog.bind_run, Prog.effect_run,
    Exec.andThen_ok, Exec.prepend_final]
  by_cases hok : (api.createCollationV2 w.sqlite name data (some callback) destroy).rv = SQLITE_OK
  · simp [hok]
  · by_cases hdestroy : destroy = .null
    · subst hdestroy
      simp [hok]
    · simp [hok, hdestroy]

/-- With a collation's registration the wrapper has to destroy the callable itself when it fails. -/
theorem createCollationRegister_new_sound (laws : RegistryLaws Q K) (hw : RegistrySound K w)
    (callable : F) (name : CStr) (callback : Callback) :
    RegistrySound K (createCollationRegister K name (.object w.callables.next) callback
      .appdataDestroyObject { w with callables := w.callables.alloc callable }).final := by
  rw [createCollationRegister_final]
  by_cases hok : (api.createCollationV2 w.sqlite name (.object w.callables.next)
      (some callback) .appdataDestroyObject).rv = SQLITE_OK
  · rw [if_neg (fun h => h.1 hok)]
    exact sound_registers_new hw callable (laws.collation_ok _ _ _ _ _) hok
  · obtain ⟨hentry, hdestructed⟩ := laws.collation_failed _ _ _ _ _ hok
    rw [if_pos ⟨hok, by simp⟩, applyReply, hdestructed]
    exact sound_discard hw callable hentry

private theorem createCollationV2_plain_sound (laws : RegistryLaws Q K) (hw : RegistrySound K w)
    (name : CStr) {data : AppData} {callback : Option Callback}
    (hdata : ∀ e, newEntry data callback .null = some e → e.Proper) :
    RegistrySound K (applyReply w (api.createCollationV2 w.sqlite name data callback .null)) := by
  by_cases hok : (api.createCollationV2 w.sqlite name data callback .null).rv = SQLITE_OK
  · refine sound_registers_plain hw hdata ?_ (laws.collation_ok _ _ _ _ _) hok
    cases callback <;> cases data <;> rfl
  · exact sound_keeps_nothing hw (laws.collation_failed _ _ _ _ _) hok

omit [DecidableEq K] api in
private theorem newCallable_bind_final (callable : F) (fault : Option Exn)
    (f : AppData → Cxx (RegistryWorld Q F) Unit) (w : RegistryWorld Q F) :
    ((newCallable callable fault >>= f) w).final =
      match fault with
      | some _ => w
      | none => (f (.object w.callables.next)
          { w with callables := w.callables.alloc callable }).final := by
  cases fault <;> simp [newCallable]

private theorem createFunction_sound (laws : RegistryLaws Q K) (hw : RegistrySound K w)
    (name : CStr) (argc : Int) (source : Source F) :
    RegistrySound K (createFunction K name argc source w).final := by
  cases source with
  | function fptr =>
    rw [createFunction, createFunctionRegister_final]
    apply createFunctionV2_plain_sound laws hw
    rintro e ⟨⟩
    rfl
  | callable callable fault =>
    rw [createFunction, newCallable_bind_final]
    cases fault with
    | some e => exact hw
    | none => exact createFunctionRegister_new_sound laws hw callable name argc _

private theorem createAggregate_sound (laws : RegistryLaws Q K) (hw : RegistrySound K w)
    (name : CStr) (nargs : Int) (adat : F) (fault : Option Exn) :
    RegistrySound K (createAggregate K name nargs adat fault w).final := by
  rw [createAggregate, newCallable_bind_final]
  cases fault with
  | some e => exact hw
  | none => exact createFunctionRegister_new_sound laws hw adat name nargs _

private theorem createCollation_sound (laws : RegistryLaws Q K) (hw : RegistrySound K w)
    (name : CStr)
    (source : Source F) : RegistrySound K (createCollation K name source w).final := by
  cases source with
  | function fptr =>
    rw [createCollation, createCollationRegister_final, if_neg (fun h => h.2 rfl)]
    apply createCollationV2_plain_sound laws hw
    rintro e ⟨⟩
    rfl
  | callable callable fault =>
    rw [createCollation, newCallable_bind_final]
    cases fault with
    | some e => exact hw
    | none => exact createCollationRegister_new_sound laws hw callable name _

private theorem removeFunction_sound (laws : RegistryLaws Q K) (hw : RegistrySound K w)
    (name : CStr) (argc : Int) : RegistrySound K (removeFunction K name argc w).final := by
  have hfinal : (removeFunction K name argc w).final =
      applyReply w (api.createFunctionV2 w.sqlite name argc .null none .null) := by
    simp only [removeFunction, callRegistry, Prog.bind_run, Prog.effect_run, Exec.andThen_ok,
      Exec.prepend_final]
    split <;> rfl
  rw [hfinal]
  apply createFunctionV2_plain_sound laws hw
  rintro e ⟨⟩

private theorem removeCollation_sound (laws : RegistryLaws Q K) (hw : RegistrySound K w)
    (name : CStr) :
    RegistrySound K (removeCollation K name w).final := by
  have hfinal : (removeCollation K name w).final =
      applyReply w (api.createCollationV2 w.sqlite name .null none .null) := by
    simp only [removeCollation, callRegistry, Prog.bind_run, Prog.effect_run, Exec.andThen_ok,
      Exec.prepend_final]
    split <;> rfl
  rw [hfinal]
  apply createCollationV2_plain_sound laws hw
  rintro e ⟨⟩

theorem exec_registrySound (laws : RegistryLaws Q K) (w : RegistryWorld Q F) (e : RegistryEvent F)
    (hw : RegistrySound K w) : RegistrySound K (e.exec K w) := by
  cases e with
  | createFunction name argc source => exact createFunction_sound laws hw name argc source
  | createFunctionStatic name argc Fun =>
    rw [RegistryEvent.exec, RegistryEvent.op, createFunctionStatic, createFunctionRegister_final]
    apply createFunctionV2_plain_sound laws hw
    rintro e ⟨⟩
    exact ⟨rfl, id⟩
  | createAggregate name nargs adat fault =>
    exact createAggregate_sound laws hw name nargs adat fault
  | createCollation name source => exact createCollation_sound laws hw name source
  | createCollationStatic name Fun =>
    rw [RegistryEvent.exec, RegistryEvent.op, createCollationStatic, createCollationRegister_final,
      if_neg (fun h => h.2 rfl)]
    apply createCollationV2_plain_sound laws hw
    rintro e ⟨⟩
    exact ⟨rfl, id⟩
  | removeFunction name argc => exact removeFunction_sound laws hw name argc
  | removeAggregate name argc => exact removeFunction_sound laws hw name argc
  | removeCollation name => exact removeCollation_sound laws hw name

def AppData.objectId : AppData → Nat
  | .object id => id
  | _ => 0

private theorem closeRegistry_frees (laws : RegistryLaws Q K) (hw : RegistrySound K w) :
    (∀ id, id < w.callables.next → (closeRegistry K w).callables.frees id = 1) ∧
      (closeRegistry K w).strayDeletes = 0 := by
  have hproper : ∀ k data, (k, data) ∈ api.close w.sqlite →
      ∃ i, data = .object i ∧ ownedBy w.sqlite k = some i := by
    intro k data hmem
    obtain ⟨callback, hentry⟩ := (laws.close_data w.sqlite k data).mp hmem
    have he := hw.proper k _ hentry
    cases data with
    | object i => exact ⟨i, rfl, by rw [ownedBy, hentry]; rfl⟩
    | functionPointer fptr => cases he
    | null => cases he.1
  let ids := (api.close w.sqlite).map fun p => p.2.objectId
  have hobjects : (api.close w.sqlite).map (·.2) = ids.map .object := by
    rw [List.map_map]
    apply List.map_congr_left
    rintro ⟨k, data⟩ hmem
    obtain ⟨i, rfl, -⟩ := hproper k data hmem
    rfl
  have hnodup : ids.Nodup := by
    apply (List.Nodup.of_map _ (laws.close_keys w.sqlite)).map_on
    rintro ⟨k, data⟩ hk ⟨l, data'⟩ hl heq
    obtain ⟨i, rfl, hik⟩ := hproper k data hk
    obtain ⟨j, rfl, hjl⟩ := hproper l data' hl
    cases show i = j from heq
    rw [hw.owned.inj k l i hik hjl]
  have howned : ∀ i, i ∈ ids ↔ ∃ k : K, ownedBy w.sqlite k = some i := by
    intro i
    constructor
    · intro hi
      obtain ⟨⟨k, data⟩, hmem, rfl⟩ := List.mem_map.mp hi
      obtain ⟨j, rfl, hj⟩ := hproper k data hmem
      exact ⟨k, hj⟩
    · rintro ⟨k, hk⟩
      obtain ⟨⟨data, callback, destroy⟩, hentry, hown⟩ := Option.bind_eq_some_iff.mp hk
      cases data with
      | object j =>
        cases destroy with
        | null => cases hown
        | appdataDestroyObject =>
          cases hown
          have hmem := (laws.close_data w.sqlite k (.object i)).mpr ⟨callback, hentry⟩
          exact List.mem_map.mpr ⟨_, hmem, rfl⟩
      | functionPointer fptr => cases hown
      | null => cases hown
  rw [closeRegistry, hobjects, foldl_destroy_objects]
  exact ⟨fun id hid => hw.owned.freeAll_frees hnodup howned hid, hw.stray⟩

end Operations

/-- The data of an entry the library may call is no destroyed callable. -/
def Entry.CallSafe (h : Heap F) (e : Entry) : Prop :=
  match e.data with
  | .object id => h.Live id ∧ h.frees id = 0
  | .functionPointer _ => True
  | .null => ¬ e.callback.UsesData

/-- After any registrations, replacements, removals and failures: what is registered can be called,
nothing was destroyed twice, no function pointer was deleted; and when the handle is gone every
callable has been destroyed exactly once. -/
theorem callables_destroyed_once [DecidableEq K] [api : RegistryApi Q K] (laws : RegistryLaws Q K)
    {q : Q} (hq : ∀ k : K, api.entry q k = none) (es : List (RegistryEvent F)) :
    let w := run (RegistryEvent.exec K) ⟨q, Heap.empty, 0⟩ es
    let closed := closeRegistry K w
    (∀ (k : K) e, api.entry w.sqlite k = some e → e.CallSafe w.callables) ∧
      (∀ id, w.callables.frees id ≤ 1) ∧ w.strayDeletes = 0 ∧
      (∀ id, id < w.callables.next → closed.callables.frees id = 1) ∧
        closed.strayDeletes = 0 := by
  intro w closed
  have hstart : RegistrySound K (⟨q, Heap.empty, 0⟩ : RegistryWorld Q F) := by
    refine ⟨Heap.Owned.init _ ?_, ?_, rfl⟩
    · intro k
      rw [ownedBy, hq k, Option.bind_none]
    · intro k e he
      cases (hq k).symm.trans he
  have hw : RegistrySound K w :=
    (always_of_preserved (exec_registrySound laws) hstart es).last
  refine ⟨?_, hw.owned.sound.frees_le_one, hw.stray, closeRegistry_frees laws hw⟩
  rintro k ⟨data, callback, destroy⟩ he
  have hproper := hw.proper k _ he
  cases data with
  | object id =>
    have hdestroy : destroy = .appdataDestroyObject := hproper
    subst hdestroy
    have hown : ownedBy w.sqlite k = some id := by
      rw [ownedBy, he]
      rfl
    have hlive := hw.owned.live k id hown
    exact ⟨hlive, hw.owned.sound.live id hlive⟩
  | functionPointer fptr => trivial
  | null => exact hproper.2

/-- A registry that is a finite table: functions by name and arity, collations by name. -/
abbrev EntryTable := AList fun _ : CStr × Option Int => Entry

namespace EntryTable

def set (q : EntryTable) (k : CStr × Option Int) : Option Entry → EntryTable
  | some e => q.insert k e
  | none => q.erase k

def destroyedBy (p : (_ : CStr × Option Int) × Entry) : Option ((CStr × Option Int) × AppData) :=
  if p.2.destroy = .null then none else some (p.1, p.2.data)

/-- Arities are limited; a collation can always be registered. -/
instance : RegistryApi EntryTable (CStr × Option Int) where
  entry q k := q.lookup k
  functionKey name argc := (name, some argc)
  collationKey name := (name, none)
  createFunctionV2 q name argc data callback destroy :=
    if -1 ≤ argc ∧ argc ≤ 127 then
      ⟨SQLITE_OK, destructorCalls (q.lookup (name, some argc)),
        q.set (name, some argc) (newEntry data callback destroy)⟩
    else ⟨SQLITE_MISUSE, if destroy = .null then [] else [data], q⟩
  createCollationV2 q name data callback destroy :=
    ⟨SQLITE_OK, destructorCalls (q.lookup (name, none)),
      q.set (name, none) (newEntry data callback destroy)⟩
  close q := q.entries.filterMap destroyedBy

private theorem lookup_set (q : EntryTable) (k : CStr × Option Int) (e : Option Entry) :
    (fun l => (q.set k e).lookup l) = Function.update (fun l => q.lookup l) k e := by
  funext l
  by_cases hl : l = k
  · subst hl
    rw [Function.update_self]
    cases e with
    | none => exact AList.lookup_erase l q
    | some e => exact AList.lookup_insert q
  · rw [Function.update_of_ne hl]
    cases e with
    | none => exact AList.lookup_erase_ne hl
    | some e => exact AList.lookup_insert_ne hl

private theorem keys_destroyedBy (ps : List ((_ : CStr × Option Int) × Entry)) :
    ((ps.filterMap destroyedBy).map (·.1)).Sublist ps.keys := by
  induction ps with
  | nil => simp
  | cons p ps ih =>
    by_cases hp : p.2.destroy = .null
    · rw [List.filterMap_cons_none (by simp [destroyedBy, hp])]
      exact ih.cons p.1
    · rw [List.filterMap_cons_some (by simp [destroyedBy, hp]; rfl)]
      exact ih.cons_cons p.1

theorem registryLaws : RegistryLaws EntryTable (CStr × Option Int) where
  function_ok q name argc data callback destroy := by
    intro hok
    by_cases hargc : -1 ≤ argc ∧ argc ≤ 127
    · simp only [RegistryApi.createFunctionV2, if_pos hargc]
      exact ⟨lookup_set q _ _, rfl⟩
    · simp only [RegistryApi.createFunctionV2, if_neg hargc] at hok
      exact absurd (show SQLITE_MISUSE = SQLITE_OK from hok) (by decide)
  function_failed q name argc data callback destroy := by
    intro hfail
    by_cases hargc : -1 ≤ argc ∧ argc ≤ 127
    · simp only [RegistryApi.createFunctionV2, if_pos hargc] at hfail
      exact absurd rfl hfail
    · simp only [RegistryApi.createFunctionV2, if_neg hargc]
      exact ⟨trivial, trivial⟩
  collation_ok q name data callback destroy := fun _ => ⟨lookup_set q _ _, rfl⟩
  collation_failed q name data callback destroy := fun hfail => absurd rfl hfail
  close_keys q := q.keys_nodup.sublist (keys_destroyedBy q.entries)
  close_data q k data := by
    have hlookup : ∀ e, q.lookup k = some e ↔ ⟨k, e⟩ ∈ q.entries := fun e => AList.mem_lookup_iff
    simp only [RegistryApi.close, RegistryApi.entry, List.mem_filterMap, hlookup]
    constructor
    · rintro ⟨⟨l, data', callback, destroy⟩, hmem, hsome⟩
      cases destroy with
      | null => cases hsome
      | appdataDestroyObject =>
        cases hsome
        exact ⟨callback, hmem⟩
    · rintro ⟨callback, hmem⟩
      exact ⟨_, hmem, rfl⟩

end EntryTable

/-- Function 7 replaces function 3 under one name, then a registration with too many arguments
fails, and the handle is closed. -/
theorem callables_destroyed_once_replaced :
    let name : CStr := ⟨[102], by decide, by decide⟩
    let es : List (RegistryEvent Nat) :=
      [.createFunction name 1 (.callable 3 none), .createFunction name 1 (.callable 7 none),
        .createFunction name 128 (.callable 9 none)]
    let w := run (RegistryEvent.exec (CStr × Option Int)) ⟨(∅ : EntryTable), Heap.empty, 0⟩ es
    w.callables.next = 3 ∧ ∀ id, id < w.callables.next →
      (closeRegistry (CStr × Option Int) w).callables.frees id = 1 :=
  ⟨rfl, (callables_destroyed_once EntryTable.registryLaws (fun _ => rfl) _).2.2.2.1⟩

end Sqxx
