import Sqxx.Connection.OnDemand
import Sqxx.Framework.Sorting

/-!
# Rows in the order of a collation

The library finds the collation, compares the keys of the rows through it, and sorts.  A comparison
function may keep a state; where it throws, the rows compare equal and the exception is reported.
The texts of the database are UTF-8.
-/

namespace Sqxx
open Framework

variable {Q K F U Row : Type}

/-- A function that compares two texts in memory: lengths and addresses. -/
abbrev CompareFn (U : Type) := Int32 → Pointer → Int32 → Pointer → UserCode U Int

/-- The function makes no calls on the connection. -/
def CompareFn.beside (fn : CompareFn U) : CompareFn (Registrar Q F U) :=
  fun llen lstr rlen rstr s =>
    let r := fn llen lstr rlen rstr s.user
    (r.1, { s with user := r.2 })

/-- The keys of rows, each with the memory that the library keeps it in. -/
structure RowKeys (Row : Type) where
  key : Row → Bytes
  memory : Row → Pointer
  holds : ∀ x, readMem (memory x) (key x).length = key x

namespace RowKeys

def length (keys : RowKeys Row) (x : Row) : Int32 := Int32.ofNat (keys.key x).length

/-- On the keys of `xs` the function returns numbers that order them as `cmp` does, whatever its
state is. -/
def ComparedBy (keys : RowKeys Row) (xs : List Row) (fn : CompareFn U)
    (cmp : Bytes → Bytes → Ordering) : Prop :=
  ∀ x ∈ xs, ∀ y ∈ xs, ∀ u, ∃ v,
    (fn (keys.length x) (keys.memory x) (keys.length y) (keys.memory y) u).1 = .ok v ∧
      compare v 0 = cmp (keys.key x) (keys.key y)

end RowKeys

section Comparing

variable (code : Nat → CompareFn U) (collationOf : F → Option (CompareFn U))

def Callee.compares : Callee F → Option (CompareFn U)
  | .object f => collationOf f
  | .function fptr | .static fptr => some (code fptr)

/-- What `collation_compare_ptr` finds behind its user data. -/
def AppData.compares (h : Heap F) : AppData → Option (CompareFn U)
  | .object id => (h.cell id).bind collationOf
  | .functionPointer fptr => some (code fptr)
  | .null => none

def compareEntry (h : Heap F) :
    Entry → Option (Int32 → Pointer → Int32 → Pointer → Cxx (CallbackState (Registrar Q F U)) Int)
  | ⟨data, .collationComparePtr, _⟩ =>
    (data.compares code collationOf h).map fun fn => Callbacks.collationComparePtr fn.beside
  | ⟨_, .collationCompareStaticfptr fptr, _⟩ =>
    some (Callbacks.collationCompareStaticfptr (code fptr).beside)
  | _ => none

/-- How the library compares two rows with a collation that it found under the name. -/
def Collation.comparing (K : Type) [api : CollationApi Q K] (h : Heap F) (keys : RowKeys Row)
    (name : CStr) :
    Collation → Option (Row × Row → Cxx (CallbackState (Registrar Q F U)) Ordering)
  | .registered e => (compareEntry code collationOf h e).map fun c p => do
    let v ← c (keys.length p.1) (keys.memory p.1) (keys.length p.2) (keys.memory p.2)
    pure (compare v 0)
  | .own => some fun p =>
    pure (api.compareOwn (Q := Q) (K := K) name (keys.key p.1) (keys.key p.2))

/-- `order by` under a collation name; nothing if there is no such collation. -/
def sqlSort (K : Type) [CollationApi Q K] (needed : Option (CollationHandler F U)) (conn : Nat)
    (sort : SortingClient Row) (keys : RowKeys Row) (name : CStr) (table : List Row) :
    Cxx (CallbackState (Registrar Q F U)) (Option (List Row)) := do
  let found ← locateCollation K needed conn name
  let compares ← Prog.reading fun s =>
    found.bind (Collation.comparing code collationOf K s.user.registry.callables keys name)
  match compares with
  | none => pure none
  | some c => do
    let rows ← (sort table).calling c
    pure (some rows)

/-- How a comparison goes: a function that throws is reported, and the answer is zero then. -/
def RowKeys.comparing (keys : RowKeys Row) (fn : CompareFn U) :
    Machine (CallbackState (Registrar Q F U)) (Row × Row) Ordering := fun s p =>
  match fn.beside (keys.length p.1) (keys.memory p.1) (keys.length p.2) (keys.memory p.2)
    s.user with
  | (.ok v, u) => (compare v 0, { s with user := u })
  | (.error e, u) => (.eq, CallbackState.handled { s with user := u } "collation function" e)

private theorem compareEntry_of_target {h : Heap F} {e : Entry} {callee : Callee F}
    (htarget : e.target h = some (.collation callee)) {fn : CompareFn U}
    (hfn : callee.compares code collationOf = some fn) :
    compareEntry (Q := Q) code collationOf h e =
      some (Callbacks.collationComparePtr fn.beside) := by
  obtain ⟨data, callback, destroy⟩ := e
  cases callback with
  | collationComparePtr =>
    cases data with
    | object id =>
      obtain ⟨f, hcell, hf⟩ := Option.map_eq_some_iff.mp htarget
      cases hf
      have hfound : collationOf f = some fn := hfn
      simp [compareEntry, AppData.compares, hcell, hfound]
    | functionPointer fptr =>
      cases htarget
      have hcode : code fptr = fn := Option.some.inj hfn
      simp [compareEntry, AppData.compares, hcode]
    | null => cases htarget
  | collationCompareStaticfptr fptr =>
    have hcallee : callee = .static fptr := by
      cases data <;> cases htarget <;> rfl
    subst hcallee
    have hcode : code fptr = fn := Option.some.inj hfn
    rw [← hcode]
    rfl
  | functionCallPtr =>
    cases data with
    | object id =>
      obtain ⟨f, -, hf⟩ := Option.map_eq_some_iff.mp htarget
      cases hf
    | functionPointer fptr => cases htarget
    | null => cases htarget
  | aggregateCalls =>
    cases data with
    | object id =>
      obtain ⟨f, -, hf⟩ := Option.map_eq_some_iff.mp htarget
      cases hf
    | functionPointer fptr => cases htarget
    | null => cases htarget
  | functionCallStaticfptr fptr => cases data <;> cases htarget

private theorem comparing_ends (keys : RowKeys Row) (fn : CompareFn U)
    (s : CallbackState (Registrar Q F U)) (p : Row × Row) :
    Prog.Ends (do
      let v ← Callbacks.collationComparePtr fn.beside (keys.length p.1) (keys.memory p.1)
        (keys.length p.2) (keys.memory p.2)
      pure (compare v 0)) s (.ok (keys.comparing fn s p).1) ((keys.comparing fn).next s p) := by
  unfold Machine.next RowKeys.comparing
  rcases hrun : fn.beside (keys.length p.1) (keys.memory p.1) (keys.length p.2) (keys.memory p.2)
    s.user with ⟨outcome, u⟩
  cases outcome with
  | ok v =>
    apply (Callbacks.guarded_ok (Callbacks.callUser_ok hrun)).bind
    exact Prog.Ends.pure _ _
  | error e =>
    apply (Callbacks.guarded_throw (Callbacks.callUser_throw hrun)).bind
    exact Prog.Ends.pure _ _

end Comparing

/-- Sorting under a name that was registered last, by the program or by the collation handler, as a
collation: whatever the comparison function does, the library gets all the rows in some order; if
the function orders the keys by a total preorder, that is the order of the rows, and nothing is
reported. -/
theorem sort_follows_collation [DecidableEq K] [api : CollationApi Q K] (code : Nat → CompareFn U)
    (collationOf : F → Option (CompareFn U)) (laws : RegistryLaws Q K) (search : CollationLaws Q K)
    {q : Q} (hq : ∀ k : K, api.entry q k = none) (needed : Option (CollationHandler F U))
    (conn : Nat) {start : CallbackState (Registrar Q F U)} {u : U}
    (hstart : start.user = .fresh q u) (hhandler : start.handler.Asks K fun _ => True)
    (es : List (RegistrarEvent F)) (name : CStr) {callee : Callee F}
    (hlast : lastTarget q (located K needed conn name
      (run (RegistrarEvent.machine K needed conn).next start es)).user.calls
        (api.collationKey (Q := Q) name) = some (.collation callee))
    {fn : CompareFn U} (hfn : callee.compares code collationOf = some fn)
    {sort : SortingClient Row} (hsort : sort.Sorts) (keys : RowKeys Row) (table : List Row) :
    let s := run (RegistrarEvent.machine K needed conn).next start es
    ∃ rows t, Prog.Ends (sqlSort code collationOf K needed conn sort keys name table) s
        (.ok (some rows)) t ∧ rows.Perm table ∧
      ∀ (cmp : Bytes → Bytes → Ordering) [Std.TransCmp cmp], keys.ComparedBy table fn cmp →
        rows.Pairwise (fun x y => (cmp (keys.key x) (keys.key y)).isLE) ∧
          t.reports = (located K needed conn name s).reports := by
  intro s
  let m : Machine (CallbackState (Registrar Q F U)) (Row × Row) Ordering := keys.comparing fn
  let s' := located K needed conn name s
  obtain ⟨hs, hkept⟩ := run_recorded (K := K) needed conn hstart hhandler es
  have hmade : CallsMade K (fun _ => True) s s' := by
    apply located_callsMade
    · exact fun fn _ u => RegistryScript.asks_anything _ u
    · rwa [hkept]
  have htarget : targetAt K s'.user.registry (api.collationKey (Q := Q) name) =
      some (.collation callee) :=
    (lookup_recorded laws hq (hmade.recorded hs) _).1.trans hlast
  rw [targetAt] at htarget
  obtain ⟨e, hentry, he⟩ := Option.bind_eq_some_iff.mp htarget
  have hfound := (search.registered _ name e hentry).2
  refine ⟨((sort table).talk m s').1, ((sort table).talk m s').2, ?_, ?_, ?_⟩
  · have hlocate := locateCollation_ends (K := K) needed conn name s
    apply hlocate.bind
    apply (Prog.Ends.reading _ s').bind
    rw [hfound, Option.bind_some, Collation.comparing,
      compareEntry_of_target code collationOf he hfn]
    apply Prog.Ends.bind (Dialogue.calling_ends (comparing_ends keys fn) (sort table) s')
    exact Prog.Ends.pure _ _
  · exact (hsort.permutes table).talk s'
  · intro cmp _ hcompared
    have hm : ∀ (v : CallbackState (Registrar Q F U)) (p : Row × Row),
        v.reports = s'.reports → p.1 ∈ table ∧ p.2 ∈ table →
          (m v p).1 = onKeys keys.key cmp p.1 p.2 ∧ (m.next v p).reports = s'.reports := by
      intro v p hv hp
      obtain ⟨z, hz, hcompare⟩ := hcompared p.1 hp.1 p.2 hp.2 v.user.user
      have hcall : fn.beside (keys.length p.1) (keys.memory p.1) (keys.length p.2)
          (keys.memory p.2) v.user = (.ok z, _) := Prod.ext hz rfl
      unfold m Machine.next RowKeys.comparing
      rw [hcall]
      exact ⟨hcompare, hv⟩
    exact hsort.talk hm rfl

/-! The texts with the greatest first byte come first. -/

namespace Descending

def firstByte (len : Int32) (p : Pointer) : UInt8 := (readMem p len.toInt.toNat).headD 0

def sign : Ordering → Int
  | .lt => -1
  | .eq => 0
  | .gt => 1

def compares : CompareFn Nat := fun llen lstr rlen rstr u =>
  (.ok (sign (compare (firstByte rlen rstr) (firstByte llen lstr))), u)

def order : Bytes → Bytes → Ordering := onKeys (·.headD 0) fun x y => compare y x

instance : Std.TransCmp order := inferInstanceAs (Std.TransCmp (onKeys _ _))

def keys : RowKeys (Option Nat) where
  key x := [UInt8.ofNat (x.getD 0)]
  memory x := memoryOf [UInt8.ofNat (x.getD 0)]
  holds _ := readMem_memoryOf _

private theorem comparedBy (xs : List (Option Nat)) : keys.ComparedBy xs compares order := by
  intro x _ y _ u
  refine ⟨_, rfl, ?_⟩
  have hfirst : ∀ z, firstByte (keys.length z) (keys.memory z) = (keys.key z).headD 0 := by
    intro z
    have hlen : (keys.length z).toInt.toNat = (keys.key z).length := by rfl
    rw [firstByte, hlen, keys.holds]
  rw [hfirst, hfirst]
  change compare (sign (order (keys.key x) (keys.key y))) 0 = _
  cases order (keys.key x) (keys.key y) <;> rfl

end Descending

/-- The collation is created on demand, and the rows come from the greatest down. -/
theorem sort_follows_collation_descending :
    let b : CStr := ⟨[98], by decide, by decide⟩
    let start : CallbackState (Registrar EntryTable Nat Nat) := ⟨.fresh ∅ 0, .default, []⟩
    ∃ rows t, Prog.Ends (sqlSort (fun _ => Descending.compares) (fun _ => some Descending.compares)
          (CStr × Option Int) (some createsSeven) 5 insertionSort Descending.keys b
          [some 1, some 3, some 2]) start (.ok (some rows)) t ∧
      rows.Pairwise (fun x y =>
        (Descending.order (Descending.keys.key x) (Descending.keys.key y)).isLE) ∧
      rows = [some 3, some 2, some 1] := by
  intro b start
  have hhandler : start.handler.Asks (CStr × Option Int) fun _ => True := fun fn h => by cases h
  obtain ⟨rows, t, hends, -, hsorted⟩ := sort_follows_collation
    (fun _ => Descending.compares) (fun _ => some Descending.compares) EntryTable.registryLaws
    EntryTable.collationLaws (q := (∅ : EntryTable)) (fun _ => rfl) (some createsSeven) 5 rfl
    hhandler [] b (by with_unfolding_all rfl) rfl insertionSort_sorts Descending.keys
    [some 1, some 3, some 2]
  have hrows : rows = [some 3, some 2, some 1] := by
    have hsome := Except.ok.inj (hends.outcome.symm.trans (by with_unfolding_all rfl :
      _ = Except.ok (some [some 3, some 2, some 1])))
    exact Option.some.inj hsome
  exact ⟨rows, t, hends, (hsorted _ (Descending.comparedBy _)).1, hrows⟩

end Sqxx
