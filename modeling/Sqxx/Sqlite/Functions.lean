import Sqxx.Datatypes
import Sqxx.Error
import Mathlib.Logic.Function.Basic

/-!
# Registered functions and collations

What the application hands over when it registers an SQL function, an aggregate or a collation, and
when the library calls the destructor that comes with it.
-/

namespace Sqxx

inductive AppData
  | null
  | functionPointer (fptr : Nat)
  | object (id : Nat)
  deriving DecidableEq, Repr

inductive Destroy
  | null
  | appdataDestroyObject
  deriving DecidableEq, Repr

/-- The C functions of the wrapper that the library calls; those for a template argument do not
look at the data. -/
inductive Callback
  | functionCallPtr
  | functionCallStaticfptr (fptr : Nat)
  | aggregateCalls
  | collationComparePtr
  | collationCompareStaticfptr (fptr : Nat)
  deriving DecidableEq, Repr

def Callback.UsesData : Callback → Prop
  | .functionCallPtr | .aggregateCalls | .collationComparePtr => True
  | .functionCallStaticfptr _ | .collationCompareStaticfptr _ => False

structure Entry where
  data : AppData
  callback : Callback
  destroy : Destroy
  deriving DecidableEq, Repr

/-- A call's result code, the data it called destructors for, in order, and the new state. -/
structure Reply (Q : Type) where
  rv : Int
  destructed : List AppData
  state : Q

/-- `sqlite3_create_function_v2`, `sqlite3_create_collation_v2` and the end of a handle. `entry`
tells what was registered under a key, besides what the library has of its own; which names share a
key is the library's business. Null callbacks remove an entry. -/
class RegistryApi (Q K : Type) where
  entry : Q → K → Option Entry
  functionKey : CStr → Int → K
  collationKey : CStr → K
  createFunctionV2 : Q → CStr → Int → AppData → Option Callback → Destroy → Reply Q
  createCollationV2 : Q → CStr → AppData → Option Callback → Destroy → Reply Q
  close : Q → List (K × AppData)

variable {Q K : Type} [DecidableEq K] [api : RegistryApi Q K]

def destructorCalls : Option Entry → List AppData
  | some ⟨data, _, .appdataDestroyObject⟩ => [data]
  | _ => []

/-- A successful call puts the entry under `k` and destroys the data that was there. -/
def Reply.Registers (r : Reply Q) (q : Q) (k : K) (e : Option Entry) : Prop :=
  r.rv = SQLITE_OK → api.entry r.state = Function.update (api.entry q) k e ∧
    r.destructed = destructorCalls (api.entry q k)

/-- A failed call leaves the entries alone and destroys `destructed`. -/
def Reply.Keeps (K : Type) [api : RegistryApi Q K] (r : Reply Q) (q : Q)
    (destructed : List AppData) : Prop :=
  r.rv ≠ SQLITE_OK → api.entry r.state = api.entry q ∧ r.destructed = destructed

def newEntry (data : AppData) (callback : Option Callback) (destroy : Destroy) : Option Entry :=
  callback.map fun c => ⟨data, c, destroy⟩

/-- The conventions differ on failure: a function's new data is destroyed, a collation's is not.
The end of the handle destroys the data of every entry. -/
structure RegistryLaws (Q K : Type) [DecidableEq K] [api : RegistryApi Q K] : Prop where
  function_ok : ∀ q name argc data callback destroy,
    (api.createFunctionV2 q name argc data callback destroy).Registers q
      (api.functionKey name argc) (newEntry data callback destroy)
  function_failed : ∀ q name argc data callback destroy,
    (api.createFunctionV2 q name argc data callback destroy).Keeps K q
      (if destroy = .null then [] else [data])
  collation_ok : ∀ q name data callback destroy,
    (api.createCollationV2 q name data callback destroy).Registers q
      (api.collationKey name) (newEntry data callback destroy)
  collation_failed : ∀ q name data callback destroy,
    (api.createCollationV2 q name data callback destroy).Keeps K q []
  close_keys : ∀ q, ((api.close q).map (·.1)).Nodup
  close_data : ∀ q k data, (k, data) ∈ api.close q ↔
    ∃ callback, api.entry q k = some ⟨data, callback, .appdataDestroyObject⟩

/-- A collation that was registered, or one of the library's own, such as `BINARY`. -/
inductive Collation
  | registered (e : Entry)
  | own
  deriving DecidableEq, Repr

/-- What SQL makes of the name of a collation: whether the library calls the collation handler for
it, and what it compares with, then or without; and how it compares with its own. -/
class CollationApi (Q K : Type) extends RegistryApi Q K where
  needed : Q → CStr → Bool
  collation : Q → CStr → Option Collation
  compareOwn : CStr → Bytes → Bytes → Ordering

/-- The texts of the database are UTF-8, for which the wrapper registers: under a name that was
registered the library needs no other collation.  The handler is called for every name that the
library does not know. -/
structure CollationLaws (Q K : Type) [api : CollationApi Q K] : Prop where
  registered : ∀ q name e, api.entry q (api.collationKey name) = some e →
    api.needed (K := K) q name = false ∧
      api.collation (K := K) q name = some (.registered e)
  notRegistered : ∀ q name, api.entry q (api.collationKey name) = none →
    ∀ e, api.collation (K := K) q name ≠ some (.registered e)
  unknown : ∀ q name, api.collation (K := K) q name = none → api.needed (K := K) q name = true

end Sqxx
