import Sqxx.Framework.Programs

/-!
# Result codes and exceptions

The codes of the C library that the wrapper tests or sets, the exceptions that can travel through
it, and the outcome of C++ code that leaves the language: reading an object that was never built,
calling through a null pointer.
-/

namespace Sqxx
open Framework

def SQLITE_OK : Int := 0
def SQLITE_ERROR : Int := 1
def SQLITE_IGNORE : Int := 2
def SQLITE_ABORT : Int := 4
def SQLITE_TOOBIG : Int := 18
def SQLITE_MISUSE : Int := 21
def SQLITE_RANGE : Int := 25
def SQLITE_ROW : Int := 100
def SQLITE_DONE : Int := 101

/-- The text of a `sqxx::error`: fetched from the C library or given in the wrapper. -/
inductive Message
  | errstr (code : Int)
  | errmsg
  | text (s : String)
  deriving DecidableEq, Repr

/-- What a C++ `throw` can carry, as far as the wrapper's `catch` clauses tell it apart. -/
inductive Exn
  | error (code : Int) (what : Message)
  | badAlloc
  | stdException (what : String)
  | other (tag : Nat)
  deriving DecidableEq, Repr

def staticError (codeArg : Int) : Exn := .error codeArg (.errstr codeArg)

/-- `recent_error`: the code is the one `sqlite3_errcode` reports. -/
def recentError (errcode : Int) : Exn := .error errcode .errmsg

/-- Why a computation did not return. `undefined` is no exception: nothing catches it. -/
inductive Raised
  | exception (e : Exn)
  | undefined
  deriving DecidableEq, Repr

abbrev Cxx (σ α : Type) := Prog σ Raised α

namespace Cxx

variable {σ α : Type}

def throw (e : Exn) : Cxx σ α := Prog.raise (.exception e)

def undefined : Cxx σ α := Prog.raise .undefined

/-- `try { x } catch (...) { handler }`. -/
def tryCatch (x : Cxx σ α) (handler : Exn → Cxx σ α) : Cxx σ α :=
  x.catching fun
    | .exception e => handler e
    | .undefined => undefined

/-- Stack unwinding: when `x` throws, `cleanup` runs and the exception goes on. -/
def unwinding (x : Cxx σ α) (cleanup : Cxx σ Unit) : Cxx σ α :=
  tryCatch x fun e => do
    cleanup
    throw e

/-- The scope of an object: its destructor runs however `x` ends. -/
def inScope (x : Cxx σ α) (destructor : Cxx σ Unit) : Cxx σ α := do
  let a ← unwinding x destructor
  destructor
  pure a

def checkOk (rv : Int) : Cxx σ Unit :=
  if rv ≠ SQLITE_OK then throw (staticError rv) else pure ()

@[simp] theorem throw_run (e : Exn) (s : σ) :
    (throw e : Cxx σ α) s = ⟨.error (.exception e), s, []⟩ := rfl

@[simp] theorem undefined_run (s : σ) : (undefined : Cxx σ α) s = ⟨.error .undefined, s, []⟩ := rfl

theorem tryCatch_ok {x : Cxx σ α} {s t : σ} {a : α} (hx : Prog.Ends x s (.ok a) t)
    (handler : Exn → Cxx σ α) : Prog.Ends (tryCatch x handler) s (.ok a) t :=
  hx.catching_ok

theorem tryCatch_throw {x : Cxx σ α} {s t u : σ} {e : Exn} {o : Except Raised α}
    {handler : Exn → Cxx σ α} (hx : Prog.Ends x s (.error (.exception e)) t)
    (hhandler : Prog.Ends (handler e) t o u) : Prog.Ends (tryCatch x handler) s o u :=
  hx.catching_error hhandler

theorem tryCatch_undefined {x : Cxx σ α} {s t : σ} (hx : Prog.Ends x s (.error .undefined) t)
    (handler : Exn → Cxx σ α) : Prog.Ends (tryCatch x handler) s (.error .undefined) t :=
  hx.catching_error (Prog.Ends.raise _ t)

theorem unwinding_ok {x : Cxx σ α} {s t : σ} {a : α} (hx : Prog.Ends x s (.ok a) t)
    (cleanup : Cxx σ Unit) : Prog.Ends (unwinding x cleanup) s (.ok a) t :=
  tryCatch_ok hx _

theorem unwinding_throw {x : Cxx σ α} {s t u : σ} {e : Exn} {cleanup : Cxx σ Unit}
    (hx : Prog.Ends x s (.error (.exception e)) t) (hcleanup : Prog.Ends cleanup t (.ok ()) u) :
    Prog.Ends (unwinding x cleanup) s (.error (.exception e)) u :=
  tryCatch_throw hx (hcleanup.bind (Prog.Ends.raise _ u))

theorem inScope_ends {x : Cxx σ α} {destructor : Cxx σ Unit} {s t u : σ} {o : Except Raised α}
    (hx : Prog.Ends x s o t) (ho : o ≠ .error .undefined)
    (hdestructor : Prog.Ends destructor t (.ok ()) u) :
    Prog.Ends (inScope x destructor) s o u := by
  cases o with
  | ok a =>
    apply (unwinding_ok hx destructor).bind
    apply hdestructor.bind
    exact Prog.Ends.pure a u
  | error raised =>
    cases raised with
    | exception e => exact (unwinding_throw hx hdestructor).bind_error
    | undefined => exact (ho rfl).elim

theorem inScope_undefined {x : Cxx σ α} {s t : σ} (hx : Prog.Ends x s (.error .undefined) t)
    (destructor : Cxx σ Unit) : Prog.Ends (inScope x destructor) s (.error .undefined) t :=
  (tryCatch_undefined hx _).bind_error

theorem checkOk_run (rv : Int) (s : σ) :
    (checkOk rv : Cxx σ Unit) s =
      ⟨if rv = SQLITE_OK then .ok () else .error (.exception (staticError rv)), s, []⟩ := by
  by_cases h : rv = SQLITE_OK <;> simp [checkOk, h]

end Cxx

end Sqxx
