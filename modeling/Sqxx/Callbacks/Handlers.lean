import Sqxx.Datatypes
import Sqxx.Error

/-!
# Callbacks and the callback exception handler

The C functions that the library calls for hooks, collations and logs.  The user's function runs in
a `try` block there; what it throws is given to the callback exception handler, and what that one
throws to the default handler, which throws nothing.
-/

namespace Sqxx
open Framework

/-- A call into the user's code, with the arguments given: it acts on a state of its own and may
throw. -/
abbrev UserCode (U R : Type) := U → Except Exn R × U

abbrev ExceptionPtr := Option Exn

/-- What is installed by `set_callback_exception_handler`; at first the default. -/
inductive CallbackExceptionHandler (U : Type)
  | empty
  | default
  | user (fn : String → ExceptionPtr → UserCode U Unit)

inductive Description
  | notCaptured
  | what (ex : Exn)
  | unknownExceptionType
  deriving DecidableEq, Repr

/-- An exception that was given to the user's handler, or a line of the default one. -/
inductive Report
  | given (cbname : String) (ex : ExceptionPtr)
  | printed (cbname : String) (ex : ExceptionPtr) (text : Description)
  deriving DecidableEq, Repr

structure CallbackState (U : Type) where
  user : U
  handler : CallbackExceptionHandler U
  reports : List Report

def describe : ExceptionPtr → Description
  | none => .notCaptured
  | some (.other _) => .unknownExceptionType
  | some ex => .what ex

namespace Callbacks

variable {U R : Type}

def setCallbackExceptionHandler (fn : CallbackExceptionHandler U) : Cxx (CallbackState U) Unit :=
  Prog.perform fun s => { s with handler := fn }

def defaultCallbackExceptionHandler (cbname : String) (ex : ExceptionPtr) :
    Cxx (CallbackState U) Unit :=
  Prog.perform fun s => { s with reports := s.reports ++ [.printed cbname ex (describe ex)] }

def rethrowing (outcome : Except Exn R) : Cxx (CallbackState U) R :=
  match outcome with
  | .ok r => pure r
  | .error e => Cxx.throw e

def callUser (fn : UserCode U R) : Cxx (CallbackState U) R := do
  let outcome ← Prog.effect fun s => ((fn s.user).1, { s with user := (fn s.user).2 })
  rethrowing outcome

/-- `callback_exception_handler(cbname, ex)`; an empty `std::function` throws when called. -/
def callExceptionHandler (handler : CallbackExceptionHandler U) (cbname : String)
    (ex : ExceptionPtr) : Cxx (CallbackState U) Unit :=
  match handler with
  | .empty => Cxx.throw (.stdException "bad_function_call")
  | .default => defaultCallbackExceptionHandler cbname ex
  | .user fn => do
    Prog.perform fun s => { s with reports := s.reports ++ [.given cbname ex] }
    callUser (fn cbname ex)

/-- `current` is the exception of the `catch` block this is called in. -/
def handleCallbackException (cbname : String) (current : Exn) : Cxx (CallbackState U) Unit := do
  let handler ← Prog.reading CallbackState.handler
  match handler with
  | .empty => pure ()
  | handler =>
    Cxx.tryCatch (callExceptionHandler handler cbname (some current)) fun e =>
      defaultCallbackExceptionHandler "callback exception handler" (some e)

/-- The `try` block of every callback: the fallback is returned when the user's function throws. -/
def guarded (cbname : String) (fallback : R) (body : Cxx (CallbackState U) R) :
    Cxx (CallbackState U) R :=
  Cxx.tryCatch body fun e => do
    handleCallbackException cbname e
    pure fallback

def toInt (b : Bool) : Int := if b then 1 else 0

def sqxxCallCommitHandler (fn : UserCode U Int) : Cxx (CallbackState U) Int :=
  guarded "commit handler" 1 (callUser fn)

def sqxxCallRollbackHandler (fn : UserCode U Unit) : Cxx (CallbackState U) Unit :=
  guarded "rollback handler" () (callUser fn)

def sqxxCallUpdateHandler (fn : Int32 → CStr → CStr → Int64 → UserCode U Unit) (op : Int32)
    (databaseName tableName : CStr) (rowid : Int64) : Cxx (CallbackState U) Unit :=
  guarded "update handler" () (callUser (fn op databaseName tableName rowid))

def sqxxCallTraceHandler (fn : CStr → UserCode U Unit) (sql : CStr) :
    Cxx (CallbackState U) Unit :=
  guarded "trace handler" () (callUser (fn sql))

def sqxxCallProfileHandler (fn : CStr → UInt64 → UserCode U Unit) (sql : CStr) (nsec : UInt64) :
    Cxx (CallbackState U) Unit :=
  guarded "profile handler" () (callUser (fn sql nsec))

def sqxxCallAuthorizeHandler
    (fn : Int32 → Option CStr → Option CStr → Option CStr → Option CStr → UserCode U Int)
    (action : Int32) (d1 d2 d3 d4 : Option CStr) : Cxx (CallbackState U) Int :=
  guarded "authorize handler" SQLITE_IGNORE (callUser (fn action d1 d2 d3 d4))

def sqxxCallBusyHandler (fn : Int32 → UserCode U Bool) (count : Int32) :
    Cxx (CallbackState U) Int :=
  guarded "busy handler" 0 do
    let again ← callUser (fn count)
    pure (toInt again)

def sqxxCallProgressHandler (fn : UserCode U Bool) : Cxx (CallbackState U) Int :=
  guarded "progress handler" 0 do
    let stop ← callUser fn
    pure (toInt stop)

def sqxxCallWalHandler (fn : CStr → Int32 → UserCode U Unit) (dbname : CStr) (pages : Int32) :
    Cxx (CallbackState U) Int :=
  guarded "wal handler" SQLITE_ERROR do
    callUser (fn dbname pages)
    pure SQLITE_OK

/-- `conn` is the connection in the `collation_data_t`; the text representation is not looked at. -/
def sqxxCallCollationHandler (fn : Nat → CStr → UserCode U Unit) (conn : Nat) (_textrep : Int32)
    (name : CStr) : Cxx (CallbackState U) Unit :=
  guarded "collation handler" () (callUser (fn conn name))

def collationComparePtr (callable : Int32 → Pointer → Int32 → Pointer → UserCode U Int)
    (llen : Int32) (lstr : Pointer) (rlen : Int32) (rstr : Pointer) : Cxx (CallbackState U) Int :=
  guarded "collation function" 0 (callUser (callable llen lstr rlen rstr))

def collationCompareStaticfptr (Fun : Int32 → Pointer → Int32 → Pointer → UserCode U Int)
    (llen : Int32) (lstr : Pointer) (rlen : Int32) (rstr : Pointer) : Cxx (CallbackState U) Int :=
  guarded "collation function" 0 (callUser (Fun llen lstr rlen rstr))

def sqxxCallConfigLogHandler (fn : Int32 → CStr → UserCode U Unit) (err : Int32) (msg : CStr) :
    Cxx (CallbackState U) Unit :=
  guarded "log handler" () (callUser (fn err msg))

def sqxxCallConfigSqllogHandler (fn : Option CStr → Int32 → UserCode U Unit) (msg : Option CStr)
    (kind : Int32) : Cxx (CallbackState U) Unit :=
  guarded "sqllog handler" () (callUser (fn msg kind))

end Callbacks

/-- A call that the library makes, with the user's function its data refers to. -/
inductive HandlerCall (U : Type)
  | commit (fn : UserCode U Int)
  | rollback (fn : UserCode U Unit)
  | update (fn : Int32 → CStr → CStr → Int64 → UserCode U Unit) (op : Int32)
      (databaseName tableName : CStr) (rowid : Int64)
  | trace (fn : CStr → UserCode U Unit) (sql : CStr)
  | profile (fn : CStr → UInt64 → UserCode U Unit) (sql : CStr) (nsec : UInt64)
  | authorize
      (fn : Int32 → Option CStr → Option CStr → Option CStr → Option CStr → UserCode U Int)
      (action : Int32) (d1 d2 d3 d4 : Option CStr)
  | busy (fn : Int32 → UserCode U Bool) (count : Int32)
  | progress (fn : UserCode U Bool)
  | wal (fn : CStr → Int32 → UserCode U Unit) (dbname : CStr) (pages : Int32)
  | collationNeeded (fn : Nat → CStr → UserCode U Unit) (conn : Nat) (textrep : Int32)
      (name : CStr)
  | comparePtr (callable : Int32 → Pointer → Int32 → Pointer → UserCode U Int) (llen : Int32)
      (lstr : Pointer) (rlen : Int32) (rstr : Pointer)
  | compareStaticfptr (Fun : Int32 → Pointer → Int32 → Pointer → UserCode U Int) (llen : Int32)
      (lstr : Pointer) (rlen : Int32) (rstr : Pointer)
  | log (fn : Int32 → CStr → UserCode U Unit) (err : Int32) (msg : CStr)
  | sqllog (fn : Option CStr → Int32 → UserCode U Unit) (msg : Option CStr) (kind : Int32)

namespace HandlerCall

open Callbacks

variable {U : Type}

def returning (x : Cxx (CallbackState U) Int) : Cxx (CallbackState U) (Option Int) := do
  let rv ← x
  pure (some rv)

def returningNothing (x : Cxx (CallbackState U) Unit) : Cxx (CallbackState U) (Option Int) := do
  x
  pure none

/-- The C function that is called, with the integer it returns, if it returns one. -/
def entry : HandlerCall U → Cxx (CallbackState U) (Option Int)
  | .commit fn => returning (sqxxCallCommitHandler fn)
  | .rollback fn => returningNothing (sqxxCallRollbackHandler fn)
  | .update fn op databaseName tableName rowid =>
    returningNothing (sqxxCallUpdateHandler fn op databaseName tableName rowid)
  | .trace fn sql => returningNothing (sqxxCallTraceHandler fn sql)
  | .profile fn sql nsec => returningNothing (sqxxCallProfileHandler fn sql nsec)
  | .authorize fn action d1 d2 d3 d4 =>
    returning (sqxxCallAuthorizeHandler fn action d1 d2 d3 d4)
  | .busy fn count => returning (sqxxCallBusyHandler fn count)
  | .progress fn => returning (sqxxCallProgressHandler fn)
  | .wal fn dbname pages => returning (sqxxCallWalHandler fn dbname pages)
  | .collationNeeded fn conn textrep name =>
    returningNothing (sqxxCallCollationHandler fn conn textrep name)
  | .comparePtr callable llen lstr rlen rstr =>
    returning (collationComparePtr callable llen lstr rlen rstr)
  | .compareStaticfptr Fun llen lstr rlen rstr =>
    returning (collationCompareStaticfptr Fun llen lstr rlen rstr)
  | .log fn err msg => returningNothing (sqxxCallConfigLogHandler fn err msg)
  | .sqllog fn msg kind => returningNothing (sqxxCallConfigSqllogHandler fn msg kind)

def cbname : HandlerCall U → String
  | .commit _ => "commit handler"
  | .rollback _ => "rollback handler"
  | .update _ _ _ _ _ => "update handler"
  | .trace _ _ => "trace handler"
  | .profile _ _ _ => "profile handler"
  | .authorize _ _ _ _ _ _ => "authorize handler"
  | .busy _ _ => "busy handler"
  | .progress _ => "progress handler"
  | .wal _ _ _ => "wal handler"
  | .collationNeeded _ _ _ _ => "collation handler"
  | .comparePtr _ _ _ _ _ | .compareStaticfptr _ _ _ _ _ => "collation function"
  | .log _ _ _ => "log handler"
  | .sqllog _ _ _ => "sqllog handler"

/-- What the library gets when the user's function has thrown. -/
def fallback : HandlerCall U → Option Int
  | .commit _ => some 1
  | .authorize _ _ _ _ _ _ => some SQLITE_IGNORE
  | .wal _ _ _ => some SQLITE_ERROR
  | .busy _ _ | .progress _ | .comparePtr _ _ _ _ _ | .compareStaticfptr _ _ _ _ _ => some 0
  | _ => none

def answering {R : Type} (pass : R → Option Int) (fn : UserCode U R) : UserCode U (Option Int) :=
  fun u => ((fn u).1.map pass, (fn u).2)

/-- The user's function on the arguments of the call, and what its value is to the library. -/
def userCall : HandlerCall U → UserCode U (Option Int)
  | .commit fn => answering some fn
  | .rollback fn => answering (fun _ => none) fn
  | .update fn op databaseName tableName rowid =>
    answering (fun _ => none) (fn op databaseName tableName rowid)
  | .trace fn sql => answering (fun _ => none) (fn sql)
  | .profile fn sql nsec => answering (fun _ => none) (fn sql nsec)
  | .authorize fn action d1 d2 d3 d4 => answering some (fn action d1 d2 d3 d4)
  | .busy fn count => answering (fun again => some (toInt again)) (fn count)
  | .progress fn => answering (fun stop => some (toInt stop)) fn
  | .wal fn dbname pages => answering (fun _ => some SQLITE_OK) (fn dbname pages)
  | .collationNeeded fn conn _ name => answering (fun _ => none) (fn conn name)
  | .comparePtr callable llen lstr rlen rstr => answering some (callable llen lstr rlen rstr)
  | .compareStaticfptr Fun llen lstr rlen rstr => answering some (Fun llen lstr rlen rstr)
  | .log fn err msg => answering (fun _ => none) (fn err msg)
  | .sqllog fn msg kind => answering (fun _ => none) (fn msg kind)

end HandlerCall

variable {U R A : Type}

/-- What is reported of an exception: to the installed handler once, and to the default handler
once what that one throws. -/
def reportsOf (cbname : String) (e : Exn) (u : U) : CallbackExceptionHandler U → List Report
  | .empty => []
  | .default => [.printed cbname (some e) (describe (some e))]
  | .user fn =>
    match (fn cbname (some e) u).1 with
    | .ok _ => [.given cbname (some e)]
    | .error e' =>
      [.given cbname (some e),
        .printed "callback exception handler" (some e') (describe (some e'))]

/-- The user's state after the installed handler. -/
def afterHandler (cbname : String) (e : Exn) (u : U) : CallbackExceptionHandler U → U
  | .user fn => (fn cbname (some e) u).2
  | .empty | .default => u

def CallbackState.handled (s : CallbackState U) (cbname : String) (e : Exn) : CallbackState U where
  user := afterHandler cbname e s.user s.handler
  handler := s.handler
  reports := s.reports ++ reportsOf cbname e s.user s.handler

namespace Callbacks

theorem callUser_ok {fn : UserCode U R} {s : CallbackState U} {r : R} {u : U}
    (hfn : fn s.user = (.ok r, u)) : Prog.Ends (callUser fn) s (.ok r) { s with user := u } := by
  constructor <;> simp [callUser, rethrowing, hfn]

theorem callUser_throw {fn : UserCode U R} {s : CallbackState U} {e : Exn} {u : U}
    (hfn : fn s.user = (.error e, u)) :
    Prog.Ends (callUser fn) s (.error (.exception e)) { s with user := u } := by
  constructor <;> simp [callUser, rethrowing, hfn]

private theorem handleCallbackException_ends (cbname : String) (e : Exn) (s : CallbackState U) :
    Prog.Ends (handleCallbackException cbname e) s (.ok ()) (s.handled cbname e) := by
  obtain ⟨u, handler, reports⟩ := s
  apply (Prog.Ends.reading _ _).bind
  cases handler with
  | empty =>
    have hsame : CallbackState.handled ⟨u, .empty, reports⟩ cbname e =
        (⟨u, .empty, reports⟩ : CallbackState U) := by
      simp [CallbackState.handled, reportsOf, afterHandler]
    rw [hsame]
    exact Prog.Ends.pure () _
  | default =>
    apply Cxx.tryCatch_ok
    exact Prog.Ends.perform _ _
  | user fn =>
    let told : CallbackState U := ⟨u, .user fn, reports ++ [.given cbname (some e)]⟩
    rcases hfn : fn cbname (some e) u with ⟨outcome, u'⟩
    cases outcome with
    | ok v =>
      have hcall : Prog.Ends (callUser (fn cbname (some e))) told (.ok v)
          { told with user := u' } := callUser_ok hfn
      have hhandled : CallbackState.handled ⟨u, .user fn, reports⟩ cbname e =
          { told with user := u' } := by
        simp [CallbackState.handled, reportsOf, afterHandler, hfn, told]
      rw [hhandled]
      apply Cxx.tryCatch_ok
      exact (Prog.Ends.perform _ _).bind hcall
    | error e' =>
      have hcall : Prog.Ends (callUser (fn cbname (some e))) told (.error (.exception e'))
          { told with user := u' } := callUser_throw hfn
      have hhandled : CallbackState.handled ⟨u, .user fn, reports⟩ cbname e =
          { told with
            user := u'
            reports := told.reports ++
              [.printed "callback exception handler" (some e') (describe (some e'))] } := by
        simp [CallbackState.handled, reportsOf, afterHandler, hfn, told]
      rw [hhandled]
      apply Cxx.tryCatch_throw ((Prog.Ends.perform _ _).bind hcall)
      exact Prog.Ends.perform _ _

theorem guarded_ok {cbname : String} {fallback a : A} {body : Cxx (CallbackState U) A}
    {s t : CallbackState U} (hbody : Prog.Ends body s (.ok a) t) :
    Prog.Ends (guarded cbname fallback body) s (.ok a) t :=
  Cxx.tryCatch_ok hbody _

theorem guarded_throw {cbname : String} {fallback : A} {body : Cxx (CallbackState U) A} {e : Exn}
    {s t : CallbackState U} (hbody : Prog.Ends body s (.error (.exception e)) t) :
    Prog.Ends (guarded cbname fallback body) s (.ok fallback)
      (t.handled cbname e) := by
  apply Cxx.tryCatch_throw hbody
  apply (handleCallbackException_ends cbname e t).bind
  exact Prog.Ends.pure fallback _

/-- The body calls the user's function and makes `value` of what it returns. -/
structure Calls (fn : UserCode U R) (value : R → A) (body : Cxx (CallbackState U) A) : Prop where
  ok : ∀ s r u, fn s.user = (.ok r, u) → Prog.Ends body s (.ok (value r)) { s with user := u }
  throws : ∀ s e u, fn s.user = (.error e, u) →
    Prog.Ends body s (.error (.exception e)) { s with user := u }

private theorem calls_callUser (fn : UserCode U R) : Calls fn id (callUser fn) where
  ok _ _ _ hfn := callUser_ok hfn
  throws _ _ _ hfn := callUser_throw hfn

private theorem calls_map (fn : UserCode U R) (value : R → A) :
    Calls fn value (do
      let r ← callUser fn
      pure (value r)) where
  ok _ _ _ hfn := (callUser_ok hfn).bind (Prog.Ends.pure _ _)
  throws _ _ _ hfn := (callUser_throw hfn).bind_error

/-- How a guarded call ends, by what the user's function does. -/
structure GuardedEnds (fn : UserCode U (Option Int)) (cbname : String) (fallback : Option Int)
    (x : Cxx (CallbackState U) (Option Int)) (s : CallbackState U) : Prop where
  returned : ∀ v u, fn s.user = (.ok v, u) → Prog.Ends x s (.ok v) { s with user := u }
  thrown : ∀ e u, fn s.user = (.error e, u) →
    Prog.Ends x s (.ok fallback) (CallbackState.handled { s with user := u } cbname e)

theorem Calls.guarded {fn : UserCode U R} {value : R → A} {body : Cxx (CallbackState U) A}
    (hbody : Calls fn value body) (cbname : String) (fallback : A) (pass : A → Option Int)
    (s : CallbackState U) :
    GuardedEnds (HandlerCall.answering (fun r => pass (value r)) fn) cbname (pass fallback) (do
      let a ← guarded cbname fallback body
      pure (pass a)) s := by
  constructor
  · intro v u hanswer
    rcases hfn : fn s.user with ⟨outcome, u'⟩
    rw [HandlerCall.answering, hfn] at hanswer
    cases outcome with
    | error e => cases hanswer
    | ok r =>
      cases hanswer
      exact (guarded_ok (hbody.ok s r u' hfn)).bind (Prog.Ends.pure _ _)
  · intro e u hanswer
    rcases hfn : fn s.user with ⟨outcome, u'⟩
    rw [HandlerCall.answering, hfn] at hanswer
    cases outcome with
    | ok r => cases hanswer
    | error e' =>
      cases hanswer
      exact (guarded_throw (hbody.throws s e u' hfn)).bind (Prog.Ends.pure _ _)

end Callbacks

namespace HandlerCall

open Callbacks

/-- Every one of the C functions returns, and hands on the value or reports the exception. -/
theorem entry_ends (c : HandlerCall U) (s : CallbackState U) :
    GuardedEnds c.userCall c.cbname c.fallback c.entry s := by
  cases c with
  | commit fn => exact (calls_callUser fn).guarded _ _ some s
  | rollback fn => exact (calls_callUser fn).guarded _ _ (fun _ => none) s
  | update fn op databaseName tableName rowid =>
    exact (calls_callUser (fn op databaseName tableName rowid)).guarded _ _ (fun _ => none) s
  | trace fn sql => exact (calls_callUser (fn sql)).guarded _ _ (fun _ => none) s
  | profile fn sql nsec => exact (calls_callUser (fn sql nsec)).guarded _ _ (fun _ => none) s
  | authorize fn action d1 d2 d3 d4 =>
    exact (calls_callUser (fn action d1 d2 d3 d4)).guarded _ _ some s
  | busy fn count => exact (calls_map (fn count) toInt).guarded _ _ some s
  | progress fn => exact (calls_map fn toInt).guarded _ _ some s
  | wal fn dbname pages => exact (calls_map (fn dbname pages) fun _ => SQLITE_OK).guarded _ _ some s
  | collationNeeded fn conn textrep name =>
    exact (calls_callUser (fn conn name)).guarded _ _ (fun _ => none) s
  | comparePtr callable llen lstr rlen rstr =>
    exact (calls_callUser (callable llen lstr rlen rstr)).guarded _ _ some s
  | compareStaticfptr Fun llen lstr rlen rstr =>
    exact (calls_callUser (Fun llen lstr rlen rstr)).guarded _ _ some s
  | log fn err msg => exact (calls_callUser (fn err msg)).guarded _ _ (fun _ => none) s
  | sqllog fn msg kind => exact (calls_callUser (fn msg kind)).guarded _ _ (fun _ => none) s

def ran (c : HandlerCall U) (s : CallbackState U) : Option Int × CallbackState U :=
  match c.userCall s.user with
  | (.ok v, u) => (v, { s with user := u })
  | (.error e, u) => (c.fallback, CallbackState.handled { s with user := u } c.cbname e)

theorem ran_ok {c : HandlerCall U} {s : CallbackState U} {v : Option Int} {u : U}
    (hcall : c.userCall s.user = (.ok v, u)) : c.ran s = (v, { s with user := u }) := by
  rw [ran, hcall]

theorem ran_throw {c : HandlerCall U} {s : CallbackState U} {e : Exn} {u : U}
    (hcall : c.userCall s.user = (.error e, u)) :
    c.ran s = (c.fallback, CallbackState.handled { s with user := u } c.cbname e) := by
  rw [ran, hcall]

theorem entry_ran (c : HandlerCall U) (s : CallbackState U) :
    Prog.Ends c.entry s (.ok (c.ran s).1) (c.ran s).2 := by
  obtain ⟨hreturned, hthrown⟩ := c.entry_ends s
  rcases hcall : c.userCall s.user with ⟨_ | v, u⟩
  · rw [ran_throw hcall]
    exact hthrown _ u hcall
  · rw [ran_ok hcall]
    exact hreturned v u hcall

theorem ran_handler (c : HandlerCall U) (s : CallbackState U) :
    (c.ran s).2.handler = s.handler := by
  rcases hcall : c.userCall s.user with ⟨_ | v, u⟩
  · rw [ran_throw hcall]
    rfl
  · rw [ran_ok hcall]

/-- What holds of the user's state after the function, however it ends, and is kept by the
exception handler, holds after the call. -/
theorem ran_keeps {J : U → Prop} {c : HandlerCall U} {s : CallbackState U}
    (hcall : ∀ o u, c.userCall s.user = (o, u) → J u)
    (hhandler : ∀ cbname e u, J u → J (afterHandler cbname e u s.handler)) :
    J (c.ran s).2.user := by
  rcases hrun : c.userCall s.user with ⟨_ | v, u⟩
  · rw [ran_throw hrun]
    exact hhandler _ _ u (hcall _ u hrun)
  · rw [ran_ok hrun]
    exact hcall _ u hrun

end HandlerCall

end Sqxx
