import Sqxx.Sqlite.Config
import Sqxx.Framework.Ownership

/-!
# Start-up configuration

The `config_*` functions.  The two that register a log handler keep the handler object alive in the
global `config_callbacks`.
-/

namespace Sqxx
open Framework

inductive LogKind
  | log
  | sqllog
  deriving DecidableEq, Repr

/-- A `log_handler_t` or a `sqllog_handler_t` on the heap. -/
structure LogObject (F : Type) where
  kind : LogKind
  fn : F
  deriving DecidableEq, Repr

/-- The library, the handler objects and the members of `config_callbacks`. -/
structure ConfigState (W F : Type) where
  sqlite : W
  objects : Heap (LogObject F)
  callbacks : LogKind → Option Nat

namespace Config

variable {W V F : Type} [api : ConfigApi W V]

/-- A call of `sqlite3_config` with the check of its code. -/
def configure (op : ConfigOp) (args : List ConfigArg) : Cxx (ConfigState W F) Unit := do
  let rv ← Prog.effect fun st =>
    let (rv, sqlite) := api.config st.sqlite op args
    (rv, { st with sqlite := sqlite })
  Cxx.checkOk rv

def configSinglethread : Cxx (ConfigState W F) Unit := configure .singlethread []

def configMultithread : Cxx (ConfigState W F) Unit := configure .multithread []

def configSerialized : Cxx (ConfigState W F) Unit := configure .serialized []

def configMemstatus (enable : Bool) : Cxx (ConfigState W F) Unit :=
  configure .memstatus [.bool enable]

def configScratch (buf : Option Nat) (sz n : Int32) : Cxx (ConfigState W F) Unit :=
  configure .scratch [.pointer buf, .int sz, .int n]

def configPagecache (buf : Option Nat) (sz n : Int32) : Cxx (ConfigState W F) Unit :=
  configure .pagecache [.pointer buf, .int sz, .int n]

def configHeap (buf : Option Nat) (bytes minalloc : Int32) : Cxx (ConfigState W F) Unit :=
  configure .heap [.pointer buf, .int bytes, .int minalloc]

def configLookaside (sz n : Int32) : Cxx (ConfigState W F) Unit :=
  configure .lookaside [.int sz, .int n]

/-- `std::make_unique` of a copy of the function, which can throw. -/
def newObject (object : LogObject F) (fault : Option Exn) : Cxx (ConfigState W F) Nat :=
  match fault with
  | some e => Cxx.throw e
  | none => Prog.effect fun st =>
      (st.objects.next, { st with objects := st.objects.alloc object })

def deleteObject (cb : Nat) : Cxx (ConfigState W F) Unit :=
  Prog.perform fun st => { st with objects := st.objects.free cb }

/-- `config_callbacks.X = std::move(cb)`: the new object is stored, then the old one deleted. -/
def storeCallback (kind : LogKind) (cb : Nat) : Cxx (ConfigState W F) Unit := do
  let old ← Prog.reading fun st => st.callbacks kind
  Prog.perform fun st => { st with callbacks := Function.update st.callbacks kind (some cb) }
  Prog.perform fun st => { st with objects := st.objects.freeAll old.toList }

/-- The body of `config_log(fun)` and `config_sqllog(fun)` for a function that is not empty. -/
def configHandler (kind : LogKind) (op : ConfigOp) (fn : LogTrampoline) (f : F)
    (fault : Option Exn) : Cxx (ConfigState W F) Unit := do
  let cb ← newObject ⟨kind, f⟩ fault
  Cxx.unwinding (configure op [.function (some fn), .pointer (some cb)]) (deleteObject cb)
  storeCallback kind cb

def clearConfigLog : Cxx (ConfigState W F) Unit :=
  configure .log [.function none, .pointer none]

def configLog (f : Option F) (fault : Option Exn) : Cxx (ConfigState W F) Unit :=
  match f with
  | some f => configHandler .log .log .sqxxCallConfigLogHandler f fault
  | none => clearConfigLog

def configUri (enable : Bool) : Cxx (ConfigState W F) Unit := configure .uri [.bool enable]

def configCoveringIndexScan (enable : Bool) : Cxx (ConfigState W F) Unit :=
  configure .coveringIndexScan [.bool enable]

def clearConfigSqllog : Cxx (ConfigState W F) Unit :=
  configure .sqllog [.function none, .pointer none]

def configSqllog (f : Option F) (fault : Option Exn) : Cxx (ConfigState W F) Unit :=
  match f with
  | some f => configHandler .sqllog .sqllog .sqxxCallConfigSqllogHandler f fault
  | none => clearConfigSqllog

def configMmapSize (defaultlimit maxlimit : Int64) : Cxx (ConfigState W F) Unit :=
  configure .mmapSize [.int64 defaultlimit, .int64 maxlimit]

def configWin32Heapsize (maxsize : UInt32) : Cxx (ConfigState W F) Unit :=
  configure .win32Heapsize [.uint maxsize]

def configPcacheHdrsz : Cxx (ConfigState W F) Int32 := do
  let (rv, result) ← Prog.effect fun st =>
    let (answer, sqlite) := api.configPcacheHdrsz st.sqlite
    (answer, { st with sqlite := sqlite })
  Cxx.checkOk rv
  pure result

def configPmasz (minsize : UInt32) : Cxx (ConfigState W F) Unit := configure .pmasz [.uint minsize]

/-- The operation is the one of `config_pmasz`. -/
def configStmtjrnlSpill (threshold : Int32) : Cxx (ConfigState W F) Unit :=
  configure .pmasz [.int threshold]

def answered (rv : Int) : Except Raised Unit :=
  if rv = SQLITE_OK then .ok () else .error (.exception (staticError rv))

theorem configure_ends (op : ConfigOp) (args : List ConfigArg) (st : ConfigState W F) :
    Prog.Ends (configure op args) st (answered (api.config st.sqlite op args).1)
      { st with sqlite := (api.config st.sqlite op args).2 } := by
  constructor <;> simp [configure, Cxx.checkOk_run, answered]

section Handler

variable (kind : LogKind) (op : ConfigOp) (fn : LogTrampoline) (f : F) (st : ConfigState W F)

def registering : Int × W :=
  api.config st.sqlite op [.function (some fn), .pointer (some st.objects.next)]

omit api in
private theorem newObject_ends : Prog.Ends (newObject ⟨kind, f⟩ none) st (.ok st.objects.next)
    { st with objects := st.objects.alloc ⟨kind, f⟩ } :=
  Prog.Ends.effect _ st

theorem configHandler_no_object (e : Exn) :
    Prog.Ends (configHandler kind op fn f (some e)) st (.error (.exception e)) st := by
  have hnew : Prog.Ends (newObject ⟨kind, f⟩ (some e)) st (.error (.exception e)) st :=
    Prog.Ends.raise _ st
  exact hnew.bind_error

theorem configHandler_accepted (hok : (registering op fn st).1 = SQLITE_OK) :
    Prog.Ends (configHandler kind op fn f none) st (.ok ())
      { sqlite := (registering op fn st).2
        objects := (st.objects.alloc ⟨kind, f⟩).freeAll (st.callbacks kind).toList
        callbacks := Function.update st.callbacks kind (some st.objects.next) } := by
  have hask := configure_ends op [.function (some fn), .pointer (some st.objects.next)]
    { st with objects := st.objects.alloc ⟨kind, f⟩ }
  apply (newObject_ends kind f st).bind
  rw [show (api.config st.sqlite op _).1 = SQLITE_OK from hok, answered, if_pos rfl] at hask
  apply (Cxx.unwinding_ok hask _).bind
  apply (Prog.Ends.reading _ _).bind
  apply (Prog.Ends.perform _ _).bind
  exact Prog.Ends.perform _ _

theorem configHandler_rejected (hno : (registering op fn st).1 ≠ SQLITE_OK) :
    Prog.Ends (configHandler kind op fn f none) st
      (.error (.exception (staticError (registering op fn st).1)))
      { st with
        sqlite := (registering op fn st).2
        objects := (st.objects.alloc ⟨kind, f⟩).free st.objects.next } := by
  have hask := configure_ends op [.function (some fn), .pointer (some st.objects.next)]
    { st with objects := st.objects.alloc ⟨kind, f⟩ }
  have hcode : answered (registering op fn st).1 =
      .error (.exception (staticError (registering op fn st).1)) := if_neg hno
  apply (newObject_ends kind f st).bind
  apply Prog.Ends.bind_error
  apply Cxx.unwinding_throw
  · rw [← hcode]
    exact hask
  · exact Prog.Ends.perform _ _

end Handler

end Config

/-- A call of a `config_*` function. `fault` is what making the handler object throws, if it
does. -/
inductive ConfigCall (F : Type)
  | singlethread
  | multithread
  | serialized
  | memstatus (enable : Bool)
  | scratch (buf : Option Nat) (sz n : Int32)
  | pagecache (buf : Option Nat) (sz n : Int32)
  | heap (buf : Option Nat) (bytes minalloc : Int32)
  | lookaside (sz n : Int32)
  | log (f : Option F) (fault : Option Exn)
  | clearLog
  | uri (enable : Bool)
  | coveringIndexScan (enable : Bool)
  | sqllog (f : Option F) (fault : Option Exn)
  | clearSqllog
  | mmapSize (defaultlimit maxlimit : Int64)
  | win32Heapsize (maxsize : UInt32)
  | pcacheHdrsz
  | pmasz (minsize : UInt32)
  | stmtjrnlSpill (threshold : Int32)
  deriving DecidableEq, Repr

namespace ConfigCall

variable {W V F : Type} [api : ConfigApi W V]

def op : ConfigCall F → Cxx (ConfigState W F) Unit
  | .singlethread => Config.configSinglethread
  | .multithread => Config.configMultithread
  | .serialized => Config.configSerialized
  | .memstatus enable => Config.configMemstatus enable
  | .scratch buf sz n => Config.configScratch buf sz n
  | .pagecache buf sz n => Config.configPagecache buf sz n
  | .heap buf bytes minalloc => Config.configHeap buf bytes minalloc
  | .lookaside sz n => Config.configLookaside sz n
  | .log f fault => Config.configLog f fault
  | .clearLog => Config.clearConfigLog
  | .uri enable => Config.configUri enable
  | .coveringIndexScan enable => Config.configCoveringIndexScan enable
  | .sqllog f fault => Config.configSqllog f fault
  | .clearSqllog => Config.clearConfigSqllog
  | .mmapSize defaultlimit maxlimit => Config.configMmapSize defaultlimit maxlimit
  | .win32Heapsize maxsize => Config.configWin32Heapsize maxsize
  | .pcacheHdrsz => do
    let _result ← Config.configPcacheHdrsz
    pure ()
  | .pmasz minsize => Config.configPmasz minsize
  | .stmtjrnlSpill threshold => Config.configStmtjrnlSpill threshold

end ConfigCall

end Sqxx
