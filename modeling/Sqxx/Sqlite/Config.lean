import Sqxx.Error
import Mathlib.Logic.Function.Basic

/-!
# Start-up configuration of the C library

`sqlite3_config` takes an operation and arguments that depend on it.  Every operation names one
setting of the library, several of them the threading mode.
-/

namespace Sqxx

/-- The `SQLITE_CONFIG_*` operations that the wrapper uses to set something. -/
inductive ConfigOp
  | singlethread
  | multithread
  | serialized
  | memstatus
  | scratch
  | pagecache
  | heap
  | lookaside
  | log
  | uri
  | coveringIndexScan
  | sqllog
  | mmapSize
  | win32Heapsize
  | pmasz
  | stmtjrnlSpill
  deriving DecidableEq, Repr

/-- The C functions of the wrapper that the library calls to log. -/
inductive LogTrampoline
  | sqxxCallConfigLogHandler
  | sqxxCallConfigSqllogHandler
  deriving DecidableEq, Repr

/-- An argument of a variadic call. -/
inductive ConfigArg
  | int (n : Int32)
  | uint (n : UInt32)
  | int64 (n : Int64)
  | pointer (p : Option Nat)
  | function (fn : Option LogTrampoline)
  deriving DecidableEq, Repr

/-- A `bool` is passed as an `int`. -/
def ConfigArg.bool (b : Bool) : ConfigArg := .int (if b then 1 else 0)

inductive Setting
  | threading
  | memstatus
  | scratch
  | pagecache
  | heap
  | lookaside
  | log
  | uri
  | coveringIndexScan
  | sqllog
  | mmapSize
  | win32Heapsize
  | pmaSize
  | stmtjrnlSpill
  deriving DecidableEq, Repr

def ConfigOp.setting : ConfigOp → Setting
  | .singlethread | .multithread | .serialized => .threading
  | .memstatus => .memstatus
  | .scratch => .scratch
  | .pagecache => .pagecache
  | .heap => .heap
  | .lookaside => .lookaside
  | .log => .log
  | .uri => .uri
  | .coveringIndexScan => .coveringIndexScan
  | .sqllog => .sqllog
  | .mmapSize => .mmapSize
  | .win32Heapsize => .win32Heapsize
  | .pmasz => .pmaSize
  | .stmtjrnlSpill => .stmtjrnlSpill

/-- `sqlite3_config`, `sqlite3_initialize` and `sqlite3_shutdown`. The settings, what an operation
with arguments sets its setting to, and whether the library is initialised, are no functions of
the library. -/
class ConfigApi (W : Type) (V : outParam Type) where
  setting : W → Setting → V
  value : ConfigOp → List ConfigArg → V
  initialized : W → Bool
  config : W → ConfigOp → List ConfigArg → Int × W
  configPcacheHdrsz : W → (Int × Int32) × W
  sqliteInitialize : W → Int × W
  sqliteShutdown : W → Int × W

/-- A configuration fails without effect or sets exactly the setting its operation names. -/
structure ConfigLaws (W : Type) {V : Type} [api : ConfigApi W V] : Prop where
  rejected : ∀ (w : W) op args, (api.config w op args).1 ≠ SQLITE_OK →
    api.setting (api.config w op args).2 = api.setting w
  accepted : ∀ (w : W) op args, (api.config w op args).1 = SQLITE_OK →
    api.setting (api.config w op args).2 =
      Function.update (api.setting w) op.setting (api.value op args)
  pcacheHdrsz : ∀ w : W, api.setting (api.configPcacheHdrsz w).2 = api.setting w

/-- What a log setting is registered with: a function and its data pointer, both null if nothing is.
`registered` tells it of a value. -/
structure LogLaws (W : Type) {V : Type} [api : ConfigApi W V]
    (registered : V → Option LogTrampoline × Option Nat) : Prop extends ConfigLaws W where
  log : ∀ fn p, registered (api.value .log [.function fn, .pointer p]) = (fn, p)
  sqllog : ∀ fn p, registered (api.value .sqllog [.function fn, .pointer p]) = (fn, p)

/-- The request a setting was set by, if it was. -/
abbrev ConfigValue := Option (ConfigOp × List ConfigArg)

/-- A library that takes every configuration until it is initialised. -/
structure SettingTable where
  setting : Setting → ConfigValue
  initialized : Bool

def SettingTable.initial : SettingTable := ⟨fun _ => none, false⟩

instance : ConfigApi SettingTable ConfigValue where
  setting w := w.setting
  value op args := some (op, args)
  initialized w := w.initialized
  config w op args :=
    if w.initialized then (SQLITE_MISUSE, w)
    else
      (SQLITE_OK, { w with setting := Function.update w.setting op.setting (some (op, args)) })
  configPcacheHdrsz w := ((SQLITE_OK, 136), w)
  sqliteInitialize w := (SQLITE_OK, { w with initialized := true })
  sqliteShutdown w := (SQLITE_OK, { w with initialized := false })

theorem configLaws_settingTable : ConfigLaws SettingTable where
  rejected w op args hno := by
    cases h : w.initialized <;> simp [ConfigApi.config, ConfigApi.setting, h] at hno ⊢
  accepted w op args hok := by
    cases h : w.initialized
    · simp [ConfigApi.config, ConfigApi.setting, ConfigApi.value, h]
    · simp [ConfigApi.config, h, SQLITE_MISUSE, SQLITE_OK] at hok
  pcacheHdrsz w := rfl

def SettingTable.registered : ConfigValue → Option LogTrampoline × Option Nat
  | some (_, [.function fn, .pointer p]) => (fn, p)
  | _ => (none, none)

theorem logLaws_settingTable : LogLaws SettingTable SettingTable.registered where
  toConfigLaws := configLaws_settingTable
  log _fn _p := rfl
  sqllog _fn _p := rfl

end Sqxx
