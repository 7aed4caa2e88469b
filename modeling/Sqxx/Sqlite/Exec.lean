import Sqxx.Datatypes
import Sqxx.Error

/-!
# The C library's side of `sqlite3_exec`

`sqlite3_exec` runs SQL text and hands each result row to a C callback.  The callback acts on its
own state `R` only; what `sqlite3_exec` does when a callback throws through it is not documented.
-/

namespace Sqxx
open Framework

/-- A callback is handed rows one after another until it returns something else than zero: the
state it leaves, and whether it stopped. -/
inductive HandedRows {R Row : Type} (callback : Row → Cxx R Int) : List Row → R → Bool → R → Prop
  | finished (r : R) : HandedRows callback [] r false r
  | aborted {row : Row} {rows : List Row} {r t : R} {rv : Int}
    (hcall : Prog.Ends (callback row) r (.ok rv) t) (hrv : rv ≠ 0) :
    HandedRows callback (row :: rows) r true t
  | next {row : Row} {rows : List Row} {r t u : R} {stopped : Bool}
    (hcall : Prog.Ends (callback row) r (.ok 0) t)
    (hrest : HandedRows callback rows t stopped u) :
    HandedRows callback (row :: rows) r stopped u

/-- `produces` are the rows of all statements of a text and the code of the first error, if any.  A
message is named by its address. -/
class ExecApi (W : Type) (Row : outParam Type) where
  produces : W → CStr → List Row × Int
  sqlite3Exec : {R : Type} → CStr → Option (Row → Cxx R Int) → Cxx (W × R) (Int × Option Nat)
  message : W → Nat → String
  sqlite3Free : W → Nat → W

/-- `sqlite3_exec` returned `rv` and stored a message if that is a failure. -/
def ExecReturns {W R : Type} (x : Cxx (W × R) (Int × Option Nat)) (w : W) (r : R) (rv : Int)
    (r' : R) : Prop :=
  ∃ errmsg w', Prog.Ends x (w, r) (.ok (rv, errmsg)) (w', r') ∧
    (rv ≠ SQLITE_OK → ∃ p, errmsg = some p)

/-- One call per row; the first return value other than zero stops it with `SQLITE_ABORT`. -/
structure ExecLaws (W : Type) {Row : Type} [api : ExecApi W Row] : Prop where
  withoutCallback : ∀ {R : Type} (sql : CStr) (w : W) (r : R),
    ExecReturns (api.sqlite3Exec sql none) w r (api.produces w sql).2 r
  withCallback : ∀ {R : Type} (sql : CStr) (callback : Row → Cxx R Int) (w : W) (r r' : R)
    (stopped : Bool), HandedRows callback (api.produces w sql).1 r stopped r' →
      ExecReturns (api.sqlite3Exec sql (some callback)) w r
        (if stopped then SQLITE_ABORT else (api.produces w sql).2) r'

/-- What is left of `ExecLaws` where a call may fail for reasons of its own and with or without a
message: the callback is handed the rows and `sqlite3_exec` returns. -/
structure ExecCalls (W : Type) {Row : Type} [api : ExecApi W Row] : Prop where
  withoutCallback : ∀ {R : Type} (sql : CStr) (w : W) (r : R), ∃ rv errmsg w',
    Prog.Ends (api.sqlite3Exec sql none) (w, r) (.ok (rv, errmsg)) (w', r)
  withCallback : ∀ {R : Type} (sql : CStr) (callback : Row → Cxx R Int) (w : W) (r r' : R)
    (stopped : Bool), HandedRows callback (api.produces w sql).1 r stopped r' → ∃ rv errmsg w',
      Prog.Ends (api.sqlite3Exec sql (some callback)) (w, r) (.ok (rv, errmsg)) (w', r')

end Sqxx
