import Sqxx.Sqlite.Exec

/-!
# The C library's side of SQL text

`sqlite3_prepare_v2` compiles the first statement of a text and tells where it ends only through the
tail pointer; `sqlite3_exec` runs all statements.  White space and comments are given here, the
grammar of statements is the library's.
-/

namespace Sqxx
open Framework

/-- The first statement of a text and the number of bytes it takes. -/
inductive Compiled (St : Type)
  | failed (rv : Int)
  | blank
  | statement (stmt : St) (used : Nat)

/-- The bytes `sqlite3_prepare_v2(db, z, nByte, ..)` looks at. -/
def textSeen (z : CStr) (nByte : Int32) : Bytes :=
  if nByte < 0 then z.bytes else z.bytes.take nByte.toInt.toNat

/-- `compile` is the library's reading of a text, `sql` the text of a statement, `firstStep` what
its first step answers, `executed` the texts executed so far, oldest first. -/
class SqlTextApi (W : Type) (St : outParam Type) where
  compile : W → Bytes → Compiled St
  sql : St → Bytes
  firstStep : W → St → Int
  executed : W → List Bytes
  sqlite3PrepareV2 : W → CStr → Int32 → (Int × Option St) × W
  sqlite3Step : W → Option St → Int × W
  sqlite3Finalize : W → Option St → W

/-- What a preparation answers, by the library's reading of the text. -/
def Compiled.answer {St : Type} : Compiled St → Int × Option St
  | .failed rv => (rv, none)
  | .blank => (SQLITE_OK, none)
  | .statement stmt _ => (SQLITE_OK, some stmt)

structure SqlTextLaws (W : Type) {St Row : Type} [api : SqlTextApi W St] [exec : ExecApi W Row] :
    Prop where
  used : ∀ (w : W) (text : Bytes) stmt used, api.compile w text = .statement stmt used →
    api.sql stmt = text.take used
  failed : ∀ (w : W) (text : Bytes) rv, api.compile w text = .failed rv → rv ≠ SQLITE_OK
  prepare : ∀ (w : W) (z : CStr) (nByte : Int32),
    (api.sqlite3PrepareV2 w z nByte).1 = (api.compile w (textSeen z nByte)).answer ∧
      api.executed (api.sqlite3PrepareV2 w z nByte).2 = api.executed w
  firstStep : ∀ (w : W) (z : CStr) (nByte : Int32) stmt used,
    api.compile w (textSeen z nByte) = .statement stmt used →
      (api.sqlite3Step (api.sqlite3PrepareV2 w z nByte).2 (some stmt)).1 = api.firstStep w stmt
  stepNull : ∀ w : W, (api.sqlite3Step w none).1 = SQLITE_MISUSE
  step : ∀ (w : W) stmt, (api.sqlite3Step w (some stmt)).1 = SQLITE_ROW ∨
      (api.sqlite3Step w (some stmt)).1 = SQLITE_DONE →
    api.executed (api.sqlite3Step w (some stmt)).2 = api.executed w ++ [api.sql stmt]
  exec : ∀ {R : Type} (z : CStr) (w : W) (r : R) errmsg,
    (exec.sqlite3Exec z none (w, r)).outcome = .ok (SQLITE_OK, errmsg) →
      api.executed (exec.sqlite3Exec z none (w, r)).final.1 = api.executed w ++ [z.bytes]

/-- Where a scan is: in the text, in a comment up to the end of the line, in one up to `*/`. -/
inductive ScanMode
  | text
  | lineComment
  | blockComment
  deriving DecidableEq, Repr

def blankFrom (space : UInt8 → Bool) : ScanMode → Bytes → Bool
  | _, [] => true
  | .text, 45 :: 45 :: bs => blankFrom space .lineComment bs
  | .text, 47 :: 42 :: bs => blankFrom space .blockComment bs
  | .text, b :: bs => space b && blankFrom space .text bs
  | .lineComment, b :: bs => blankFrom space (if b = 10 then .text else .lineComment) bs
  | .blockComment, 42 :: 47 :: bs => blankFrom space .text bs
  | .blockComment, _ :: bs => blankFrom space .blockComment bs

/-- Space, tab, line feed, form feed, carriage return. -/
def isSpace (b : UInt8) : Bool := b = 32 || b = 9 || b = 10 || b = 12 || b = 13

/-- Nothing but white space and comments. -/
def Blank (bs : Bytes) : Prop := blankFrom isSpace .text bs = true

/-- Nothing but white space, comments and NUL bytes: no text of a statement. -/
def Textless (bs : Bytes) : Prop := blankFrom (fun b => isSpace b || b = 0) .text bs = true

instance : DecidablePred Blank := fun _ => inferInstanceAs (Decidable (_ = true))

instance : DecidablePred Textless := fun _ => inferInstanceAs (Decidable (_ = true))

end Sqxx
