import Sqxx.Sqlite.Work

/-!
# Transactions inside the C library

The contents of one database while a connection changes it.  The library tells the update hook of
some changes and not of others, and asks the commit hook before it commits changes.
-/

namespace Sqxx
open Framework

/-- `committed` is what other connections see and `pending` what this one sees. -/
structure Contents (X : Type) where
  committed : X
  pending : X
  deriving DecidableEq, Repr

/-- A change of one row, as the update hook tells it, and what it makes of the contents. -/
structure RowChange (X : Type) where
  op : Int32
  databaseName : CStr
  tableName : CStr
  rowid : Int64
  change : X → X

/-- What the library does in a transaction: it calls a hook, changes a row and tells the update
hook, changes the contents without telling (as for a truncated table, a table without rowids, or a
row that gives way to another), commits, or rolls back and may tell the rollback hook. -/
inductive TransactionAct (X : Type)
  | call (c : LibraryCall)
  | write (row : RowChange X)
  | change (f : X → X)
  | commit
  | rollback (told : Bool)

variable {X R : Type}

namespace TransactionAct

def effect : TransactionAct X → Contents X → Contents X
  | .call _, x => x
  | .write row, x => { x with pending := row.change x.pending }
  | .change f, x => { x with pending := f x.pending }
  | .commit, x => { x with committed := x.pending }
  | .rollback _, x => { x with pending := x.committed }

/-- The hook that is called when the contents have changed. -/
def hook : TransactionAct X → Option LibraryCall
  | .call c => some c
  | .write row => some (.update row.op row.databaseName row.tableName row.rowid)
  | .rollback told => if told then some .rollback else none
  | .change _ | .commit => none

end TransactionAct

abbrev TransactionWork (X R : Type) := Dialogue (TransactionAct X) (Option Int) R

/-- The commit hook refuses with every answer but zero. -/
def refuses : Option Int → Bool
  | some rv => rv != 0
  | none => false

section Lawful

variable (W : RowChange X → Prop) (Z : (X → X) → Prop)

/-- The commit hook was asked after the last change and has not refused. -/
def TransactionAct.approval (approved : Bool) (answer : Option Int) : TransactionAct X → Bool
  | .call c => if c.kind = .commit then !refuses answer else approved
  | .write _ | .change _ | .commit | .rollback _ => false

def TransactionAct.Lawful (approved : Bool) : TransactionAct X → Prop
  | .call c => c.kind ≠ .update ∧ c.kind ≠ .rollback
  | .write row => W row
  | .change f => Z f
  | .commit => approved = true
  | .rollback _ => True

/-- The changes are among `W`, which are told, and `Z`, which are not; the update and the rollback
hook are called for changes and rollbacks only, and changes are committed only after the commit hook
was asked and has not refused.  Where nothing has changed there is nothing to commit. -/
def Lawful (approved : Bool) : TransactionWork X R → Prop
  | .done _ => True
  | .ask act next => act.Lawful W Z approved ∧
    ∀ answer, Lawful (act.approval approved answer) (next answer)

end Lawful

/-! ## A library that does one thing at a time -/

def acting (act : TransactionAct X) : TransactionWork X Unit := .ask act fun _ => .done ()

/-- The end of a transaction: a commit that is refused becomes a rollback. -/
def committing : TransactionWork X Unit :=
  .ask (.call .commit) fun answer =>
    if refuses answer then acting (.rollback true) else acting .commit

theorem acting_lawful {W : RowChange X → Prop} {Z : (X → X) → Prop} {approved : Bool}
    {act : TransactionAct X} (hact : act.Lawful W Z approved) :
    Lawful W Z approved (acting act) :=
  ⟨hact, fun _ => trivial⟩

theorem committing_lawful (W : RowChange X → Prop) (Z : (X → X) → Prop) :
    Lawful W Z false committing := by
  refine ⟨⟨by decide, by decide⟩, fun answer => ?_⟩
  change Lawful W Z (!refuses answer)
    (if refuses answer then acting (.rollback true) else acting .commit)
  cases refuses answer with
  | true => exact acting_lawful trivial
  | false => exact acting_lawful rfl

end Sqxx
