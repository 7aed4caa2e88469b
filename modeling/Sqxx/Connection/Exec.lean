import Sqxx.Sqlite.Exec

/-!
# exec with a row handler

The handler runs below `sqlite3_exec`, a C function, so what it throws is parked in a context and
thrown again when `sqlite3_exec` has returned.
-/

namespace Sqxx
open Framework

/-- `exec_handler_t`: a function of the row with a state of its own, which may throw. -/
abbrev ExecHandler (U Row : Type) := Row → U → Except Exn Bool × U

/-- The handler's state, the rows it was called on, and the member `ex` of the `exec_context`. -/
structure ExecContext (U Row : Type) where
  user : U
  calls : List Row
  ex : Option Exn

namespace Connection

variable {W U Row : Type} [api : ExecApi W Row]

def callHandler (fn : ExecHandler U Row) (row : Row) : Cxx (ExecContext U Row) Bool := do
  let answer ← Prog.effect fun ctx =>
    ((fn row ctx.user).1, { ctx with user := (fn row ctx.user).2, calls := ctx.calls ++ [row] })
  match answer with
  | .ok stop => pure stop
  | .error e => Cxx.throw e

def sqxxCallExecHandler (fn : ExecHandler U Row) (row : Row) : Cxx (ExecContext U Row) Int :=
  Cxx.tryCatch (do
    let stop ← callHandler fn row
    pure (if stop then 1 else 0)) fun e => do
    Prog.perform fun ctx => { ctx with ex := some e }
    pure 1

/-- `error(rv, errmsg)` is built before the message is freed; from a null pointer it cannot be. -/
def throwOnFailure {R : Type} (rv : Int) (errmsg : Option Nat) : Cxx (W × R) Unit :=
  if rv ≠ SQLITE_OK then
    match errmsg with
    | none => Cxx.undefined
    | some p => do
      let what ← Prog.reading fun s => api.message s.1 p
      Prog.perform fun s => (api.sqlite3Free s.1 p, s.2)
      Cxx.throw (.error rv (.text what))
  else
    pure ()

def exec {R : Type} (sql : CStr) : Cxx (W × R) Unit := do
  let (rv, errmsg) ← api.sqlite3Exec sql none
  throwOnFailure rv errmsg

/-- `exec(sql, fun)`; without a value `fun` is the empty function. -/
def execHandler (sql : CStr) (fn : Option (ExecHandler U Row)) :
    Cxx (W × ExecContext U Row) Unit :=
  match fn with
  | none => exec sql
  | some fn => do
    Prog.perform fun s => (s.1, { s.2 with ex := none })
    let (rv, errmsg) ← api.sqlite3Exec sql (some (sqxxCallExecHandler fn))
    let ex ← Prog.reading fun s => s.2.ex
    match ex with
    | some e => Cxx.throw e
    | none => throwOnFailure rv errmsg

end Connection

/-- What the handler answers to the rows, were it called on all of them in order. -/
def ExecHandler.answers {U Row : Type} (fn : ExecHandler U Row) :
    U → List Row → List (Except Exn Bool)
  | _, [] => []
  | u, row :: rows => (fn row u).1 :: answers fn (fn row u).2 rows

def goesOn : Except Exn Bool → Bool
  | .ok false => true
  | _ => false

/-- The number of rows before the first one whose answer ends the execution. -/
def ExecHandler.passed {U Row : Type} (fn : ExecHandler U Row) (u : U) (rows : List Row) : Nat :=
  ((fn.answers u rows).takeWhile goesOn).length

/-- How `exec` has to end, by the answer that ended the execution and the code of SQLite. -/
def ExecEnds (code : Int) (answer : Option (Except Exn Bool)) (o : Except Raised Unit) : Prop :=
  match answer with
  | some (.error e) => o = .error (.exception e)
  | some (.ok _) => ∃ what, o = .error (.exception (.error SQLITE_ABORT what))
  | none =>
    if code = SQLITE_OK then o = .ok ()
    else ∃ what, o = .error (.exception (.error code what))

namespace Connection

variable {W U Row : Type} [api : ExecApi W Row]

def afterRow (fn : ExecHandler U Row) (row : Row) (ctx : ExecContext U Row) :
    ExecContext U Row where
  user := (fn row ctx.user).2
  calls := ctx.calls ++ [row]
  ex := match (fn row ctx.user).1 with
    | .error e => some e
    | .ok _ => ctx.ex

/-- The callback returns whatever the handler does: zero to go on, one to stop. -/
theorem sqxxCallExecHandler_ends (fn : ExecHandler U Row) (row : Row) (ctx : ExecContext U Row) :
    Prog.Ends (sqxxCallExecHandler fn row) ctx
      (.ok (if goesOn (fn row ctx.user).1 then 0 else 1)) (afterRow fn row ctx) := by
  let called : ExecContext U Row :=
    { ctx with user := (fn row ctx.user).2, calls := ctx.calls ++ [row] }
  rcases h : (fn row ctx.user).1 with e | stop
  · have hthrow : Prog.Ends (callHandler fn row) ctx (.error (.exception e)) called := by
      constructor <;> simp [callHandler, called, h]
    have hparked : afterRow fn row ctx = { called with ex := some e } := by
      simp [afterRow, called, h]
    rw [hparked]
    apply Cxx.tryCatch_throw hthrow.bind_error
    exact (Prog.Ends.perform _ called).bind (Prog.Ends.pure 1 _)
  · have hreturn : Prog.Ends (callHandler fn row) ctx (.ok stop) called := by
      constructor <;> simp [callHandler, called, h]
    have hkept : afterRow fn row ctx = called := by
      simp [afterRow, called, h]
    rw [hkept]
    have hcall : Prog.Ends (sqxxCallExecHandler fn row) ctx
        (.ok (if stop then 1 else 0)) called := by
      apply Cxx.tryCatch_ok
      apply hreturn.bind
      exact Prog.Ends.pure _ called
    cases stop with
    | false => exact hcall
    | true => exact hcall

/-- What the library does with the callback, and what that leaves in the context. -/
theorem handedRows (fn : ExecHandler U Row) (rows : List Row) (ctx : ExecContext U Row)
    (hex : ctx.ex = none) :
    ∃ stopped ctx', HandedRows (sqxxCallExecHandler fn) rows ctx stopped ctx' ∧
      ctx'.calls = ctx.calls ++ rows.take (fn.passed ctx.user rows + 1) ∧
      match (fn.answers ctx.user rows)[fn.passed ctx.user rows]? with
      | some (.error e) => stopped = true ∧ ctx'.ex = some e
      | some (.ok _) => stopped = true ∧ ctx'.ex = none
      | none => stopped = false ∧ ctx'.ex = none := by
  induction rows generalizing ctx with
  | nil => exact ⟨false, ctx, .finished ctx, by simp [ExecHandler.answers, hex]⟩
  | cons row rows ih =>
    have hcall := sqxxCallExecHandler_ends fn row ctx
    by_cases hgoes : goesOn (fn row ctx.user).1 = true
    · -- the row is passed and the others are handed on
      have hex' : (afterRow fn row ctx).ex = none := by
        rcases h : (fn row ctx.user).1 with e | stop
        · rw [h] at hgoes
          cases hgoes
        · simp [afterRow, h, hex]
      obtain ⟨stopped, ctx', hrest, hcalls, hends⟩ := ih (afterRow fn row ctx) hex'
      have hpassed : fn.passed ctx.user (row :: rows) =
          fn.passed (afterRow fn row ctx).user rows + 1 := by
        simp [ExecHandler.passed, ExecHandler.answers, afterRow, hgoes]
      rw [if_pos hgoes] at hcall
      refine ⟨stopped, ctx', .next hcall hrest, ?_, ?_⟩
      · rw [hcalls, hpassed, List.take_succ_cons]
        simp [afterRow]
      · rw [hpassed, ExecHandler.answers, List.getElem?_cons_succ]
        exact hends
    · have hpassed : fn.passed ctx.user (row :: rows) = 0 := by
        simp [ExecHandler.passed, ExecHandler.answers, hgoes]
      rw [if_neg hgoes] at hcall
      refine ⟨true, afterRow fn row ctx, .aborted hcall (by decide), ?_, ?_⟩
      · rw [hpassed]
        rfl
      · rw [hpassed, ExecHandler.answers, List.getElem?_cons_zero]
        rcases h : (fn row ctx.user).1 with e | stop
        · simp [afterRow, h]
        · simp [afterRow, h, hex]

private theorem throwOnFailure_ends {R : Type} (rv : Int) (errmsg : Option Nat) (s : W × R)
    (herrmsg : rv ≠ SQLITE_OK → ∃ p, errmsg = some p) :
    ∃ w',
      Prog.Ends (throwOnFailure rv errmsg) s (throwOnFailure rv errmsg s).outcome (w', s.2) ∧
      ExecEnds rv none (throwOnFailure rv errmsg s).outcome := by
  by_cases hrv : rv = SQLITE_OK
  · refine ⟨s.1, ⟨rfl, ?_⟩, ?_⟩
    · simp [throwOnFailure, hrv]
    · simp [throwOnFailure, ExecEnds, hrv]
  · obtain ⟨p, rfl⟩ := herrmsg hrv
    refine ⟨api.sqlite3Free s.1 p, ⟨rfl, ?_⟩, ?_⟩
    · simp [throwOnFailure, hrv]
    · simp [throwOnFailure, ExecEnds, hrv]

theorem exec_ends {R : Type} (hlaws : ExecLaws W) (sql : CStr) (w : W) (r : R) :
    ExecEnds (api.produces w sql).2 none (exec sql (w, r)).outcome ∧
      (exec sql (w, r)).final.2 = r := by
  obtain ⟨errmsg, w', hexec, herrmsg⟩ := hlaws.withoutCallback sql w r
  obtain ⟨w'', hthrow, hends⟩ := throwOnFailure_ends _ errmsg (w', r) herrmsg
  have hrun : Prog.Ends (exec sql) (w, r) _ (w'', r) := hexec.bind hthrow
  rw [hrun.outcome, hrun.final]
  exact ⟨hends, rfl⟩

/-- Whatever `sqlite3_exec` returns, `exec` rethrows what is parked and else checks the code. -/
theorem execHandler_some_ends {fn : ExecHandler U Row} {sql : CStr} {w w' : W}
    {ctx ctx' : ExecContext U Row} {rv : Int} {errmsg : Option Nat}
    (hcall : Prog.Ends (api.sqlite3Exec sql (some (sqxxCallExecHandler fn)))
      (w, { ctx with ex := none }) (.ok (rv, errmsg)) (w', ctx')) :
    match ctx'.ex with
    | some e => Prog.Ends (execHandler sql (some fn)) (w, ctx) (.error (.exception e)) (w', ctx')
    | none =>
      let x := throwOnFailure rv errmsg (w', ctx')
      Prog.Ends (execHandler sql (some fn)) (w, ctx) x.outcome x.final := by
  rcases hex : ctx'.ex with _ | e
  · apply (Prog.Ends.perform _ (w, ctx)).bind
    apply hcall.bind
    apply (Prog.Ends.reading _ (w', ctx')).bind
    rw [hex]
    exact ⟨rfl, rfl⟩
  · apply (Prog.Ends.perform _ (w, ctx)).bind
    apply hcall.bind
    apply (Prog.Ends.reading _ (w', ctx')).bind
    rw [hex]
    exact Prog.Ends.raise _ _

private theorem execHandler_ends {fn : ExecHandler U Row} {sql : CStr} {w : W}
    {ctx ctx' : ExecContext U Row} {stopped : Bool} (hlaws : ExecLaws W)
    (hrows : HandedRows (sqxxCallExecHandler fn) (api.produces w sql).1 { ctx with ex := none }
      stopped ctx') :
    (execHandler sql (some fn) (w, ctx)).final.2 = ctx' ∧
      match ctx'.ex with
      | some e => (execHandler sql (some fn) (w, ctx)).outcome = .error (.exception e)
      | none => ExecEnds (if stopped then SQLITE_ABORT else (api.produces w sql).2) none
          (execHandler sql (some fn) (w, ctx)).outcome := by
  obtain ⟨errmsg, w', hexec, herrmsg⟩ := hlaws.withCallback sql _ w _ ctx' stopped hrows
  have hrun := execHandler_some_ends hexec
  rcases hex : ctx'.ex with _ | e
  · let rv := if stopped then SQLITE_ABORT else (api.produces w sql).2
    obtain ⟨w'', hthrow, hends⟩ := throwOnFailure_ends rv errmsg (w', ctx') herrmsg
    rw [hex] at hrun
    have hfinal : (throwOnFailure rv errmsg (w', ctx')).final = (w'', ctx') := hthrow.final
    rw [hrun.outcome, hrun.final]
    exact ⟨congrArg Prod.snd hfinal, hends⟩
  · rw [hex] at hrun
    exact ⟨congrArg Prod.snd hrun.final, hrun.outcome⟩

end Connection

open Connection in
/-- The handler is called on the rows in order up to the first one on which it throws or asks to
stop; the exception comes out as it was thrown, else `SQLITE_ABORT`, else what SQLite says. An empty
handler is `exec(sql)`, and no exception reaches the C frame. -/
theorem exec_handler_transparent {W U Row : Type} [api : ExecApi W Row] (hlaws : ExecLaws W)
    (sql : CStr) (w : W) (ctx : ExecContext U Row) :
    (∀ fn : ExecHandler U Row,
      let rows := (api.produces w sql).1
      let passed := fn.passed ctx.user rows
      (execHandler sql (some fn) (w, ctx)).final.2.calls = ctx.calls ++ rows.take (passed + 1) ∧
        ExecEnds (api.produces w sql).2 (fn.answers ctx.user rows)[passed]?
          (execHandler sql (some fn) (w, ctx)).outcome ∧
        ∀ row ctx', ∃ rv, (sqxxCallExecHandler fn row ctx').outcome = .ok rv) ∧
      execHandler sql none (w, ctx) = exec sql (w, ctx) ∧
      ExecEnds (api.produces w sql).2 none (exec sql (w, ctx)).outcome ∧
      (exec sql (w, ctx)).final.2.calls = ctx.calls := by
  refine ⟨?_, rfl, ?_, ?_⟩
  · intro fn rows passed
    obtain ⟨stopped, ctx', hrows, hcalls, hparked⟩ :=
      handedRows fn rows { ctx with ex := none } rfl
    obtain ⟨hfinal, hends⟩ := execHandler_ends hlaws hrows
    refine ⟨?_, ?_, fun row ctx' => ⟨_, (sqxxCallExecHandler_ends fn row ctx').outcome⟩⟩
    · exact hfinal ▸ hcalls
    · revert hparked
      rcases (fn.answers ctx.user rows)[passed]? with _ | e | stop
      · intro hparked
        rw [hparked.1, hparked.2] at hends
        exact hends
      · intro hparked
        rw [hparked.2] at hends
        exact hends
      · intro hparked
        rw [hparked.1, hparked.2] at hends
        exact hends
  · exact (exec_ends hlaws sql w ctx).1
  · rw [(exec_ends hlaws sql w ctx).2]

/-- A library with one answer to every text: these rows and then this code. -/
structure SqlScript (Row : Type) where
  rows : List Row
  code : Int

/-- Run a program on the second part of a pair; an exception must not come through here. -/
def acrossC {W R α : Type} (x : Cxx R α) : Cxx (W × R) α := fun s =>
  ⟨match (x s.2).outcome with
    | .ok a => .ok a
    | .error _ => .error .undefined, (s.1, (x s.2).final), (x s.2).visited.map fun r => (s.1, r)⟩

def handRows {R Row : Type} (callback : Row → Cxx R Int) : List Row → Cxx R Bool
  | [] => pure false
  | row :: rows => do
    let rv ← callback row
    if rv ≠ 0 then pure true else handRows callback rows

instance (Row : Type) : ExecApi (SqlScript Row) Row where
  produces w _ := (w.rows, w.code)
  sqlite3Exec _ callback := do
    let w ← Prog.reading fun s => s.1
    let stopped ← match callback with
      | none => pure false
      | some callback => acrossC (handRows callback w.rows)
    pure (if stopped then SQLITE_ABORT else w.code, some 0)
  message _ _ := "query aborted"
  sqlite3Free w _ := w

theorem handRows_ends {R Row : Type} {callback : Row → Cxx R Int} {rows : List Row} {r r' : R}
    {stopped : Bool} (h : HandedRows callback rows r stopped r') :
    Prog.Ends (handRows callback rows) r (.ok stopped) r' := by
  induction h with
  | finished r => exact Prog.Ends.pure false r
  | aborted hcall hrv =>
    apply hcall.bind
    rw [if_pos hrv]
    exact Prog.Ends.pure true _
  | next hcall hrest ih =>
    apply hcall.bind
    exact ih

theorem acrossC_ends {W R α : Type} {x : Cxx R α} {r r' : R} {a : α}
    (hx : Prog.Ends x r (.ok a) r') (w : W) : Prog.Ends (acrossC x) (w, r) (.ok a) (w, r') := by
  constructor
  · simp only [acrossC, hx.outcome]
  · simp only [acrossC, hx.final]

theorem execLaws_sqlScript (Row : Type) : ExecLaws (SqlScript Row) where
  withoutCallback sql w r :=
    ⟨some 0, w, (Prog.Ends.reading _ (w, r)).bind (Prog.Ends.pure _ _), fun _ => ⟨0, rfl⟩⟩
  withCallback sql callback w r r' stopped h := by
    have hacross := acrossC_ends (handRows_ends h) w
    refine ⟨some 0, w, ?_, fun _ => ⟨0, rfl⟩⟩
    exact (Prog.Ends.reading _ (w, r)).bind (hacross.bind (Prog.Ends.pure _ _))

def sqlValues : CStr where
  bytes := [118, 97, 108, 117, 101, 115, 32, 40, 49, 41, 44, 40, 50, 41, 44, 40, 51, 41]
  noNul := by decide
  fits := by decide

/-- Three rows and a handler that throws at the second one: the third is not handed over. -/
theorem exec_handler_transparent_throw :
    let fn : ExecHandler Unit Nat := fun row u =>
      (if row = 2 then .error .badAlloc else .ok false, u)
    let w : SqlScript Nat := ⟨[1, 2, 3], SQLITE_OK⟩
    (Connection.execHandler sqlValues (some fn) (w, ⟨(), [], none⟩)).final.2.calls = [1, 2] ∧
      (Connection.execHandler sqlValues (some fn) (w, ⟨(), [], none⟩)).outcome =
        .error (.exception .badAlloc) := by
  intro fn w
  obtain ⟨hcalls, hends, -⟩ :=
    (exec_handler_transparent (execLaws_sqlScript Nat) sqlValues w ⟨(), [], none⟩).1 fn
  exact ⟨hcalls, hends⟩

end Sqxx
