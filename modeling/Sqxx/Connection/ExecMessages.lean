import Sqxx.Connection.Exec
import Sqxx.Framework.Loops

/-!
# The message of a failed exec

`sqlite3_exec` stores a message that the caller has to free.  The frees that reach the library are
recorded by the connection, so that a message that is never freed shows.
-/

namespace Sqxx
open Framework

/-- A connection that keeps the address of every message it was told to free. -/
structure RecordedFrees (W : Type) where
  conn : W
  freed : List Nat

instance {W Row : Type} [api : ExecApi W Row] : ExecApi (RecordedFrees W) Row where
  produces w sql := api.produces w.conn sql
  sqlite3Exec sql callback :=
    Prog.zoom (fun s => (s.1.conn, s.2)) (fun s t => ({ t.1 with conn := s.1 }, s.2))
      (api.sqlite3Exec sql callback)
  message w p := api.message w.conn p
  sqlite3Free w p := ⟨api.sqlite3Free w.conn p, p :: w.freed⟩

/-- The handler throws on the row it is called on last. -/
def HandlerThrows {U Row : Type} (handler : Option (ExecHandler U Row)) (u : U)
    (rows : List Row) : Prop :=
  match handler with
  | none => False
  | some fn => ∃ e, (fn.answers u rows)[fn.passed u rows]? = some (.error e)

/-- `exec` ended with `o` and freed `freed` after `sqlite3_exec` returned `rv` and left
`errmsg`. -/
structure HandlesMessage (rv : Int) (errmsg : Option Nat) (threw : Prop)
    (o : Except Raised Unit) (freed : List Nat) : Prop where
  freedOnce : freed = errmsg.toList
  built : o ≠ .error .undefined
  thrown : rv ≠ SQLITE_OK → ¬ threw → ∃ what, o = .error (.exception (.error rv what))

/-- There is a message exactly if `exec` goes on to look at it. -/
def MessageExpected (rv : Int) (errmsg : Option Nat) (threw : Prop) : Prop :=
  errmsg.isSome ↔ rv ≠ SQLITE_OK ∧ ¬ threw

namespace Connection

variable {W U Row : Type} [api : ExecApi W Row]

def execCall (sql : CStr) (handler : Option (ExecHandler U Row)) :
    Cxx (W × ExecContext U Row) (Int × Option Nat) :=
  match handler with
  | none => api.sqlite3Exec sql none
  | some fn => do
    Prog.perform fun s => (s.1, { s.2 with ex := none })
    api.sqlite3Exec sql (some (sqxxCallExecHandler fn))

private theorem sqlite3Exec_recorded {R : Type} {sql : CStr} {callback : Option (Row → Cxx R Int)}
    {w w' : W} {r r' : R} {o : Except Raised (Int × Option Nat)}
    (h : Prog.Ends (api.sqlite3Exec sql callback) (w, r) o (w', r')) (freed : List Nat) :
    Prog.Ends (ExecApi.sqlite3Exec sql callback) ((⟨w, freed⟩ : RecordedFrees W), r) o
      (⟨w', freed⟩, r') where
  outcome := h.outcome
  final := congrArg (fun s => ((⟨s.1, freed⟩ : RecordedFrees W), s.2)) h.final

/-- Without a parked exception: a message is freed if there is a failure, and has to be there. -/
theorem throwOnFailure_handles_iff {R : Type} {rv : Int} {errmsg : Option Nat} {threw : Prop}
    (hthrew : ¬ threw) (w : W) (r : R) :
    let x := throwOnFailure rv errmsg ((⟨w, []⟩ : RecordedFrees W), r)
    HandlesMessage rv errmsg threw x.outcome x.final.1.freed ↔
      MessageExpected rv errmsg threw := by
  intro x
  by_cases hrv : rv = SQLITE_OK
  · have hrun : x = ⟨.ok (), (⟨w, []⟩, r), []⟩ := by
      simp [x, throwOnFailure, hrv]
    rw [hrun]
    cases errmsg with
    | none =>
      constructor
      · intro _
        refine ⟨fun h => ?_, fun hboth => (hboth.1 hrv).elim⟩
        cases h
      · intro _
        refine ⟨rfl, fun h => ?_, fun hfailed => (hfailed hrv).elim⟩
        cases h
    | some p =>
      constructor
      · intro h
        cases h.freedOnce
      · intro h
        exact ((h.mp rfl).1 hrv).elim
  · cases errmsg with
    | none =>
      have hout : x.outcome = .error .undefined := by
        simp [x, throwOnFailure, hrv]
      constructor
      · intro h
        exact (h.built hout).elim
      · intro h
        cases h.mpr ⟨hrv, hthrew⟩
    | some p =>
      have hout : x.outcome = .error (.exception (.error rv (.text (api.message w p)))) := by
        simp [x, throwOnFailure, hrv, ExecApi.message]
      have hfreed : x.final.1.freed = [p] := by
        simp [x, throwOnFailure, hrv, ExecApi.sqlite3Free]
      rw [hout, hfreed]
      constructor
      · intro _
        exact ⟨fun _ => ⟨hrv, hthrew⟩, fun _ => rfl⟩
      · intro _
        refine ⟨rfl, fun h => ?_, fun _ _ => ⟨_, rfl⟩⟩
        cases h

theorem rethrow_handles_iff {rv : Int} {errmsg : Option Nat} {threw : Prop} (hthrew : threw)
    (e : Exn) :
    HandlesMessage rv errmsg threw (.error (.exception e)) [] ↔
      MessageExpected rv errmsg threw := by
  cases errmsg with
  | none =>
    constructor
    · intro _
      refine ⟨fun h => ?_, fun hboth => (hboth.2 hthrew).elim⟩
      cases h
    · intro _
      refine ⟨rfl, fun h => ?_, fun _ hno => (hno hthrew).elim⟩
      cases h
  | some p =>
    constructor
    · intro h
      cases h.freedOnce
    · intro h
      exact ((h.mp rfl).2 hthrew).elim

private theorem parked_of_answer {fn : ExecHandler U Row} {u : U} {rows : List Row} {stopped : Bool}
    {ctx' : ExecContext U Row}
    (h : match (fn.answers u rows)[fn.passed u rows]? with
      | some (.error e) => stopped = true ∧ ctx'.ex = some e
      | some (.ok _) => stopped = true ∧ ctx'.ex = none
      | none => stopped = false ∧ ctx'.ex = none) :
    (∃ e, HandlerThrows (some fn) u rows ∧ ctx'.ex = some e) ∨
      (¬ HandlerThrows (some fn) u rows ∧ ctx'.ex = none) := by
  simp only [HandlerThrows]
  rcases hanswer : (fn.answers u rows)[fn.passed u rows]? with _ | e | stop
  · rw [hanswer] at h
    refine .inr ⟨?_, h.2⟩
    rintro ⟨e, ⟨⟩⟩
  · rw [hanswer] at h
    exact .inl ⟨e, ⟨e, rfl⟩, h.2⟩
  · rw [hanswer] at h
    refine .inr ⟨?_, h.2⟩
    rintro ⟨e, ⟨⟩⟩

end Connection

open Connection in
/-- Whatever `sqlite3_exec` returns and whatever the handler does: the message is freed exactly
once, no exception is built without one and a failure is thrown, exactly if there is a message
where there is a failure and the handler has not thrown. -/
theorem exec_handles_message_iff {W U Row : Type} [api : ExecApi W Row] (calls : ExecCalls W)
    (sql : CStr) (handler : Option (ExecHandler U Row)) (w : W) (ctx : ExecContext U Row) :
    let threw := HandlerThrows handler ctx.user (api.produces w sql).1
    let x := execHandler sql handler ((⟨w, []⟩ : RecordedFrees W), ctx)
    ∃ rv errmsg s, Prog.Ends (execCall sql handler) (w, ctx) (.ok (rv, errmsg)) s ∧
      (HandlesMessage rv errmsg threw x.outcome x.final.1.freed ↔
        MessageExpected rv errmsg threw) := by
  intro threw x
  cases handler with
  | none =>
    obtain ⟨rv, errmsg, w', hcall⟩ := calls.withoutCallback sql w ctx
    have hrun : Prog.Ends (exec sql) ((⟨w, []⟩ : RecordedFrees W), ctx) _ _ :=
      (sqlite3Exec_recorded hcall []).bind ⟨rfl, rfl⟩
    refine ⟨rv, errmsg, (w', ctx), hcall, ?_⟩
    rw [show x.outcome = _ from hrun.outcome, show x.final = _ from hrun.final]
    exact throwOnFailure_handles_iff id w' ctx
  | some fn =>
    obtain ⟨stopped, ctx', hrows, -, hparked⟩ :=
      handedRows fn (api.produces w sql).1 { ctx with ex := none } rfl
    obtain ⟨rv, errmsg, w', hcall⟩ := calls.withCallback sql _ w _ ctx' stopped hrows
    have hends := execHandler_some_ends (sqlite3Exec_recorded hcall [])
    refine ⟨rv, errmsg, (w', ctx'), (Prog.Ends.perform _ (w, ctx)).bind hcall, ?_⟩
    rcases parked_of_answer hparked with ⟨e, hthrew, hex⟩ | ⟨hthrew, hex⟩
    · rw [hex] at hends
      rw [show x.outcome = _ from hends.outcome, show x.final = _ from hends.final]
      exact rethrow_handles_iff hthrew e
    · rw [hex] at hends
      rw [show x.outcome = _ from hends.outcome, show x.final = _ from hends.final]
      exact throwOnFailure_handles_iff hthrew w' ctx'

/-- A library with one answer to every text: these rows, then this code and this message. -/
structure MessageScript (Row : Type) where
  rows : List Row
  code : Int
  errmsg : Option Nat

instance (Row : Type) : ExecApi (MessageScript Row) Row where
  produces w _ := (w.rows, w.code)
  sqlite3Exec _ callback := do
    let w ← Prog.reading fun s => s.1
    let stopped ← match callback with
      | none => pure false
      | some callback => acrossC (handRows callback w.rows)
    pure (if stopped then (SQLITE_ABORT, some 0) else (w.code, w.errmsg))
  message _ _ := "query aborted"
  sqlite3Free w _ := w

private theorem execCalls_messageScript (Row : Type) : ExecCalls (MessageScript Row) where
  withoutCallback sql w r :=
    ⟨w.code, w.errmsg, w, (Prog.Ends.reading _ (w, r)).bind (Prog.Ends.pure _ _)⟩
  withCallback sql callback w r r' stopped h := by
    have hacross := acrossC_ends (handRows_ends h) w
    exact ⟨_, _, w, (Prog.Ends.reading _ (w, r)).bind (hacross.bind (Prog.Ends.pure _ _))⟩

def throwingHandler : ExecHandler Unit Nat := fun _row u => (.error .badAlloc, u)

theorem exec_handles_message_iff_throw :
    let w : MessageScript Nat := ⟨[1, 2], SQLITE_OK, none⟩
    let ctx : ExecContext Unit Nat := ⟨(), [], none⟩
    let threw := HandlerThrows (some throwingHandler) () [1, 2]
    let x := Connection.execHandler sqlValues (some throwingHandler)
      ((⟨w, []⟩ : RecordedFrees (MessageScript Nat)), ctx)
    ∃ rv errmsg s,
      Prog.Ends (Connection.execCall sqlValues (some throwingHandler)) (w, ctx)
        (.ok (rv, errmsg)) s ∧
      (HandlesMessage rv errmsg threw x.outcome x.final.1.freed ↔
        MessageExpected rv errmsg threw) :=
  exec_handles_message_iff (execCalls_messageScript Nat) sqlValues (some throwingHandler) _ _

/-- A handler that throws leaves the message of the abort; a failure without a message, as on a
closed connection, is an exception built from a null pointer. -/
theorem exec_message_lost :
    let aborted : MessageScript Nat := ⟨[1, 2], SQLITE_OK, none⟩
    let closed : MessageScript Nat := ⟨[], SQLITE_MISUSE, none⟩
    let ctx : ExecContext Unit Nat := ⟨(), [], none⟩
    let thrown := Connection.execHandler sqlValues (some throwingHandler)
      ((⟨aborted, []⟩ : RecordedFrees (MessageScript Nat)), ctx)
    let failed := Connection.exec sqlValues
      ((⟨closed, []⟩ : RecordedFrees (MessageScript Nat)), ctx)
    (Connection.execCall sqlValues (some throwingHandler) (aborted, ctx)).outcome =
        .ok (SQLITE_ABORT, some 0) ∧
      ¬ HandlesMessage SQLITE_ABORT (some 0) True thrown.outcome thrown.final.1.freed ∧
      (Connection.execCall (U := Unit) sqlValues none (closed, ctx)).outcome =
        .ok (SQLITE_MISUSE, none) ∧
      ¬ HandlesMessage SQLITE_MISUSE none False failed.outcome failed.final.1.freed := by
  intro aborted closed ctx thrown failed
  refine ⟨rfl, ?_, rfl, ?_⟩
  · intro h
    cases h.freedOnce
  · intro h
    exact h.built rfl

end Sqxx
