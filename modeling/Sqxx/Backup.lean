import Sqxx.Framework.Runs
import Sqxx.Datatypes
import Sqxx.Error
import Mathlib.Logic.Function.Basic

/-!
# Backups

A backup object drives `sqlite3_backup_step` until everything is copied, directly or through step
iterators.  Which database is written is settled when the object is built.
-/

namespace Sqxx
open Framework

/-- The backup functions of the library. `pages` tells the contents of a database of a connection,
`copies` the destination and the source of a backup handle. -/
class BackupApi (W : Type) (Conn Page : outParam Type) where
  pages : W → Conn × CStr → List Page
  copies : W → Nat → Option ((Conn × CStr) × (Conn × CStr))
  backupInit : W → Conn → CStr → Conn → CStr → Option Nat × W
  backupStep : W → Nat → Int32 → Int × W
  errcode : W → Conn → Int

/-- `sqlite3_backup_init(pDest, zDestName, pSource, zSourceName)` takes two connections; a step
writes only the destination, which is a copy of the source when the step answers
`SQLITE_DONE`. -/
structure BackupLaws (W : Type) {Conn Page : Type} [api : BackupApi W Conn Page] : Prop where
  init : ∀ (w : W) (pDest : Conn) zDestName pSource zSourceName h,
    (api.backupInit w pDest zDestName pSource zSourceName).1 = some h →
      api.copies (api.backupInit w pDest zDestName pSource zSourceName).2 h =
          some ((pDest, zDestName), (pSource, zSourceName)) ∧
        pDest ≠ pSource ∧
        api.pages (api.backupInit w pDest zDestName pSource zSourceName).2 = api.pages w
  step_copies : ∀ (w : W) h n, api.copies (api.backupStep w h n).2 h = api.copies w h
  step_frame : ∀ (w : W) h n dst src db, api.copies w h = some (dst, src) → db ≠ dst →
    api.pages (api.backupStep w h n).2 db = api.pages w db
  step_done : ∀ (w : W) h n dst src, api.copies w h = some (dst, src) →
    (api.backupStep w h n).1 = SQLITE_DONE →
      api.pages (api.backupStep w h n).2 dst = api.pages w src

structure Backup where
  handle : Nat
  deriving DecidableEq, Repr

inductive BackupPtr
  | null
  | this
  deriving DecidableEq, Repr

structure StepIterator where
  b : BackupPtr
  stepsize : Int32
  deriving DecidableEq, Repr

namespace Backup

variable {W Conn Page : Type} [api : BackupApi W Conn Page]

def new (dest : Conn) (ddb : CStr) (source : Conn) (sdb : CStr) : Cxx W Backup := do
  let handle ← Prog.effect fun w => api.backupInit w source sdb dest ddb
  match handle with
  | some handle => pure ⟨handle⟩
  | none => do
    let code ← Prog.reading fun w => api.errcode w dest
    Cxx.throw (recentError code)

def step (b : Backup) (pages : Int32) : Cxx W Bool := do
  let rv ← Prog.effect fun w => api.backupStep w b.handle pages
  if rv = SQLITE_OK then
    pure true
  else if rv = SQLITE_DONE then
    pure false
  else
    Cxx.throw (staticError rv)

def run (b : Backup) : Cxx W Unit := do
  let _more ← step b (-1)
  pure ()

def beginIt (stepsize : Int32) : StepIterator := ⟨.this, stepsize⟩

def endIt : StepIterator := ⟨.null, 1⟩

end Backup

namespace StepIterator

variable {W Conn Page : Type} [api : BackupApi W Conn Page]

/-- `operator++` of an iterator over `b`. An end iterator must not be incremented. -/
def increment (it : StepIterator) (b : Backup) : Cxx W StepIterator :=
  match it.b with
  | .null => Cxx.undefined
  | .this => do
    let more ← b.step it.stepsize
    if more then pure it else pure { it with b := .null }

def operatorEq (it other : StepIterator) : Bool := it.b = other.b

def operatorNe (it other : StepIterator) : Bool := !operatorEq it other

end StepIterator

/-- A backup in use: its step iterators, and what the most recent `step()` returned (nothing when
it threw). -/
structure BackupSession (W : Type) where
  world : W
  iters : List StepIterator
  returned : Option Bool

inductive BackupEvent
  | step (pages : Int32)
  | run
  | beginIt (stepsize : Int32)
  | increment (i : Nat)
  deriving DecidableEq, Repr

namespace BackupSession

variable {W Conn Page : Type} [api : BackupApi W Conn Page]

def callsStep (s : BackupSession W) : BackupEvent → Option Int32
  | .step pages => some pages
  | .run => some (-1)
  | .beginIt _ => none
  | .increment i =>
    match s.iters[i]? with
    | some ⟨.this, stepsize⟩ => some stepsize
    | _ => none

def nextWorld (b : Backup) (s : BackupSession W) : BackupEvent → W
  | .step pages => (b.step pages s.world).final
  | .run => (b.run s.world).final
  | .beginIt _ => s.world
  | .increment i =>
    match s.iters[i]? with
    | some it => (it.increment b s.world).final
    | none => s.world

def nextIters (b : Backup) (s : BackupSession W) : BackupEvent → List StepIterator
  | .beginIt stepsize => s.iters ++ [Backup.beginIt stepsize]
  | .increment i =>
    match s.iters[i]? with
    | some it =>
      match (it.increment b s.world).outcome with
      | .ok it' => s.iters.set i it'
      | .error _ => s.iters
    | none => s.iters
  | _ => s.iters

def exec (b : Backup) (s : BackupSession W) (e : BackupEvent) : BackupSession W where
  world := nextWorld b s e
  iters := nextIters b s e
  returned :=
    match s.callsStep e with
    | some pages => (b.step pages s.world).outcome.toOption
    | none => s.returned

end BackupSession

namespace Backup

variable {W Conn Page : Type} [api : BackupApi W Conn Page]

private theorem step_final (b : Backup) (pages : Int32) (w : W) :
    (b.step pages w).final = (api.backupStep w b.handle pages).2 := by
  simp only [step, Prog.bind_run, Prog.effect_run, Exec.andThen_ok, Exec.prepend_final]
  split
  · rfl
  · split <;> rfl

theorem step_false_iff (b : Backup) (pages : Int32) (w : W) :
    (b.step pages w).outcome.toOption = some false ↔
      (api.backupStep w b.handle pages).1 = SQLITE_DONE := by
  simp only [step, Prog.bind_run, Prog.effect_run, Exec.andThen_ok, Exec.prepend_outcome]
  by_cases hok : (api.backupStep w b.handle pages).1 = SQLITE_OK
  · simp [hok, Except.toOption, SQLITE_OK, SQLITE_DONE]
  · by_cases hdone : (api.backupStep w b.handle pages).1 = SQLITE_DONE
    · simp [hdone, Except.toOption, SQLITE_OK, SQLITE_DONE]
    · simp [hok, hdone, Except.toOption]

end Backup

namespace BackupSession

variable {W Conn Page : Type} [api : BackupApi W Conn Page]

private theorem exec_world (b : Backup) (s : BackupSession W) (e : BackupEvent) :
    (s.exec b e).world =
      match s.callsStep e with
      | some pages => (api.backupStep s.world b.handle pages).2
      | none => s.world := by
  cases e with
  | step pages => exact b.step_final pages s.world
  | run =>
    have hfinal := b.step_final (-1) s.world
    change (b.run s.world).final = (api.backupStep s.world b.handle (-1)).2
    rw [← hfinal]
    rcases hrun : b.step (-1) s.world with ⟨outcome, final, visited⟩
    cases outcome <;> simp [Backup.run, hrun]
  | beginIt stepsize => rfl
  | increment i =>
    rcases hit : s.iters[i]? with _ | ⟨ptr, stepsize⟩
    · simp [exec, nextWorld, callsStep, hit]
    · cases ptr with
      | null => simp [exec, nextWorld, callsStep, hit, StepIterator.increment]
      | this =>
        have hfinal := b.step_final stepsize s.world
        simp only [exec, nextWorld, callsStep, hit, StepIterator.increment, Prog.bind_run]
        rw [← hfinal]
        rcases hrun : b.step stepsize s.world with ⟨outcome, final, visited⟩
        rcases outcome with e | more
        · rfl
        · cases more <;> rfl

/-- The handle copies `src` to `dst`, only `dst` has changed since `w`, and it is a copy of `src`
when the last step said so. -/
structure Copying (b : Backup) (w : W) (dst src : Conn × CStr) (s : BackupSession W) : Prop where
  copies : api.copies s.world b.handle = some (dst, src)
  others : ∀ db, db ≠ dst → api.pages s.world db = api.pages w db
  finished : s.returned = some false → api.pages s.world dst = api.pages w src

private theorem exec_copying (laws : BackupLaws W) {b : Backup} {w : W} {dst src : Conn × CStr}
    (hne : src ≠ dst) (s : BackupSession W) (e : BackupEvent) (hs : Copying b w dst src s) :
    Copying b w dst src (s.exec b e) := by
  rcases hcall : s.callsStep e with _ | pages
  · have hworld : (s.exec b e).world = s.world := by
      rw [exec_world, hcall]
    have hreturned : (s.exec b e).returned = s.returned := by
      simp [exec, hcall]
    constructor
    · rw [hworld]
      exact hs.copies
    · rw [hworld]
      exact hs.others
    · rw [hworld, hreturned]
      exact hs.finished
  · have hworld : (s.exec b e).world = (api.backupStep s.world b.handle pages).2 := by
      rw [exec_world, hcall]
    have hreturned : (s.exec b e).returned = (b.step pages s.world).outcome.toOption := by
      simp [exec, hcall]
    constructor
    · rw [hworld, laws.step_copies]
      exact hs.copies
    · intro db hdb
      rw [hworld, laws.step_frame _ _ _ _ _ db hs.copies hdb]
      exact hs.others db hdb
    · intro hfalse
      rw [hreturned, b.step_false_iff] at hfalse
      rw [hworld, laws.step_done _ _ _ _ _ hs.copies hfalse]
      exact hs.others src hne

end BackupSession

namespace Backup

variable {W Conn Page : Type} [api : BackupApi W Conn Page]

/-- The handle the constructor makes copies from `dest` to `source`: `sqlite3_backup_init` takes the
destination first and is given the source first. -/
theorem new_copies (laws : BackupLaws W) {dest source : Conn} {ddb sdb : CStr} {w w' : W}
    {b : Backup} (hnew : Prog.Ends (new dest ddb source sdb) w (.ok b) w') :
    api.copies w' b.handle = some ((source, sdb), (dest, ddb)) ∧ source ≠ dest ∧
      api.pages w' = api.pages w := by
  obtain ⟨hout, hfin⟩ := hnew
  rcases hinit : api.backupInit w source sdb dest ddb with ⟨handle, w₁⟩
  have hlaw := laws.init w source sdb dest ddb
  rw [hinit] at hlaw
  cases handle with
  | none => simp [new, hinit] at hout
  | some h =>
    simp only [new, Prog.bind_run, Prog.effect_run, hinit, Exec.andThen_ok, Exec.prepend_outcome,
      Exec.prepend_final, Prog.pure_run] at hout hfin
    cases hout
    subst hfin
    exact hlaw h rfl

end Backup

/-- After a backup that ran to its end, the destination holds the pages of the source and the
source its own exactly when the two databases had the same pages from the start. -/
theorem backup_copies_iff {W Conn Page : Type} [api : BackupApi W Conn Page]
    (laws : BackupLaws W) {dest source : Conn} {ddb sdb : CStr} {w w' : W} {b : Backup}
    (hnew : Prog.Ends (Backup.new dest ddb source sdb) w (.ok b) w') (es : List BackupEvent)
    (hdone : (run (BackupSession.exec b) ⟨w', [], none⟩ es).returned = some false) :
    let final := (run (BackupSession.exec b) ⟨w', [], none⟩ es).world
    (api.pages final (dest, ddb) = api.pages w (source, sdb) ∧
        api.pages final (source, sdb) = api.pages w (source, sdb)) ↔
      api.pages w (dest, ddb) = api.pages w (source, sdb) := by
  intro final
  obtain ⟨hcopies, hdistinct, hpages⟩ := Backup.new_copies laws hnew
  have hne : (dest, ddb) ≠ (source, sdb) := fun h => hdistinct (congrArg Prod.fst h).symm
  have hstart : BackupSession.Copying b w (source, sdb) (dest, ddb) ⟨w', [], none⟩ :=
    ⟨hcopies, fun db _ => congrFun hpages db, fun h => by cases h⟩
  have hend : BackupSession.Copying b w (source, sdb) (dest, ddb)
      (run (BackupSession.exec b) ⟨w', [], none⟩ es) :=
    (always_of_preserved (BackupSession.exec_copying laws hne) hstart es).last
  have hdest : api.pages final (dest, ddb) = api.pages w (dest, ddb) := hend.others _ hne
  have hsource : api.pages final (source, sdb) = api.pages w (dest, ddb) := hend.finished hdone
  rw [hdest, hsource]
  exact and_self_iff

structure PageStore where
  db : Bool × CStr → List Nat
  current : Option ((Bool × CStr) × (Bool × CStr))
  copied : Nat

instance : BackupApi PageStore Bool Nat where
  pages w := w.db
  copies w _ := w.current
  backupInit w pDest zDestName pSource zSourceName :=
    if pDest = pSource then (none, w)
    else (some 0,
      { w with current := some ((pDest, zDestName), (pSource, zSourceName)), copied := 0 })
  backupStep w _ n :=
    match w.current with
    | none => (SQLITE_MISUSE, w)
    | some (dst, src) =>
      let copied := w.copied + n.toInt.toNat
      if n < 0 ∨ (w.db src).length ≤ copied then
        (SQLITE_DONE, { w with db := Function.update w.db dst (w.db src) })
      else
        (SQLITE_OK, { w with
          db := Function.update w.db dst ((w.db src).take copied ++ (w.db dst).drop copied)
          copied := copied })
  errcode _ _ := SQLITE_ERROR

theorem backupLaws_pageStore : BackupLaws PageStore where
  init w pDest zDestName pSource zSourceName h hinit := by
    by_cases heq : pDest = pSource
    · simp [BackupApi.backupInit, heq] at hinit
    · simp [BackupApi.backupInit, BackupApi.copies, BackupApi.pages, heq]
  step_copies w h n := by
    rcases hcur : w.current with _ | ⟨dst, src⟩
    · simp [BackupApi.backupStep, BackupApi.copies, hcur]
    · simp only [BackupApi.backupStep, BackupApi.copies, hcur]
      split <;> rfl
  step_frame w h n dst src db hcur hdb := by
    have hcur' : w.current = some (dst, src) := hcur
    simp only [BackupApi.backupStep, BackupApi.pages, hcur']
    split <;> simp [hdb]
  step_done w h n dst src hcur hdone := by
    have hcur' : w.current = some (dst, src) := hcur
    simp only [BackupApi.backupStep, BackupApi.pages, hcur'] at hdone ⊢
    by_cases hall : n < 0 ∨ (w.db src).length ≤ w.copied + n.toInt.toNat
    · rw [if_pos hall]
      exact Function.update_self dst (w.db src) w.db
    · rw [if_neg hall] at hdone
      exact absurd (show SQLITE_OK = SQLITE_DONE from hdone) (by decide)

def nameMain : CStr := ⟨[109, 97, 105, 110], by decide, by decide⟩

def twoPages : PageStore := ⟨fun db => if db.1 then [1, 2] else [], none, 0⟩

theorem backup_copies_iff_twoPages :
    let opened := (Backup.new false nameMain true nameMain twoPages).final
    let final := (run (BackupSession.exec ⟨0⟩) ⟨opened, [], none⟩ [.run]).world
    (final.db (false, nameMain) = twoPages.db (true, nameMain) ∧
        final.db (true, nameMain) = twoPages.db (true, nameMain)) ↔
      twoPages.db (false, nameMain) = twoPages.db (true, nameMain) := by
  have hnew : Prog.Ends (Backup.new false nameMain true nameMain) twoPages (.ok ⟨0⟩)
      (Backup.new false nameMain true nameMain twoPages).final := ⟨rfl, rfl⟩
  exact backup_copies_iff backupLaws_pageStore hnew [.run] rfl

/-- A backup of two pages into an empty database runs to its end; afterwards both databases are
empty. -/
theorem backup_erases_source :
    let made := Backup.new false nameMain true nameMain twoPages
    let session := run (BackupSession.exec ⟨0⟩) ⟨made.final, [], none⟩ [.run]
    made.outcome = .ok ⟨0⟩ ∧ session.returned = some false ∧
      session.world.db (true, nameMain) = [] ∧
      ¬ (session.world.db (false, nameMain) = twoPages.db (true, nameMain) ∧
        session.world.db (true, nameMain) = twoPages.db (true, nameMain)) :=
  ⟨rfl, rfl, rfl, by decide⟩

end Sqxx
