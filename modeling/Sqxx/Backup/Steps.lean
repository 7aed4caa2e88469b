import Sqxx.Framework.Loops
import Sqxx.Backup
import Mathlib.Algebra.Order.Floor.Div

/-!
# Backups in steps

A loop over the step iterators of a backup, whose increments are retried when they throw, against
one call of `run()`.
-/

namespace Sqxx
open Framework

/-- What a backup handle has copied and has left to copy, and how many of its steps will fail. -/
class StepProgress (W : Type) (Page : outParam Type) where
  copied : W → Nat → List Page
  remaining : W → Nat → List Page
  failures : W → Nat → Nat

/-- How many of `n` remaining pages `sqlite3_backup_step` copies. -/
def pagesStepped (pages : Int32) (n : Nat) : Nat :=
  if pages < 0 then n else min pages.toInt.toNat n

/-- How often the body of a loop runs while `n` pages are copied. -/
def bodyRuns (stepsize : Int32) (n : Nat) : Nat :=
  if stepsize < 0 then 1 else max 1 (n ⌈/⌉ stepsize.toInt.toNat)

private theorem pagesStepped_of_lt {pages : Int32} {n : Nat} (h : pagesStepped pages n < n) :
    ¬ pages < 0 ∧ pagesStepped pages n = pages.toInt.toNat := by
  by_cases hneg : pages < 0
  · simp [pagesStepped, hneg] at h
  · rw [pagesStepped, if_neg hneg] at h ⊢
    exact ⟨hneg, by omega⟩

private theorem pagesStepped_pos {pages : Int32} {n : Nat} (hzero : pages ≠ 0)
    (h : pagesStepped pages n < n) : 0 < pagesStepped pages n := by
  obtain ⟨hneg, hpages⟩ := pagesStepped_of_lt h
  have hne : pages.toInt ≠ 0 := fun heq => hzero (Int32.toInt_inj.mp heq)
  have hnonneg : 0 ≤ pages.toInt := by simpa [Int32.lt_iff_toInt_lt] using hneg
  omega

private theorem bodyRuns_pos (stepsize : Int32) (n : Nat) : 0 < bodyRuns stepsize n := by
  unfold bodyRuns
  split <;> omega

private theorem bodyRuns_of_lt {stepsize : Int32} {n : Nat} (hzero : stepsize ≠ 0)
    (h : pagesStepped stepsize n < n) :
    bodyRuns stepsize n = bodyRuns stepsize (n - pagesStepped stepsize n) + 1 := by
  have hpos := pagesStepped_pos hzero h
  obtain ⟨hneg, hpages⟩ := pagesStepped_of_lt h
  rw [hpages] at h hpos ⊢
  simp only [bodyRuns, hneg, if_false, Nat.ceilDiv_eq_add_pred_div]
  generalize stepsize.toInt.toNat = s at h hpos ⊢
  have hrest : n - s + s - 1 = n - 1 := by omega
  have hall : n + s - 1 = n - 1 + s := by omega
  have hone : 0 < (n - 1) / s := Nat.div_pos (by omega) hpos
  rw [hrest, hall, Nat.add_div_right _ hpos]
  omega

private theorem bodyRuns_of_le {stepsize : Int32} {n : Nat} (h : n ≤ pagesStepped stepsize n) :
    bodyRuns stepsize n = 1 := by
  by_cases hneg : stepsize < 0
  · simp [bodyRuns, hneg]
  · simp only [pagesStepped, hneg, if_false] at h
    simp only [bodyRuns, hneg, if_false, Nat.ceilDiv_eq_add_pred_div]
    generalize stepsize.toInt.toNat = s at h ⊢
    have hlt : (n + s - 1) / s < 2 := by
      rcases Nat.eq_zero_or_pos s with rfl | hpos
      · simp
      · exact (Nat.div_lt_iff_lt_mul hpos).mpr (by omega)
    omega

/-- A step copies pages and tells if some remain, or fails and copies nothing. -/
structure StepLaws (W : Type) {Conn Page : Type} [api : BackupApi W Conn Page]
    [progress : StepProgress W Page] (h : Nat) : Prop where
  copies : ∀ (w : W) pages,
    (api.backupStep w h pages).1 = SQLITE_OK ∨ (api.backupStep w h pages).1 = SQLITE_DONE →
      let moved := pagesStepped pages (progress.remaining w h).length
      let w' := (api.backupStep w h pages).2
      progress.copied w' h = progress.copied w h ++ (progress.remaining w h).take moved ∧
        progress.remaining w' h = (progress.remaining w h).drop moved ∧
        progress.failures w' h ≤ progress.failures w h
  remains : ∀ (w : W) pages, (api.backupStep w h pages).1 = SQLITE_OK →
    progress.remaining (api.backupStep w h pages).2 h ≠ []
  finished : ∀ (w : W) pages, (api.backupStep w h pages).1 = SQLITE_DONE →
    progress.remaining (api.backupStep w h pages).2 h = []
  fails : ∀ (w : W) pages,
    (api.backupStep w h pages).1 ≠ SQLITE_OK → (api.backupStep w h pages).1 ≠ SQLITE_DONE →
      let w' := (api.backupStep w h pages).2
      progress.copied w' h = progress.copied w h ∧
        progress.remaining w' h = progress.remaining w h ∧
        progress.failures w' h < progress.failures w h

/-- The library with a record of what its backup steps have answered, newest first. -/
structure RecordedSteps (W : Type) where
  library : W
  answers : List Int

section Recorded

variable {W Conn Page : Type} [api : BackupApi W Conn Page] [progress : StepProgress W Page]

instance : BackupApi (RecordedSteps W) Conn Page where
  pages w := api.pages w.library
  copies w := api.copies w.library
  backupInit w pDest zDestName pSource zSourceName :=
    let (handle, library) := api.backupInit w.library pDest zDestName pSource zSourceName
    (handle, { w with library := library })
  backupStep w h n :=
    let (rv, library) := api.backupStep w.library h n
    (rv, ⟨library, rv :: w.answers⟩)
  errcode w := api.errcode w.library

instance : StepProgress (RecordedSteps W) Page where
  copied w := progress.copied w.library
  remaining w := progress.remaining w.library
  failures w := progress.failures w.library

theorem StepLaws.recorded {h : Nat} (laws : StepLaws W h) : StepLaws (RecordedSteps W) h where
  copies w pages := laws.copies w.library pages
  remains w pages := laws.remains w.library pages
  finished w pages := laws.finished w.library pages
  fails w pages := laws.fails w.library pages

end Recorded

structure StepLoop (W B : Type) where
  world : W
  it : StepIterator
  retrying : Bool
  user : B

namespace StepLoop

variable {W B Conn Page : Type}

def notAtEnd (s : StepLoop W B) : Bool := s.it.operatorNe Backup.endIt

variable [api : BackupApi W Conn Page]

def increment (b : Backup) : Cxx (StepLoop W B) Unit := do
  let it ← Prog.reading StepLoop.it
  let it ← Prog.zoom StepLoop.world (fun w s => { s with world := w }) (it.increment b)
  Prog.perform fun s => { s with it := it }

/-- `try { ++it; } catch (...) {}`, and a record of whether it threw. -/
def tryIncrement (b : Backup) : Cxx (StepLoop W B) Unit :=
  Cxx.tryCatch
    (do
      increment b
      Prog.perform fun s => { s with retrying := false })
    (fun _ => Prog.perform fun s => { s with retrying := true })

/-- The body, which is not run again for a retry, and the increment. -/
def round (b : Backup) (body : W → B → B) : Cxx (StepLoop W B) Unit := do
  Prog.perform fun s => if s.retrying then s else { s with user := body s.world s.user }
  tryIncrement b

/-- The loop with that body ends with `o` and leaves the variables in `t`. -/
def Ends (b : Backup) (stepsize : Int32) (body : W → B → B) (w : W) (user : B)
    (o : Except Raised Unit) (t : StepLoop W B) : Prop :=
  LoopEnds notAtEnd (round b body) ⟨w, Backup.beginIt stepsize, false, user⟩ o t

def answer (b : Backup) (s : StepLoop W B) : Int :=
  (api.backupStep s.world b.handle s.it.stepsize).1

def stepped (b : Backup) (s : StepLoop W B) : W :=
  (api.backupStep s.world b.handle s.it.stepsize).2

def advance (b : Backup) (s : StepLoop W B) : StepLoop W B where
  world := stepped b s
  it := if answer b s = SQLITE_DONE then { s.it with b := .null } else s.it
  retrying := answer b s ≠ SQLITE_OK ∧ answer b s ≠ SQLITE_DONE
  user := s.user

def next (b : Backup) (body : W → B → B) (s : StepLoop W B) : StepLoop W B :=
  { advance b s with user := if s.retrying then s.user else body s.world s.user }

private theorem step_ends (b : Backup) (s : StepLoop W B) :
    Prog.Ends (b.step s.it.stepsize) s.world
      (if answer b s = SQLITE_OK then .ok true
        else if answer b s = SQLITE_DONE then .ok false
        else .error (.exception (staticError (answer b s)))) (stepped b s) := by
  unfold answer stepped
  apply (Prog.Ends.effect _ s.world).bind
  split
  · exact Prog.Ends.pure true _
  · split
    · exact Prog.Ends.pure false _
    · exact Prog.Ends.raise _ _

theorem notAtEnd_iff (s : StepLoop W B) : s.notAtEnd = true ↔ s.it.b = .this := by
  rcases s with ⟨w, ⟨ptr, stepsize⟩, retrying, user⟩
  cases ptr <;> simp [notAtEnd, StepIterator.operatorNe, StepIterator.operatorEq, Backup.endIt]

theorem increment_throws {b : Backup} {s : StepLoop W B} (hit : s.it.b = .this)
    (hok : answer b s ≠ SQLITE_OK) (hdone : answer b s ≠ SQLITE_DONE) :
    Prog.Ends (increment b) s (.error (.exception (staticError (answer b s))))
      { s with world := stepped b s } := by
  have hincrement : Prog.Ends (s.it.increment b) s.world
      (.error (.exception (staticError (answer b s)))) (stepped b s) := by
    have hstep := step_ends b s
    rw [if_neg hok, if_neg hdone] at hstep
    rw [StepIterator.increment, hit]
    exact hstep.bind_error
  apply (Prog.Ends.reading StepLoop.it s).bind
  exact (Prog.Ends.zoom hincrement).bind_error

theorem increment_ends {b : Backup} {s : StepLoop W B} (hit : s.it.b = .this)
    (hcode : answer b s = SQLITE_OK ∨ answer b s = SQLITE_DONE) :
    Prog.Ends (increment b) s (.ok ()) { advance b s with retrying := s.retrying } := by
  have hincrement : Prog.Ends (s.it.increment b) s.world
      (.ok (if answer b s = SQLITE_DONE then { s.it with b := .null } else s.it))
      (stepped b s) := by
    have hstep := step_ends b s
    rw [StepIterator.increment, hit]
    rcases hcode with hok | hdone
    · rw [hok, if_pos rfl] at hstep
      rw [hok, if_neg (by decide)]
      exact hstep.bind (Prog.Ends.pure _ _)
    · rw [hdone, if_neg (by decide), if_pos rfl] at hstep
      rw [hdone, if_pos rfl]
      exact hstep.bind (Prog.Ends.pure _ _)
  apply (Prog.Ends.reading StepLoop.it s).bind
  apply (Prog.Ends.zoom hincrement).bind
  exact Prog.Ends.perform _ _

private theorem tryIncrement_ends {b : Backup} {s : StepLoop W B} (hit : s.it.b = .this) :
    Prog.Ends (tryIncrement b) s (.ok ()) (advance b s) := by
  by_cases hcode : answer b s = SQLITE_OK ∨ answer b s = SQLITE_DONE
  · have hretrying : (advance b s).retrying = false := by
      simpa [advance] using or_iff_not_imp_left.mp hcode
    apply Cxx.tryCatch_ok
    apply (increment_ends hit hcode).bind
    rw [show advance b s = { advance b s with retrying := false } by rw [← hretrying]]
    exact Prog.Ends.perform _ _
  · obtain ⟨hok, hdone⟩ := not_or.mp hcode
    have hadvance : advance b s = { s with world := stepped b s, retrying := true } := by
      simp [advance, hok, hdone]
    rw [hadvance]
    exact Cxx.tryCatch_throw (increment_throws hit hok hdone).bind_error (Prog.Ends.perform _ _)

theorem round_ends {b : Backup} (body : W → B → B) {s : StepLoop W B} (hit : s.it.b = .this) :
    Prog.Ends (round b body) s (.ok ()) (next b body s) := by
  apply (Prog.Ends.perform _ s).bind
  rcases s with ⟨w, it, retrying, user⟩
  cases retrying with
  | true => exact tryIncrement_ends hit
  | false => exact tryIncrement_ends hit

@[simp] theorem next_world (b : Backup) (body : W → B → B) (s : StepLoop W B) :
    (next b body s).world = stepped b s := rfl

@[simp] theorem next_it (b : Backup) (body : W → B → B) (s : StepLoop W B) :
    (next b body s).it =
      if answer b s = SQLITE_DONE then { s.it with b := .null } else s.it := rfl

@[simp] theorem next_retrying (b : Backup) (body : W → B → B) (s : StepLoop W B) :
    (next b body s).retrying =
      decide (answer b s ≠ SQLITE_OK ∧ answer b s ≠ SQLITE_DONE) := rfl

private theorem answer_ne_done {b : Backup} {s : StepLoop W B} (hok : answer b s = SQLITE_OK) :
    answer b s ≠ SQLITE_DONE := by
  rw [hok]
  decide

section Progress

variable [progress : StepProgress W Page] {b : Backup}

/-- An increment copies some of the pages that remain, all of them, or none. -/
inductive StepEffect (b : Backup) (s : StepLoop W B) : Prop
  | copies (answered : answer b s = SQLITE_OK)
      (leaves : pagesStepped s.it.stepsize (progress.remaining s.world b.handle).length <
        (progress.remaining s.world b.handle).length)
      (copied : progress.copied (stepped b s) b.handle = progress.copied s.world b.handle ++
        (progress.remaining s.world b.handle).take
          (pagesStepped s.it.stepsize (progress.remaining s.world b.handle).length))
      (remaining : progress.remaining (stepped b s) b.handle =
        (progress.remaining s.world b.handle).drop
          (pagesStepped s.it.stepsize (progress.remaining s.world b.handle).length))
      (failures : progress.failures (stepped b s) b.handle ≤ progress.failures s.world b.handle)
  | finishes (answered : answer b s = SQLITE_DONE)
      (reaches : (progress.remaining s.world b.handle).length ≤
        pagesStepped s.it.stepsize (progress.remaining s.world b.handle).length)
      (copied : progress.copied (stepped b s) b.handle =
        progress.copied s.world b.handle ++ progress.remaining s.world b.handle)
      (remaining : progress.remaining (stepped b s) b.handle = [])
      (failures : progress.failures (stepped b s) b.handle ≤ progress.failures s.world b.handle)
  | fails (notOk : answer b s ≠ SQLITE_OK) (notDone : answer b s ≠ SQLITE_DONE)
      (copied : progress.copied (stepped b s) b.handle = progress.copied s.world b.handle)
      (remaining : progress.remaining (stepped b s) b.handle =
        progress.remaining s.world b.handle)
      (failures : progress.failures (stepped b s) b.handle < progress.failures s.world b.handle)

private theorem stepEffect (laws : StepLaws W b.handle) (s : StepLoop W B) : StepEffect b s := by
  by_cases hok : answer b s = SQLITE_OK
  · obtain ⟨hcopied, hremaining, hfailures⟩ := laws.copies s.world s.it.stepsize (Or.inl hok)
    have hmore := laws.remains s.world s.it.stepsize hok
    rw [hremaining, Ne, List.drop_eq_nil_iff, not_le] at hmore
    exact .copies hok hmore hcopied hremaining hfailures
  · by_cases hdone : answer b s = SQLITE_DONE
    · obtain ⟨hcopied, hremaining, hfailures⟩ := laws.copies s.world s.it.stepsize (Or.inr hdone)
      have hnil := laws.finished s.world s.it.stepsize hdone
      have hall := List.drop_eq_nil_iff.mp (hremaining.symm.trans hnil)
      rw [List.take_of_length_le hall] at hcopied
      exact .finishes hdone hall hcopied hnil hfailures
    · obtain ⟨hcopied, hremaining, hfailures⟩ := laws.fails s.world s.it.stepsize hok hdone
      exact .fails hok hdone hcopied hremaining hfailures

/-- How many runs of the body are to come. -/
def runsLeft (b : Backup) (s : StepLoop W B) : Nat :=
  match s.it.b with
  | .null => 0
  | .this =>
    bodyRuns s.it.stepsize (progress.remaining s.world b.handle).length - s.retrying.toNat

/-- Started on `w`, the loop has copied what it no longer has left, and has run its body as often as
it no longer will. -/
structure InProgress (b : Backup) (stepsize : Int32) (body : W → B → B) (w : W) (user : B)
    (s : StepLoop W B) : Prop where
  same : s.it.stepsize = stepsize
  pages : progress.copied s.world b.handle ++ progress.remaining s.world b.handle =
    progress.copied w b.handle ++ progress.remaining w b.handle
  moves : stepsize ≠ 0 ∨ progress.remaining s.world b.handle = []
  finished : s.it.b = .null → progress.remaining s.world b.handle = []
  runs : ∃ ws : List W, s.user = ws.foldl (fun user w => body w user) user ∧
    ws.length + runsLeft b s = bodyRuns stepsize (progress.remaining w b.handle).length

def stepsLeft (b : Backup) (s : StepLoop W B) : Nat :=
  progress.failures s.world b.handle + (progress.remaining s.world b.handle).length +
    if s.it.b = .this then 1 else 0

variable {stepsize : Int32} {body : W → B → B} {w : W} {user : B} {s : StepLoop W B}
  {n : Nat}

private theorem next_pages (laws : StepLaws W b.handle) :
    progress.copied (next b body s).world b.handle ++
        progress.remaining (next b body s).world b.handle =
      progress.copied s.world b.handle ++ progress.remaining s.world b.handle := by
  rw [next_world]
  cases stepEffect laws s with
  | copies _ _ hcopied hremaining =>
    rw [hcopied, hremaining, List.append_assoc, List.take_append_drop]
  | finishes _ _ hcopied hremaining => rw [hcopied, hremaining, List.append_nil]
  | fails _ _ hcopied hremaining => rw [hcopied, hremaining]

private theorem next_finished (laws : StepLaws W b.handle) (hit : s.it.b = .this)
    (h : (next b body s).it.b = .null) :
    progress.remaining (next b body s).world b.handle = [] := by
  cases stepEffect laws s with
  | copies hok => simp [answer_ne_done hok, hit] at h
  | finishes _ _ _ hremaining => exact hremaining
  | fails _ hdone => simp [hdone, hit] at h

private theorem stepsize_ne_zero {pages : List Page} (hmoves : stepsize ≠ 0 ∨ pages = [])
    (hlt : pagesStepped stepsize pages.length < pages.length) : stepsize ≠ 0 := by
  refine hmoves.resolve_right fun hnil => ?_
  simp [hnil] at hlt

private theorem next_stepsLeft (laws : StepLaws W b.handle) (hit : s.it.b = .this)
    (hmoves : s.it.stepsize ≠ 0 ∨ progress.remaining s.world b.handle = []) :
    stepsLeft b (next b body s) < stepsLeft b s := by
  cases stepEffect laws s with
  | copies hok hlt _ hremaining =>
    have hzero := stepsize_ne_zero hmoves hlt
    have hpos := pagesStepped_pos hzero hlt
    simp [stepsLeft, answer_ne_done hok, hit, hremaining]
    omega
  | finishes hdone _ _ hremaining =>
    simp [stepsLeft, hdone, hit, hremaining]
    omega
  | fails _ hdone _ hremaining =>
    simpa [stepsLeft, hdone, hit, hremaining]

private theorem runsLeft_add_retrying (hit : s.it.b = .this) :
    runsLeft b s + s.retrying.toNat =
      bodyRuns s.it.stepsize (progress.remaining s.world b.handle).length := by
  have hpos := bodyRuns_pos s.it.stepsize (progress.remaining s.world b.handle).length
  have hretry := Bool.toNat_le s.retrying
  simp only [runsLeft, hit]
  omega

private theorem next_runsLeft (laws : StepLaws W b.handle) (hit : s.it.b = .this)
    (hmoves : s.it.stepsize ≠ 0 ∨ progress.remaining s.world b.handle = []) :
    runsLeft b s + s.retrying.toNat = runsLeft b (next b body s) + 1 := by
  rw [runsLeft_add_retrying hit]
  cases stepEffect laws s with
  | copies hok hlt _ hremaining =>
    have hzero := stepsize_ne_zero hmoves hlt
    rw [bodyRuns_of_lt hzero hlt]
    simp only [runsLeft, next_world, next_it, next_retrying, hremaining,
      if_neg (answer_ne_done hok), hit, List.length_drop]
    simp [hok]
  | finishes hdone hall =>
    rw [bodyRuns_of_le hall]
    simp [runsLeft, hdone]
  | fails hok hdone _ hremaining =>
    have hpos := bodyRuns_pos s.it.stepsize (progress.remaining s.world b.handle).length
    simp [runsLeft, hdone, hok, hit, hremaining]
    omega

private theorem next_runs
    (hruns : ∃ ws : List W, s.user = ws.foldl (fun user w => body w user) user ∧
      ws.length + runsLeft b s = n)
    (hleft : runsLeft b s + s.retrying.toNat = runsLeft b (next b body s) + 1) :
    ∃ ws : List W, (next b body s).user = ws.foldl (fun user w => body w user) user ∧
      ws.length + runsLeft b (next b body s) = n := by
  obtain ⟨ws, huser, hlength⟩ := hruns
  cases hretrying : s.retrying with
  | true =>
    rw [hretrying, Bool.toNat_true] at hleft
    refine ⟨ws, ?_, ?_⟩
    · simpa [next, hretrying] using huser
    · omega
  | false =>
    rw [hretrying, Bool.toNat_false] at hleft
    refine ⟨ws ++ [s.world], ?_, ?_⟩
    · simp [next, hretrying, huser]
    · simp only [List.length_append, List.length_singleton]
      omega

private theorem next_inProgress (laws : StepLaws W b.handle)
    (hs : InProgress b stepsize body w user s)
    (hit : s.it.b = .this) : InProgress b stepsize body w user (next b body s) := by
  obtain ⟨rfl, hpages, hmoves, -, hruns⟩ := hs
  refine ⟨?_, ?_, ?_, next_finished laws hit, next_runs hruns (next_runsLeft laws hit hmoves)⟩
  · rw [next_it]
    split <;> rfl
  · rw [next_pages laws, hpages]
  · refine hmoves.imp_right fun hnil => ?_
    cases stepEffect laws s with
    | copies _ hlt => simp [hnil] at hlt
    | finishes _ _ _ hremaining => exact hremaining
    | fails _ _ _ hremaining => exact hremaining.trans hnil

private theorem next_stalled (laws : StepLaws W b.handle) (hit : s.it = ⟨.this, 0⟩)
    (hmore : progress.remaining s.world b.handle ≠ []) :
    (next b body s).it = ⟨.this, 0⟩ ∧
      progress.remaining (next b body s).world b.handle ≠ [] := by
  have hnone : ∀ n, pagesStepped 0 n = 0 := by
    intro n
    have hneg : ¬ (0 : Int32) < 0 := by decide
    simp [pagesStepped, hneg]
  rw [next_it, next_world]
  cases stepEffect laws s with
  | copies hok _ _ hremaining =>
    rw [hit, hnone, List.drop_zero] at hremaining
    rw [if_neg (answer_ne_done hok), hremaining]
    exact ⟨hit, hmore⟩
  | finishes _ hall =>
    rw [hit, hnone] at hall
    exact absurd (List.eq_nil_of_length_eq_zero (Nat.le_zero.mp hall)) hmore
  | fails _ hdone _ hremaining =>
    rw [if_neg hdone, hremaining]
    exact ⟨hit, hmore⟩

/-- The loop ends if its steps copy pages or none are left, and then it has done all of its work. -/
theorem ends_of_moves (laws : StepLaws W b.handle)
    (hmoves : stepsize ≠ 0 ∨ progress.remaining w b.handle = []) (body : W → B → B) (user : B) :
    ∃ t, Ends b stepsize body w user (.ok ()) t ∧ InProgress b stepsize body w user t ∧
      t.it.b = .null := by
  have hstart : InProgress b stepsize body w user ⟨w, Backup.beginIt stepsize, false, user⟩ :=
    ⟨rfl, rfl, hmoves, fun h => (by cases h), [], rfl, by simp [runsLeft, Backup.beginIt]⟩
  have hround : ∀ s, InProgress b stepsize body w user s → s.notAtEnd = true →
      (round b body s).outcome = .ok () ∧
        InProgress b stepsize body w user (round b body s).final ∧
        stepsLeft b (round b body s).final < stepsLeft b s := by
    intro s hs hcond
    have hit := (notAtEnd_iff s).mp hcond
    obtain ⟨hout, hfin⟩ := round_ends (b := b) body hit
    rw [hfin]
    refine ⟨hout, next_inProgress laws hs hit, next_stepsLeft laws hit ?_⟩
    rw [hs.same]
    exact hs.moves
  obtain ⟨t, ht⟩ := loopEnds_of_variant hround hstart
  obtain ⟨hprogress, hcond⟩ := ht.invariant (fun s hs hcond => (hround s hs hcond).2.1) hstart
  have hnull : t.it.b = .null := by
    cases hptr : t.it.b with
    | null => rfl
    | this => exact absurd ((notAtEnd_iff t).mpr hptr) (by rw [hcond rfl]; decide)
  exact ⟨t, ht, hprogress, hnull⟩

private theorem not_ends_of_stalled (laws : StepLaws W b.handle)
    (hmore : progress.remaining w b.handle ≠ []) (body : W → B → B) (user : B)
    (o : Except Raised Unit) (t : StepLoop W B) : ¬ Ends b 0 body w user o t := by
  have hstalled : ∀ s : StepLoop W B,
      (s.it = ⟨.this, 0⟩ ∧ progress.remaining s.world b.handle ≠ []) →
        s.notAtEnd = true ∧ (round b body s).outcome = .ok () ∧
          (round b body s).final.it = ⟨.this, 0⟩ ∧
          progress.remaining (round b body s).final.world b.handle ≠ [] := by
    rintro s ⟨hit, hremaining⟩
    have hthis : s.it.b = .this := by rw [hit]
    obtain ⟨hout, hfin⟩ := round_ends (b := b) body hthis
    rw [hfin]
    exact ⟨(notAtEnd_iff s).mpr hthis, hout, next_stalled laws hit hremaining⟩
  exact not_loopEnds_of_invariant hstalled ⟨rfl, hmore⟩

end Progress

/-- A loop over an open iterator has not been told of the end, and one at its end has, last. -/
def Told (s : StepLoop (RecordedSteps W) B) : Prop :=
  match s.it.b with
  | .this => SQLITE_DONE ∉ s.world.answers
  | .null => ∃ earlier, s.world.answers = SQLITE_DONE :: earlier ∧ SQLITE_DONE ∉ earlier

private theorem next_told {b : Backup} {body : RecordedSteps W → B → B}
    {s : StepLoop (RecordedSteps W) B}
    (hit : s.it.b = .this) (hs : Told s) : Told (next b body s) := by
  have hanswers : (next b body s).world.answers = answer b s :: s.world.answers := rfl
  rw [Told, hit] at hs
  by_cases hdone : answer b s = SQLITE_DONE
  · have hnull : (next b body s).it.b = .null := by simp [hdone]
    rw [Told, hnull, hanswers, hdone]
    exact ⟨_, rfl, hs⟩
  · have hthis : (next b body s).it.b = .this := by simp [hdone, hit]
    rw [Told, hthis, hanswers]
    exact List.not_mem_cons_of_ne_of_not_mem (Ne.symm hdone) hs

end StepLoop

namespace Backup

variable {W Conn Page : Type} [api : BackupApi W Conn Page] [progress : StepProgress W Page]

/-- The step of a `run()` on `w` does not fail. -/
def RunSucceeds (b : Backup) (w : W) : Prop :=
  (api.backupStep w b.handle (-1)).1 = SQLITE_OK ∨ (api.backupStep w b.handle (-1)).1 = SQLITE_DONE

/-- What `run()` does on `w`: it returns and leaves the pages of `pages` copied and none to copy, or
its step fails and it throws, with the pages as they were. -/
structure RunCopies (b : Backup) (w : W) (pages : List Page) : Prop where
  returns : RunSucceeds b w → ∃ w', Prog.Ends b.run w (.ok ()) w' ∧
    progress.copied w' b.handle = pages ∧ progress.remaining w' b.handle = []
  throws : ¬ RunSucceeds b w → ∃ w', Prog.Ends b.run w
      (.error (.exception (staticError (api.backupStep w b.handle (-1)).1))) w' ∧
    progress.copied w' b.handle = progress.copied w b.handle ∧
    progress.remaining w' b.handle = progress.remaining w b.handle
  onlyIf : ∀ w', Prog.Ends b.run w (.ok ()) w' → RunSucceeds b w

theorem run_copies {b : Backup} (laws : StepLaws W b.handle) (w : W) :
    RunCopies b w (progress.copied w b.handle ++ progress.remaining w b.handle) := by
  let s : StepLoop W Unit := ⟨w, beginIt (-1), false, ()⟩
  have hstep := StepLoop.step_ends b s
  have hthrows : ¬ RunSucceeds b w → Prog.Ends b.run w
      (.error (.exception (staticError (StepLoop.answer b s)))) (StepLoop.stepped b s) := by
    intro hfails
    obtain ⟨hok, hdone⟩ : StepLoop.answer b s ≠ SQLITE_OK ∧ StepLoop.answer b s ≠ SQLITE_DONE :=
      not_or.mp hfails
    rw [if_neg hok, if_neg hdone] at hstep
    exact hstep.bind_error
  refine ⟨fun hruns => ?_, fun hfails => ?_, fun w' hrun => ?_⟩
  · cases StepLoop.stepEffect laws s with
    | copies _ hlt =>
      obtain ⟨hneg, -⟩ := pagesStepped_of_lt hlt
      exact absurd (by decide : (-1 : Int32) < 0) hneg
    | finishes hdone _ hcopied hremaining =>
      rw [hdone, if_neg (by decide), if_pos rfl] at hstep
      exact ⟨_, hstep.bind (Prog.Ends.pure () _), hcopied, hremaining⟩
    | fails hok hdone => exact absurd hruns (not_or.mpr ⟨hok, hdone⟩)
  · obtain ⟨hok, hdone⟩ := not_or.mp hfails
    obtain ⟨hcopied, hremaining, -⟩ := laws.fails w (-1) hok hdone
    exact ⟨_, hthrows hfails, hcopied, hremaining⟩
  · by_contra hfails
    have hthrown : (b.run w).outcome = _ := (hthrows hfails).outcome
    cases hthrown.symm.trans hrun.outcome

end Backup

/-- A loop started on `w` has ended with the pages that a `run()` copies whenever it does not fail,
one run of the body for every step that copies, and no step after the one that came to the end. -/
structure EndsLikeRun {W Conn Page B : Type} [api : BackupApi W Conn Page]
    [progress : StepProgress W Page] (b : Backup) (stepsize : Int32)
    (body : RecordedSteps W → B → B) (w : W) (user : B) (o : Except Raised Unit)
    (t : StepLoop (RecordedSteps W) B) : Prop where
  returned : o = .ok ()
  copied : progress.copied t.world.library b.handle =
    progress.copied w b.handle ++ progress.remaining w b.handle
  finished : progress.remaining t.world.library b.handle = []
  likeRun : ∀ w₁, progress.copied w₁ b.handle = progress.copied w b.handle →
    progress.remaining w₁ b.handle = progress.remaining w b.handle →
    Backup.RunCopies b w₁ (progress.copied t.world.library b.handle)
  runs : ∃ ws : List (RecordedSteps W), t.user = ws.foldl (fun user w => body w user) user ∧
    ws.length = bodyRuns stepsize (progress.remaining w b.handle).length
  last : ∃ earlier, t.world.answers = SQLITE_DONE :: earlier ∧ SQLITE_DONE ∉ earlier

theorem endsLikeRun {W Conn Page B : Type} [api : BackupApi W Conn Page]
    [progress : StepProgress W Page] {b : Backup} (laws : StepLaws W b.handle) {stepsize : Int32}
    {body : RecordedSteps W → B → B} {w : W} {user : B}
    (hmoves : stepsize ≠ 0 ∨ progress.remaining w b.handle = []) {o : Except Raised Unit}
    {t : StepLoop (RecordedSteps W) B} (hends : StepLoop.Ends b stepsize body ⟨w, []⟩ user o t) :
    EndsLikeRun b stepsize body w user o t := by
  obtain ⟨t', hends', hprogress, hnull⟩ :=
    StepLoop.ends_of_moves (w := ⟨w, []⟩) laws.recorded hmoves body user
  obtain ⟨rfl, rfl⟩ := hends.unique hends'
  have hcopied : progress.copied t.world.library b.handle =
      progress.copied w b.handle ++ progress.remaining w b.handle := by
    have hpages := hprogress.pages
    rw [hprogress.finished hnull, List.append_nil] at hpages
    exact hpages
  have hround : ∀ s, StepLoop.Told s → s.notAtEnd = true →
      StepLoop.Told (StepLoop.round b body s).final := by
    intro s hs hcond
    have hit := (StepLoop.notAtEnd_iff s).mp hcond
    rw [(StepLoop.round_ends body hit).final]
    exact StepLoop.next_told hit hs
  have htold : StepLoop.Told t := (hends.invariant hround List.not_mem_nil).1
  rw [StepLoop.Told, hnull] at htold
  refine ⟨rfl, hcopied, hprogress.finished hnull, fun w₁ hcopied₁ hremaining₁ => ?_, ?_, htold⟩
  · rw [hcopied, ← hcopied₁, ← hremaining₁]
    exact Backup.run_copies laws w₁
  · obtain ⟨ws, huser, hlength⟩ := hprogress.runs
    rw [StepLoop.runsLeft, hnull] at hlength
    exact ⟨ws, huser, hlength⟩

/-- For any number of pages, any `stepsize` and any steps that fail, finitely many: a loop over
`b.begin(stepsize) .. b.end()` that retries its increments ends unless it keeps asking for no pages,
and then as if it had been `run()`.  An increment that fails leaves the iterator and the pages as
they were. -/
theorem steps_copy_like_run {W Conn Page B : Type} [api : BackupApi W Conn Page]
    [progress : StepProgress W Page] {b : Backup} (laws : StepLaws W b.handle) (stepsize : Int32)
    (w : W) (body : RecordedSteps W → B → B) (user : B) :
    ((∃ o t, StepLoop.Ends b stepsize body ⟨w, []⟩ user o t) ↔
        stepsize ≠ 0 ∨ (progress.remaining w b.handle).length = 0) ∧
      (∀ o t, StepLoop.Ends b stepsize body ⟨w, []⟩ user o t →
        EndsLikeRun b stepsize body w user o t) ∧
      ∀ s : StepLoop (RecordedSteps W) B, s.it.b = .this → s.answer b ≠ SQLITE_OK →
        s.answer b ≠ SQLITE_DONE →
        Prog.Ends (StepLoop.increment b) s (.error (.exception (staticError (s.answer b))))
            { s with world := s.stepped b } ∧
          progress.copied (s.stepped b).library b.handle =
            progress.copied s.world.library b.handle ∧
          progress.remaining (s.stepped b).library b.handle =
            progress.remaining s.world.library b.handle := by
  rw [List.length_eq_zero_iff]
  have hiff : (∃ o t, StepLoop.Ends b stepsize body ⟨w, []⟩ user o t) ↔
      stepsize ≠ 0 ∨ progress.remaining w b.handle = [] := by
    constructor
    · rintro ⟨o, t, hends⟩
      by_contra hno
      obtain ⟨hzero, hmore⟩ := not_or.mp hno
      obtain rfl := not_not.mp hzero
      exact StepLoop.not_ends_of_stalled laws.recorded hmore body user o t hends
    · intro hmoves
      obtain ⟨t, hends, -⟩ :=
        StepLoop.ends_of_moves (w := ⟨w, []⟩) laws.recorded hmoves body user
      exact ⟨_, t, hends⟩
  refine ⟨hiff, fun o t hends => endsLikeRun laws (hiff.mp ⟨o, t, hends⟩) hends,
    fun s hit hok hdone => ?_⟩
  have hfails := laws.recorded.fails s.world s.it.stepsize hok hdone
  exact ⟨StepLoop.increment_throws hit hok hdone, hfails.1, hfails.2.1⟩

/-- A backup in progress, and which of its next steps will fail. -/
structure BusyStore where
  copied : List Nat
  remaining : List Nat
  failing : List Bool

instance : BackupApi BusyStore Bool Nat where
  pages w db := if db.1 then w.copied ++ w.remaining else w.copied
  copies _ _ := some ((false, nameMain), (true, nameMain))
  backupInit w _ _ _ _ := (none, w)
  backupStep w _ n :=
    let moved := pagesStepped n w.remaining.length
    if w.failing.head? = some true then (SQLITE_ERROR, { w with failing := w.failing.tail })
    else
      (if w.remaining.length ≤ moved then SQLITE_DONE else SQLITE_OK,
        ⟨w.copied ++ w.remaining.take moved, w.remaining.drop moved, w.failing.tail⟩)
  errcode _ _ := SQLITE_ERROR

instance : StepProgress BusyStore Nat where
  copied w _ := w.copied
  remaining w _ := w.remaining
  failures w _ := w.failing.count true

theorem stepLaws_busyStore (h : Nat) : StepLaws BusyStore h where
  copies w n hcode := by
    by_cases hfail : w.failing.head? = some true
    · simp [BackupApi.backupStep, hfail, SQLITE_ERROR, SQLITE_OK, SQLITE_DONE] at hcode
    · simp only [BackupApi.backupStep, hfail, if_false]
      exact ⟨rfl, rfl, (List.tail_sublist _).count_le true⟩
  remains w n hok := by
    by_cases hfail : w.failing.head? = some true
    · simp [BackupApi.backupStep, hfail, SQLITE_ERROR, SQLITE_OK] at hok
    · simp only [BackupApi.backupStep, hfail, if_false, StepProgress.remaining] at hok ⊢
      intro hnil
      rw [if_pos (List.drop_eq_nil_iff.mp hnil)] at hok
      exact absurd hok (by decide)
  finished w n hdone := by
    by_cases hfail : w.failing.head? = some true
    · simp [BackupApi.backupStep, hfail, SQLITE_ERROR, SQLITE_DONE] at hdone
    · simp only [BackupApi.backupStep, hfail, if_false, StepProgress.remaining] at hdone ⊢
      by_contra hmore
      rw [if_neg fun hall => hmore (List.drop_eq_nil_iff.mpr hall)] at hdone
      exact absurd hdone (by decide)
  fails w n hok hdone := by
    by_cases hfail : w.failing.head? = some true
    · obtain ⟨rest, hrest⟩ := List.head?_eq_some_iff.mp hfail
      simp [BackupApi.backupStep, StepProgress.copied, StepProgress.remaining,
        StepProgress.failures, hrest]
    · simp only [BackupApi.backupStep, hfail, if_false] at hok hdone
      split at hok
      · exact absurd (if_pos ‹_›) hdone
      · exact absurd rfl hok

def fivePages : BusyStore := ⟨[], [1, 2, 3, 4, 5], [false, true]⟩

theorem steps_copy_like_run_fivePages :
    ∃ t : StepLoop (RecordedSteps BusyStore) Nat,
      StepLoop.Ends ⟨0⟩ 2 (fun _ runs => runs + 1) ⟨fivePages, []⟩ 0 (.ok ()) t ∧
        t.world.library.copied = [1, 2, 3, 4, 5] ∧
        ∃ ws : List (RecordedSteps BusyStore),
          t.user = ws.foldl (fun runs _ => runs + 1) 0 ∧ ws.length = 3 := by
  obtain ⟨hiff, hends, -⟩ := steps_copy_like_run (b := ⟨0⟩) (stepLaws_busyStore 0) 2 fivePages
    (fun _ runs => runs + 1) 0
  obtain ⟨o, t, ht⟩ := hiff.mpr (Or.inl (by decide))
  obtain ⟨rfl, hcopied, -, -, ⟨ws, huser, hlength⟩, -⟩ := hends o t ht
  exact ⟨t, ht, hcopied, ws, huser, hlength⟩

end Sqxx
