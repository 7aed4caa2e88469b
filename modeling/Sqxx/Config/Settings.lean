import Sqxx.Config.Object
import Sqxx.Framework.Runs

/-!
# The settings after configuration calls

Every function is named after one setting.  The settings follow the accepted calls of their own
functions as long as `config_stmtjrnl_spill`, which sets another one, changes nothing.
-/

namespace Sqxx
open Framework

/-- A library that keeps the codes its configuration calls answered, newest first. -/
structure RecordedConfig (W : Type) where
  lib : W
  answers : List Int

instance {W V : Type} [api : ConfigApi W V] : ConfigApi (RecordedConfig W) V where
  setting r := api.setting r.lib
  value := api.value
  initialized r := api.initialized r.lib
  config r op args :=
    let (rv, lib) := api.config r.lib op args
    (rv, ⟨lib, rv :: r.answers⟩)
  configPcacheHdrsz r :=
    let (answer, lib) := api.configPcacheHdrsz r.lib
    (answer, ⟨lib, answer.1 :: r.answers⟩)
  sqliteInitialize r :=
    let (rv, lib) := api.sqliteInitialize r.lib
    (rv, { r with lib := lib })
  sqliteShutdown r :=
    let (rv, lib) := api.sqliteShutdown r.lib
    (rv, { r with lib := lib })

theorem ConfigLaws.recorded {W V : Type} [ConfigApi W V] (laws : ConfigLaws W) :
    ConfigLaws (RecordedConfig W) where
  rejected r op args h := laws.rejected r.lib op args h
  accepted r op args h := laws.accepted r.lib op args h
  pcacheHdrsz r := laws.pcacheHdrsz r.lib

/-- The request a function is named after; `cb` is the address of the handler object made for it.
`config_pcache_hdrsz` sets nothing. -/
def ConfigCall.ownRequest {F : Type} (cb : Nat) : ConfigCall F → Option (ConfigOp × List ConfigArg)
  | .singlethread => some (.singlethread, [])
  | .multithread => some (.multithread, [])
  | .serialized => some (.serialized, [])
  | .memstatus enable => some (.memstatus, [.bool enable])
  | .scratch buf sz n => some (.scratch, [.pointer buf, .int sz, .int n])
  | .pagecache buf sz n => some (.pagecache, [.pointer buf, .int sz, .int n])
  | .heap buf bytes minalloc => some (.heap, [.pointer buf, .int bytes, .int minalloc])
  | .lookaside sz n => some (.lookaside, [.int sz, .int n])
  | .log (some _) _ =>
    some (.log, [.function (some .sqxxCallConfigLogHandler), .pointer (some cb)])
  | .log none _ | .clearLog => some (.log, [.function none, .pointer none])
  | .uri enable => some (.uri, [.bool enable])
  | .coveringIndexScan enable => some (.coveringIndexScan, [.bool enable])
  | .sqllog (some _) _ =>
    some (.sqllog, [.function (some .sqxxCallConfigSqllogHandler), .pointer (some cb)])
  | .sqllog none _ | .clearSqllog => some (.sqllog, [.function none, .pointer none])
  | .mmapSize defaultlimit maxlimit => some (.mmapSize, [.int64 defaultlimit, .int64 maxlimit])
  | .win32Heapsize maxsize => some (.win32Heapsize, [.uint maxsize])
  | .pcacheHdrsz => none
  | .pmasz minsize => some (.pmasz, [.uint minsize])
  | .stmtjrnlSpill threshold => some (.stmtjrnlSpill, [.int threshold])

/-- The request the function makes. -/
def ConfigCall.request {F : Type} (cb : Nat) : ConfigCall F → Option (ConfigOp × List ConfigArg)
  | .stmtjrnlSpill threshold => some (.pmasz, [.int threshold])
  | c => c.ownRequest cb

/-- The function copies a handler to the heap before it asks the library. -/
def ConfigCall.MakesObject {F : Type} : ConfigCall F → Prop
  | .log (some _) _ | .sqllog (some _) _ => True
  | _ => False

namespace Config

variable {W V F : Type} [api : ConfigApi W V]

def asked (st : ConfigState W F) (c : ConfigCall F) : Int × W :=
  match c.request st.objects.next with
  | some (op, args) => api.config st.sqlite op args
  | none => ((api.configPcacheHdrsz st.sqlite).1.1, (api.configPcacheHdrsz st.sqlite).2)

/-- The function ended as its request was answered, and the library is as the request left it. -/
structure Requested (st : ConfigState W F) (c : ConfigCall F) (after : ConfigState W F) :
    Prop where
  ends : Prog.Ends c.op st (answered (asked st c).1) after
  sqlite : after.sqlite = (asked st c).2

private theorem configHandler_cases (kind : LogKind) (op : ConfigOp) (fn : LogTrampoline) (f : F)
    (fault : Option Exn) (st : ConfigState W F) :
    (∃ e, Prog.Ends (configHandler kind op fn f fault) st (.error (.exception e)) st) ∨
      ∃ after, Prog.Ends (configHandler kind op fn f fault) st
          (answered (registering op fn st).1) after ∧
        after.sqlite = (registering op fn st).2 := by
  cases fault with
  | some e =>
    left
    exact ⟨e, configHandler_no_object kind op fn f st e⟩
  | none =>
    right
    by_cases hok : (registering op fn st).1 = SQLITE_OK
    · have hends := configHandler_accepted kind op fn f st hok
      rw [answered, if_pos hok]
      exact ⟨_, hends, rfl⟩
    · have hends := configHandler_rejected kind op fn f st hok
      rw [answered, if_neg hok]
      exact ⟨_, hends, rfl⟩

private theorem configPcacheHdrsz_accepted (st : ConfigState W F)
    (hok : (api.configPcacheHdrsz st.sqlite).1.1 = SQLITE_OK) :
    Prog.Ends configPcacheHdrsz st (.ok (api.configPcacheHdrsz st.sqlite).1.2)
      { st with sqlite := (api.configPcacheHdrsz st.sqlite).2 } := by
  constructor <;> simp [configPcacheHdrsz, Cxx.checkOk_run, hok]

private theorem configPcacheHdrsz_rejected (st : ConfigState W F)
    (hno : (api.configPcacheHdrsz st.sqlite).1.1 ≠ SQLITE_OK) :
    Prog.Ends configPcacheHdrsz st
      (.error (.exception (staticError (api.configPcacheHdrsz st.sqlite).1.1)))
      { st with sqlite := (api.configPcacheHdrsz st.sqlite).2 } := by
  constructor <;> simp [configPcacheHdrsz, Cxx.checkOk_run, hno]

/-- Every function makes its one request, unless the handler object cannot be made. -/
theorem op_cases (st : ConfigState W F) (c : ConfigCall F) :
    (c.MakesObject ∧ ∃ e, Prog.Ends c.op st (.error (.exception e)) st) ∨
      ∃ after, Requested st c after := by
  cases c with
  | log f fault =>
    cases f with
    | none => exact .inr ⟨_, configure_ends _ _ st, rfl⟩
    | some f =>
      rcases configHandler_cases .log .log .sqxxCallConfigLogHandler f fault st with h | h
      · exact .inl ⟨trivial, h⟩
      · obtain ⟨after, hends, hsqlite⟩ := h
        exact .inr ⟨after, hends, hsqlite⟩
  | sqllog f fault =>
    cases f with
    | none => exact .inr ⟨_, configure_ends _ _ st, rfl⟩
    | some f =>
      rcases configHandler_cases .sqllog .sqllog .sqxxCallConfigSqllogHandler f fault st with h | h
      · exact .inl ⟨trivial, h⟩
      · obtain ⟨after, hends, hsqlite⟩ := h
        exact .inr ⟨after, hends, hsqlite⟩
  | pcacheHdrsz =>
    right
    refine ⟨{ st with sqlite := (api.configPcacheHdrsz st.sqlite).2 }, ?_, rfl⟩
    have hasked : (asked st (.pcacheHdrsz : ConfigCall F)).1 =
        (api.configPcacheHdrsz st.sqlite).1.1 := rfl
    rw [hasked, answered]
    by_cases hok : (api.configPcacheHdrsz st.sqlite).1.1 = SQLITE_OK
    · rw [if_pos hok]
      exact (configPcacheHdrsz_accepted st hok).bind (Prog.Ends.pure () _)
    · rw [if_neg hok]
      exact (configPcacheHdrsz_rejected st hok).bind_error
  | _ => exact .inr ⟨_, configure_ends _ _ st, rfl⟩

private theorem asked_rejected (laws : ConfigLaws W) {st : ConfigState W F} {c : ConfigCall F}
    (hno : (asked st c).1 ≠ SQLITE_OK) :
    api.setting (asked st c).2 = api.setting st.sqlite := by
  rcases hrequest : c.request st.objects.next with _ | ⟨op, args⟩
  · simp only [asked, hrequest]
    exact laws.pcacheHdrsz st.sqlite
  · simp only [asked, hrequest] at hno ⊢
    exact laws.rejected st.sqlite op args hno

private theorem asked_accepted (laws : ConfigLaws W) {st : ConfigState W F} {c : ConfigCall F}
    (hok : (asked st c).1 = SQLITE_OK) :
    api.setting (asked st c).2 =
      match c.request st.objects.next with
      | some (op, args) => Function.update (api.setting st.sqlite) op.setting (api.value op args)
      | none => api.setting st.sqlite := by
  rcases hrequest : c.request st.objects.next with _ | ⟨op, args⟩
  · simp only [asked, hrequest]
    exact laws.pcacheHdrsz st.sqlite
  · simp only [asked, hrequest] at hok ⊢
    exact laws.accepted st.sqlite op args hok

private theorem asked_answers (st : ConfigState (RecordedConfig W) F) (c : ConfigCall F) :
    (asked st c).2.answers = (asked st c).1 :: st.sqlite.answers := by
  rcases hrequest : c.request st.objects.next with _ | ⟨op, args⟩ <;>
    simp only [asked, hrequest] <;> rfl

end Config

/-- A program that configures the library, and what each setting should be by the calls so far. -/
structure ConfigSession (W V F : Type) where
  state : ConfigState W F
  expected : Setting → V

namespace ConfigSession

variable {W V F : Type} [api : ConfigApi W V]

/-- What the settings should be once `c` has returned: its own has the value it gives. -/
def granted (s : ConfigSession W V F) (c : ConfigCall F) : Setting → V :=
  match c.ownRequest s.state.objects.next with
  | some (op, args) => Function.update s.expected op.setting (api.value op args)
  | none => s.expected

/-- A call that throws was not accepted. -/
def exec (s : ConfigSession W V F) (c : ConfigCall F) : ConfigSession W V F where
  state := (c.op s.state).final
  expected :=
    match (c.op s.state).outcome with
    | .ok _ => s.granted c
    | .error _ => s.expected

def Tracks (s : ConfigSession W V F) : Prop := api.setting s.state.sqlite = s.expected

end ConfigSession

/-- One call of a function: it throws when the library rejects its request, and it changes nothing
when it throws and no setting but its own when it does not. -/
structure ConfigCall.Framed {W V F : Type} [api : ConfigApi W V]
    (s : ConfigSession (RecordedConfig W) V F) (c : ConfigCall F) : Prop where
  rejected : ∀ rv, (s.exec c).state.sqlite.answers = rv :: s.state.sqlite.answers →
    rv ≠ SQLITE_OK → ∃ e, (c.op s.state).outcome = .error (.exception e)
  thrown : ∀ e, (c.op s.state).outcome = .error e →
    api.setting (s.exec c).state.sqlite.lib = api.setting s.state.sqlite.lib
  others : ∀ setting,
    (∀ op args, c.ownRequest s.state.objects.next = some (op, args) → op.setting ≠ setting) →
      api.setting (s.exec c).state.sqlite.lib setting = api.setting s.state.sqlite.lib setting

namespace ConfigSession

variable {W V F : Type} [api : ConfigApi W V]

/-- No accepted `config_stmtjrnl_spill`, unless the spill threshold and the PMA size both have its
value already. -/
def SpillHarmless (s : ConfigSession (RecordedConfig W) V F) : ConfigCall F → Prop
  | .stmtjrnlSpill threshold =>
    (api.config s.state.sqlite.lib .pmasz [.int threshold]).1 ≠ SQLITE_OK ∨
      (api.setting s.state.sqlite.lib .stmtjrnlSpill = api.value .stmtjrnlSpill [.int threshold] ∧
        api.setting s.state.sqlite.lib .pmaSize = api.value .pmasz [.int threshold])
  | _ => True

inductive Did (s : ConfigSession (RecordedConfig W) V F) (c : ConfigCall F) : Prop
  | nothing (e : Exn) (hobject : c.MakesObject)
      (hout : (c.op s.state).outcome = .error (.exception e)) (hexec : s.exec c = s)
  | rejected (hcode : (Config.asked s.state c).1 ≠ SQLITE_OK)
      (hout : (c.op s.state).outcome =
        .error (.exception (staticError (Config.asked s.state c).1)))
      (hsetting : api.setting (s.exec c).state.sqlite.lib = api.setting s.state.sqlite.lib)
      (hexpected : (s.exec c).expected = s.expected)
  | accepted (hout : (c.op s.state).outcome = .ok ())
      (hcode : (Config.asked s.state c).1 = SQLITE_OK)
      (hsetting : api.setting (s.exec c).state.sqlite.lib =
        match c.request s.state.objects.next with
        | some (op, args) =>
          Function.update (api.setting s.state.sqlite.lib) op.setting (api.value op args)
        | none => api.setting s.state.sqlite.lib)
      (hanswers : (s.exec c).state.sqlite.answers = SQLITE_OK :: s.state.sqlite.answers)
      (hexpected : (s.exec c).expected = s.granted c)

private theorem did (laws : ConfigLaws W) (s : ConfigSession (RecordedConfig W) V F)
    (c : ConfigCall F) :
    s.Did c := by
  rcases Config.op_cases s.state c with ⟨hobject, e, hends⟩ | ⟨after, hends, hsqlite⟩
  · apply Did.nothing e hobject hends.outcome
    rw [exec, hends.outcome, hends.final]
  · have hstate : (s.exec c).state = after := hends.final
    by_cases hok : (Config.asked s.state c).1 = SQLITE_OK
    · have hout : (c.op s.state).outcome = .ok () := by
        rw [hends.outcome, Config.answered, if_pos hok]
      apply Did.accepted hout hok
      · rw [hstate, hsqlite]
        exact Config.asked_accepted laws.recorded hok
      · rw [hstate, hsqlite, Config.asked_answers, hok]
      · simp only [exec, hout]
    · have hout : (c.op s.state).outcome =
          .error (.exception (staticError (Config.asked s.state c).1)) := by
        rw [hends.outcome, Config.answered, if_neg hok]
      apply Did.rejected hok hout
      · rw [hstate, hsqlite]
        exact Config.asked_rejected laws.recorded hok
      · simp only [exec, hout]

private theorem request_eq_ownRequest {c : ConfigCall F} (hc : ∀ t, c ≠ .stmtjrnlSpill t)
    (cb : Nat) :
    c.request cb = c.ownRequest cb := by
  cases c with
  | stmtjrnlSpill t => exact (hc t rfl).elim
  | _ => rfl

private theorem exec_spill (laws : ConfigLaws W) {s : ConfigSession (RecordedConfig W) V F}
    {t : Int32} (hok : (api.config s.state.sqlite.lib .pmasz [.int t]).1 = SQLITE_OK) :
    api.setting (s.exec (.stmtjrnlSpill t)).state.sqlite.lib =
        Function.update (api.setting s.state.sqlite.lib) .pmaSize (api.value .pmasz [.int t]) ∧
      (s.exec (.stmtjrnlSpill t)).expected =
        Function.update s.expected .stmtjrnlSpill (api.value .stmtjrnlSpill [.int t]) := by
  cases s.did laws (.stmtjrnlSpill t) with
  | nothing e hobject => exact hobject.elim
  | rejected hcode => exact (hcode hok).elim
  | accepted _ _ hsetting _ hexpected => exact ⟨hsetting, hexpected⟩

private theorem tracks_exec {s : ConfigSession (RecordedConfig W) V F} (laws : ConfigLaws W)
    (hs : s.Tracks) {c : ConfigCall F} (hc : s.SpillHarmless c) : (s.exec c).Tracks := by
  have hsame : api.setting s.state.sqlite.lib = s.expected := hs
  change api.setting (s.exec c).state.sqlite.lib = (s.exec c).expected
  cases s.did laws c with
  | nothing e _ _ hexec =>
    rw [hexec]
    exact hs
  | rejected _ _ hsetting hexpected =>
    rw [hsetting, hexpected]
    exact hsame
  | accepted _ hcode hsetting _ hexpected =>
    by_cases hspill : ∃ t, c = .stmtjrnlSpill t
    · obtain ⟨t, rfl⟩ := hspill
      rcases hc with hno | ⟨hthreshold, hsize⟩
      · exact (hno hcode).elim
      · obtain ⟨hset, hgot⟩ := exec_spill laws hcode
        rw [hset, hgot, ← hsize, ← hthreshold, Function.update_eq_self, ← hsame,
          Function.update_eq_self]
    · have hown := request_eq_ownRequest (fun t ht => hspill ⟨t, ht⟩) s.state.objects.next
      rw [hsetting, hexpected, hown, granted, hsame]
      rfl

private theorem not_tracks_exec {s : ConfigSession (RecordedConfig W) V F} (laws : ConfigLaws W)
    (hs : s.Tracks) {c : ConfigCall F} (hc : ¬ s.SpillHarmless c) : ¬ (s.exec c).Tracks := by
  have hsame : api.setting s.state.sqlite.lib = s.expected := hs
  cases c with
  | stmtjrnlSpill t =>
    intro htracks
    have hboth := not_or.mp hc
    obtain ⟨hset, hgot⟩ := exec_spill laws (not_not.mp hboth.1)
    have hall : api.setting (s.exec (.stmtjrnlSpill t)).state.sqlite.lib =
        (s.exec (.stmtjrnlSpill t)).expected := htracks
    rw [hset, hgot, ← hsame] at hall
    apply hboth.2
    constructor
    · simpa using congrFun hall .stmtjrnlSpill
    · simpa using (congrFun hall .pmaSize).symm
  | _ => exact (hc trivial).elim

private theorem framed_of_harmless {s : ConfigSession (RecordedConfig W) V F} (laws : ConfigLaws W)
    {c : ConfigCall F} (hc : s.SpillHarmless c) : c.Framed s := by
  cases s.did laws c with
  | nothing e _ hout hexec =>
    refine ⟨?_, ?_, ?_⟩
    · intro rv _ _
      exact ⟨e, hout⟩
    · intro _ _
      rw [hexec]
    · intro setting _
      rw [hexec]
  | rejected _ hout hsetting =>
    refine ⟨?_, ?_, ?_⟩
    · intro rv _ _
      exact ⟨_, hout⟩
    · intro _ _
      exact hsetting
    · intro setting _
      rw [hsetting]
  | accepted hout hcode hsetting hanswers =>
    refine ⟨?_, ?_, ?_⟩
    · intro rv hrv hno
      rw [hanswers] at hrv
      cases hrv
      exact (hno rfl).elim
    · intro e he
      rw [hout] at he
      cases he
    · intro setting hother
      by_cases hspill : ∃ t, c = .stmtjrnlSpill t
      · obtain ⟨t, rfl⟩ := hspill
        rcases hc with hno | ⟨-, hsize⟩
        · exact (hno hcode).elim
        · rw [(exec_spill laws hcode).1, ← hsize, Function.update_eq_self]
      · have hown := request_eq_ownRequest (fun t ht => hspill ⟨t, ht⟩) s.state.objects.next
        rw [hsetting, hown]
        rcases hrequest : c.ownRequest s.state.objects.next with _ | ⟨op, args⟩
        · rfl
        · exact Function.update_of_ne (Ne.symm (hother op args hrequest)) _ _

def start (w : W) : ConfigSession (RecordedConfig W) V F :=
  ⟨⟨⟨w, []⟩, Heap.empty, fun _ => none⟩, api.setting w⟩

end ConfigSession

/-- Along every run of configuration calls, each setting has the value of the last accepted call of
its own function, rejected calls throw and change nothing, and no call changes a setting of
another, exactly if every `config_stmtjrnl_spill` is harmless. -/
theorem config_settings_iff {W V F : Type} [api : ConfigApi W V] (laws : ConfigLaws W) (w : W)
    (calls : List (ConfigCall F)) :
    let start : ConfigSession (RecordedConfig W) V F := ConfigSession.start w
    (Always ConfigSession.exec ConfigSession.Tracks start calls ∧
        StepsMeet ConfigSession.exec (fun s c => c.Framed s) start calls) ↔
      StepsMeet ConfigSession.exec ConfigSession.SpillHarmless start calls := by
  intro start
  have hstart : start.Tracks := rfl
  have hkeep : ∀ (s : ConfigSession (RecordedConfig W) V F) c, s.Tracks → s.SpillHarmless c →
      (s.exec c).Tracks := fun s c hs hc => ConfigSession.tracks_exec laws hs hc
  have hlose : ∀ (s : ConfigSession (RecordedConfig W) V F) c, s.Tracks → ¬ s.SpillHarmless c →
      ¬ (s.exec c).Tracks := fun s c hs hc => ConfigSession.not_tracks_exec laws hs hc
  have htracks : Always ConfigSession.exec ConfigSession.Tracks start calls ↔
      StepsMeet ConfigSession.exec ConfigSession.SpillHarmless start calls :=
    always_iff_stepsMeet (fun _ hs => hs) hkeep hlose hstart calls
  constructor
  · intro h
    exact htracks.mp h.1
  · intro h
    exact ⟨htracks.mpr h, h.imp fun _ _ hc => ConfigSession.framed_of_harmless laws hc⟩

def someCalls : List (ConfigCall Nat) :=
  [.multithread, .uri true, .log (some 7) none, .pmasz 250, .stmtjrnlSpill 65536, .clearLog]

theorem config_settings_iff_someCalls :
    let start : ConfigSession (RecordedConfig SettingTable) ConfigValue Nat :=
      ConfigSession.start SettingTable.initial
    (Always ConfigSession.exec ConfigSession.Tracks start someCalls ∧
        StepsMeet ConfigSession.exec (fun s c => c.Framed s) start someCalls) ↔
      StepsMeet ConfigSession.exec ConfigSession.SpillHarmless start someCalls :=
  config_settings_iff configLaws_settingTable SettingTable.initial someCalls

/-- A statement-journal threshold of 65536 becomes the PMA size that was set to 250, and the
threshold keeps its initial value. -/
theorem config_spill_sets_pma :
    let calls : List (ConfigCall Nat) := [.pmasz 250, .stmtjrnlSpill 65536]
    let start : ConfigSession (RecordedConfig SettingTable) ConfigValue Nat :=
      ConfigSession.start SettingTable.initial
    let final := run ConfigSession.exec start calls
    final.state.sqlite.answers = [SQLITE_OK, SQLITE_OK] ∧
      final.state.sqlite.lib.setting .pmaSize = some (.pmasz, [.int 65536]) ∧
      final.state.sqlite.lib.setting .stmtjrnlSpill = none ∧
      ¬ (Always ConfigSession.exec ConfigSession.Tracks start calls ∧
        StepsMeet ConfigSession.exec (fun s c => c.Framed s) start calls) := by
  intro calls start final
  refine ⟨rfl, rfl, rfl, ?_⟩
  rintro ⟨htracks, -⟩
  have hend : final.Tracks := htracks.last
  have hspill : final.state.sqlite.lib.setting .stmtjrnlSpill = final.expected .stmtjrnlSpill :=
    congrFun hend .stmtjrnlSpill
  exact absurd hspill (by decide)

end Sqxx
