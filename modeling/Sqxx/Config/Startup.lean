import Sqxx.Config.Settings

/-!
# Configuration at program start

A static object initialises the library before `main`.  From then on the library takes no more
start-up configuration, so that the functions work only if that initialisation failed.
-/

namespace Sqxx
open Framework

/-- Configuration is a misuse without effect while the library is initialised, and succeeds before
that with `valid` arguments. -/
structure StartupLaws (W : Type) {V : Type} [api : ConfigApi W V]
    (valid : ConfigOp → List ConfigArg → Prop) : Prop where
  started : ∀ w : W, (api.sqliteInitialize w).1 = SQLITE_OK →
    api.initialized (api.sqliteInitialize w).2 = true
  not_started : ∀ w : W, api.initialized w = false → (api.sqliteInitialize w).1 ≠ SQLITE_OK →
    api.initialized (api.sqliteInitialize w).2 = false
  misuse : ∀ (w : W) op args, api.initialized w = true →
    (api.config w op args).1 = SQLITE_MISUSE ∧
      api.setting (api.config w op args).2 = api.setting w ∧
      api.initialized (api.config w op args).2 = true
  sets : ∀ (w : W) op args, api.initialized w = false → valid op args →
    (api.config w op args).1 = SQLITE_OK ∧
      api.setting (api.config w op args).2 op.setting = api.value op args ∧
      api.initialized (api.config w op args).2 = false

namespace Config

variable {W V F : Type} [api : ConfigApi W V]

/-- `lib_setup::lib_setup`; the code is ignored. -/
def libSetup : Cxx (ConfigState W F) Unit := do
  let _rv ← Prog.effect fun st =>
    let (rv, sqlite) := api.sqliteInitialize st.sqlite
    (rv, { st with sqlite := sqlite })
  pure ()

def libSetupDestructor : Cxx (ConfigState W F) Unit := do
  let _rv ← Prog.effect fun st =>
    let (rv, sqlite) := api.sqliteShutdown st.sqlite
    (rv, { st with sqlite := sqlite })
  pure ()

/-- A program after its static objects have been constructed. -/
def afterStatics (w : W) : ConfigState W F :=
  (libSetup (F := F) ⟨w, Heap.empty, fun _ => none⟩).final

end Config

namespace ConfigCall

variable {W V F : Type} [api : ConfigApi W V]

def exec (st : ConfigState W F) (c : ConfigCall F) : ConfigState W F := (c.op st).final

/-- The functions for settings that can be made at program start. -/
def StartsUp : ConfigCall F → Prop
  | .singlethread | .multithread | .serialized | .memstatus _ | .pagecache _ _ _ | .heap _ _ _
  | .lookaside _ _ | .uri _ | .mmapSize _ _ => True
  | _ => False

/-- The call makes the request with arguments the library takes. -/
def Valid (valid : ConfigOp → List ConfigArg → Prop) (c : ConfigCall F) : Prop :=
  ∀ cb op args, c.ownRequest cb = some (op, args) → valid op args

/-- The call returns and its setting has the value it gives. -/
def TakesEffect (st : ConfigState W F) (c : ConfigCall F) : Prop :=
  (c.op st).outcome = .ok () ∧
    ∀ op args, c.ownRequest st.objects.next = some (op, args) →
      api.setting (exec st c).sqlite op.setting = api.value op args

private theorem StartsUp.configures {c : ConfigCall F} (hc : c.StartsUp) :
    ∃ op args, (∀ cb, c.ownRequest cb = some (op, args)) ∧
      (c.op : Cxx (ConfigState W F) Unit) = Config.configure op args := by
  cases c with
  | singlethread => exact ⟨_, _, fun _ => rfl, rfl⟩
  | multithread => exact ⟨_, _, fun _ => rfl, rfl⟩
  | serialized => exact ⟨_, _, fun _ => rfl, rfl⟩
  | memstatus enable => exact ⟨_, _, fun _ => rfl, rfl⟩
  | pagecache buf sz n => exact ⟨_, _, fun _ => rfl, rfl⟩
  | heap buf bytes minalloc => exact ⟨_, _, fun _ => rfl, rfl⟩
  | lookaside sz n => exact ⟨_, _, fun _ => rfl, rfl⟩
  | uri enable => exact ⟨_, _, fun _ => rfl, rfl⟩
  | mmapSize defaultlimit maxlimit => exact ⟨_, _, fun _ => rfl, rfl⟩
  | _ => exact hc.elim

variable {valid : ConfigOp → List ConfigArg → Prop}

private theorem takesEffect_of_stopped (laws : StartupLaws W valid) {st : ConfigState W F}
    (hst : api.initialized st.sqlite = false) {c : ConfigCall F} (hc : c.StartsUp)
    (hvalid : c.Valid valid) :
    TakesEffect st c ∧ api.initialized (exec st c).sqlite = false := by
  obtain ⟨op, args, hrequest, hop⟩ := hc.configures (W := W)
  obtain ⟨hok, hset, hstopped⟩ := laws.sets st.sqlite op args hst (hvalid 0 op args (hrequest 0))
  have hends := Config.configure_ends op args st
  rw [hok, Config.answered, if_pos rfl, ← hop] at hends
  have hafter : exec st c = { st with sqlite := (api.config st.sqlite op args).2 } := hends.final
  refine ⟨⟨hends.outcome, ?_⟩, ?_⟩
  · intro op' args' hrequest'
    rw [hrequest] at hrequest'
    cases hrequest'
    rw [hafter]
    exact hset
  · rw [hafter]
    exact hstopped

/-- While the library is initialised every call throws. -/
theorem not_takesEffect_of_started (laws : StartupLaws W valid) {st : ConfigState W F}
    (hst : api.initialized st.sqlite = true) {c : ConfigCall F} (hc : c.StartsUp) :
    ¬ TakesEffect st c := by
  obtain ⟨op, args, hrequest, hop⟩ := hc.configures (W := W)
  obtain ⟨hmisuse, -, -⟩ := laws.misuse st.sqlite op args hst
  have hends := Config.configure_ends op args st
  rw [hmisuse, ← hop] at hends
  rintro ⟨hout, -⟩
  rw [hends.outcome] at hout
  exact absurd hout (by simp [Config.answered, SQLITE_MISUSE, SQLITE_OK])

end ConfigCall

/-- The configuration calls a program starts with all return and take effect exactly if there are
none or the static object failed to initialise the library. -/
theorem config_usable_iff {W V F : Type} [api : ConfigApi W V]
    {valid : ConfigOp → List ConfigArg → Prop} (laws : StartupLaws W valid) {w : W}
    (hw : api.initialized w = false) (calls : List (ConfigCall F))
    (hcalls : ∀ c ∈ calls, c.StartsUp ∧ c.Valid valid) :
    StepsMeet ConfigCall.exec ConfigCall.TakesEffect (Config.afterStatics w) calls ↔
      calls = [] ∨ (api.sqliteInitialize w).1 ≠ SQLITE_OK := by
  constructor
  · intro h
    by_contra hno
    obtain ⟨hne, hok⟩ := not_or.mp hno
    obtain ⟨c, rest, rfl⟩ := List.exists_cons_of_ne_nil hne
    have hstarted : api.initialized (Config.afterStatics w : ConfigState W F).sqlite = true :=
      laws.started w (not_not.mp hok)
    exact ConfigCall.not_takesEffect_of_started laws hstarted (hcalls c List.mem_cons_self).1 h.1
  · rintro (rfl | hfailed)
    · trivial
    · have hstopped : api.initialized (Config.afterStatics w : ConfigState W F).sqlite = false :=
        laws.not_started w hw hfailed
      generalize (Config.afterStatics w : ConfigState W F) = st at hstopped
      induction calls generalizing st with
      | nil => trivial
      | cons c rest ih =>
        obtain ⟨hstarts, hvalid⟩ := hcalls c List.mem_cons_self
        obtain ⟨heffect, hnext⟩ := ConfigCall.takesEffect_of_stopped laws hstopped hstarts hvalid
        exact ⟨heffect, ih (fun c' hc' => hcalls c' (List.mem_cons_of_mem c hc')) _ hnext⟩

theorem startupLaws_settingTable : StartupLaws SettingTable fun _ _ => True where
  started w _ := rfl
  not_started w _ hno := absurd rfl hno
  misuse w op args hw := by
    have h : w.initialized = true := hw
    simp [ConfigApi.config, ConfigApi.setting, ConfigApi.initialized, h]
  sets w op args hw _ := by
    have h : w.initialized = false := hw
    simp [ConfigApi.config, ConfigApi.setting, ConfigApi.initialized, ConfigApi.value, h]

theorem config_usable_iff_uri :
    StepsMeet ConfigCall.exec ConfigCall.TakesEffect
        (Config.afterStatics SettingTable.initial : ConfigState SettingTable Nat) [.uri true] ↔
      ([.uri true] : List (ConfigCall Nat)) = [] ∨
        (ConfigApi.sqliteInitialize SettingTable.initial).1 ≠ SQLITE_OK :=
  config_usable_iff startupLaws_settingTable rfl [.uri true] (by
    intro c hc
    cases List.mem_singleton.mp hc
    exact ⟨trivial, fun _ _ _ _ => trivial⟩)

/-- The first call of a program is rejected as a misuse. -/
theorem config_uri_misuse :
    let start : ConfigState SettingTable Nat := Config.afterStatics SettingTable.initial
    ((ConfigCall.uri true).op start).outcome =
        .error (.exception (staticError SQLITE_MISUSE)) ∧
      ¬ StepsMeet ConfigCall.exec ConfigCall.TakesEffect start [.uri true] := by
  intro start
  refine ⟨rfl, ?_⟩
  rintro ⟨⟨hout, -⟩, -⟩
  exact absurd hout (by decide)

end Sqxx
