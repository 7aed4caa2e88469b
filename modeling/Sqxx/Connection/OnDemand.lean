import Sqxx.Callbacks.Handlers
import Sqxx.Framework.Dialogues
import Sqxx.Function.Registry

/-!
# Collations on demand

SQL looks for a collation under its name.  Where it needs one the library calls the collation
handler and looks again.  The handler registers through the connection, as the program itself does.
The database is one of UTF-8 texts.
-/

namespace Sqxx
open Framework

variable {Q K F U R : Type}

def SQLITE_UTF8 : Int32 := 1

/-- User code that makes calls on a connection, sees how they end, and returns or throws. -/
abbrev RegistryScript (F U R : Type) :=
  U → Dialogue (RegistryEvent F) (Except Raised Unit) (Except Exn R × U)

/-- The registry of a handle, the calls made on it so far, and the state of the user's code. -/
structure Registrar (Q F U : Type) where
  registry : RegistryWorld Q F
  calls : List (RegistryEvent F)
  user : U

namespace Registrar

def fresh (q : Q) (user : U) : Registrar Q F U := ⟨.fresh q, [], user⟩

def call (K : Type) [RegistryApi Q K] (s : Registrar Q F U) (e : RegistryEvent F) :
    Registrar Q F U :=
  { s with registry := e.exec K s.registry, calls := s.calls ++ [e] }

end Registrar

def RegistryScript.code (K : Type) [RegistryApi Q K] (f : RegistryScript F U R) :
    UserCode (Registrar Q F U) R := fun s =>
  let r := (f s.user).talk (RegistryEvent.machine K) s.registry
  let asked := (f s.user).asked (RegistryEvent.machine K) s.registry
  (r.1.1, ⟨r.2, s.calls ++ asked, r.1.2⟩)

/-- A collation handler gets the connection and the name. -/
abbrev CollationHandler (F U : Type) := Nat → CStr → RegistryScript F U Unit

section Locating

variable (K) [api : CollationApi Q K] (needed : Option (CollationHandler F U)) (conn : Nat)

/-- The search of the library, with the handler that `set_collation_handler` has set. -/
def locateCollation (name : CStr) : Cxx (CallbackState (Registrar Q F U)) (Option Collation) := do
  let asks ← Prog.reading fun s => api.needed (K := K) s.user.registry.sqlite name
  match asks, needed with
  | true, some fn =>
    Callbacks.sqxxCallCollationHandler (fun conn name => (fn conn name).code K) conn SQLITE_UTF8
      name
  | _, _ => pure ()
  Prog.reading fun s => api.collation (K := K) s.user.registry.sqlite name

def demanded (f : RegistryScript F U Unit) (s : CallbackState (Registrar Q F U)) :
    CallbackState (Registrar Q F U) :=
  match f.code K s.user with
  | (.ok _, u) => { s with user := u }
  | (.error e, u) => CallbackState.handled { s with user := u } "collation handler" e

/-- The handler is asked for what the library needs. -/
def located (name : CStr) (s : CallbackState (Registrar Q F U)) :
    CallbackState (Registrar Q F U) :=
  match api.needed (K := K) s.user.registry.sqlite name, needed with
  | true, some fn => demanded K (fn conn name) s
  | _, _ => s

end Locating

/-- The code makes only calls that are `ok`. -/
def RegistryScript.Asks (f : RegistryScript F U R) (ok : RegistryEvent F → Prop) : Prop :=
  ∀ u, (f u).Within ok fun _ => True

/-- What a callback exception handler does to the registry it does by calls that are `ok`. -/
def CallbackExceptionHandler.Asks (K : Type) [RegistryApi Q K]
    (h : CallbackExceptionHandler (Registrar Q F U)) (ok : RegistryEvent F → Prop) : Prop :=
  ∀ fn, h = .user fn → ∃ f : String → ExceptionPtr → RegistryScript F U Unit,
    (∀ cbname ex, (f cbname ex).Asks ok) ∧ fn = fun cbname ex => (f cbname ex).code K

/-- What happens to a connection: calls of the program, and SQL that needs a collation. -/
inductive RegistrarEvent (F : Type)
  | call (e : RegistryEvent F)
  | needs (name : CStr)

/-- The answer to a call is how it ends. -/
def RegistrarEvent.machine (K : Type) [CollationApi Q K] (needed : Option (CollationHandler F U))
    (conn : Nat) :
    Machine (CallbackState (Registrar Q F U)) (RegistrarEvent F) (Option (Except Raised Unit)) :=
  fun s e =>
    match e with
    | .call e => (some (e.op K s.user.registry).outcome, { s with user := s.user.call K e })
    | .needs name => (none, (locateCollation K needed conn name s).final)

/-- From `s` to `t` the user's code has made calls that are `ok` and nothing else. -/
def CallsMade (K : Type) [RegistryApi Q K] (ok : RegistryEvent F → Prop)
    (s t : CallbackState (Registrar Q F U)) : Prop :=
  ∃ es, (∀ e ∈ es, ok e) ∧ t.user.registry = run (RegistryEvent.exec K) s.user.registry es ∧
    t.user.calls = s.user.calls ++ es ∧ t.handler = s.handler

/-- The registry is what the calls so far have made of the handle `q`. -/
def CallsRecorded (K : Type) [RegistryApi Q K] (q : Q) (s : Registrar Q F U) : Prop :=
  s.registry = run (RegistryEvent.exec K) (.fresh q) s.calls

section Calls

variable [api : CollationApi Q K] {q : Q} {s t v : CallbackState (Registrar Q F U)}
  {ok : RegistryEvent F → Prop}

omit api in
theorem RegistryScript.asks_anything (f : RegistryScript F U R) : f.Asks fun _ => True := by
  intro u
  induction f u with
  | done r => trivial
  | ask e next ih => exact ⟨trivial, ih⟩

theorem CallbackExceptionHandler.Asks.mono {ok' : RegistryEvent F → Prop}
    {h : CallbackExceptionHandler (Registrar Q F U)} (hh : h.Asks K ok)
    (himp : ∀ e, ok e → ok' e) : h.Asks K ok' := by
  intro fn hfn
  obtain ⟨f, hf, rfl⟩ := hh fn hfn
  exact ⟨f, fun cbname ex u => (hf cbname ex u).mono himp fun _ => id, rfl⟩

theorem CallsMade.refl (s : CallbackState (Registrar Q F U)) : CallsMade K ok s s :=
  ⟨[], by simp⟩

theorem CallsMade.trans (h : CallsMade K ok s t) (h' : CallsMade K ok t v) :
    CallsMade K ok s v := by
  obtain ⟨es, hok, hregistry, hcalls, hhandler⟩ := h
  obtain ⟨es', hok', hregistry', hcalls', hhandler'⟩ := h'
  refine ⟨es ++ es', ?_, ?_, ?_, hhandler'.trans hhandler⟩
  · intro e he
    exact (List.mem_append.mp he).elim (hok e) (hok' e)
  · rw [hregistry', hregistry, run, run, run, List.foldl_append]
  · rw [hcalls', hcalls, List.append_assoc]

theorem CallsMade.recorded (h : CallsMade K ok s t) (hs : CallsRecorded K q s.user) :
    CallsRecorded K q t.user := by
  obtain ⟨es, -, hregistry, hcalls, -⟩ := h
  rw [CallsRecorded, hregistry, hcalls, hs, run, run, run, List.foldl_append]

private theorem call_callsMade {e : RegistryEvent F} (he : ok e)
    (s : CallbackState (Registrar Q F U)) :
    CallsMade K ok s { s with user := s.user.call K e } :=
  ⟨[e], by simp [Registrar.call, he]⟩

private theorem code_callsMade {f : RegistryScript F U R} (hf : f.Asks ok)
    (s : CallbackState (Registrar Q F U)) :
    CallsMade K ok s { s with user := (f.code K s.user).2 } :=
  ⟨_, (hf s.user.user).asked s.user.registry, Dialogue.talk_state _ _, rfl, rfl⟩

private theorem handled_callsMade (hh : s.handler.Asks K ok) (cbname : String) (e : Exn) :
    CallsMade K ok s (s.handled cbname e) := by
  obtain ⟨u, handler, reports⟩ := s
  cases handler with
  | empty => exact ⟨[], by simp [CallbackState.handled, afterHandler]⟩
  | default => exact ⟨[], by simp [CallbackState.handled, afterHandler]⟩
  | user fn =>
    obtain ⟨f, hf, rfl⟩ := hh fn rfl
    exact code_callsMade (hf cbname (some e)) ⟨u, _, reports⟩

private theorem demanded_callsMade {f : RegistryScript F U Unit} (hf : f.Asks ok)
    (hh : s.handler.Asks K ok) : CallsMade K ok s (demanded K f s) := by
  have hcode := code_callsMade (K := K) hf s
  rcases hrun : f.code K s.user with ⟨outcome, u⟩
  rw [hrun] at hcode
  rw [demanded, hrun]
  cases outcome with
  | ok r => exact hcode
  | error e => exact hcode.trans (handled_callsMade (s := { s with user := u }) hh _ e)

theorem located_callsMade {needed : Option (CollationHandler F U)} {conn : Nat} {name : CStr}
    (hf : ∀ fn, needed = some fn → (fn conn name).Asks ok) (hh : s.handler.Asks K ok) :
    CallsMade K ok s (located K needed conn name s) := by
  unfold located
  split
  · case h_1 fn _ => exact demanded_callsMade (hf fn rfl) hh
  · exact CallsMade.refl s

private theorem demanded_ends (fn : CollationHandler F U) (conn : Nat) (textrep : Int32)
    (name : CStr) (s : CallbackState (Registrar Q F U)) :
    Prog.Ends (Callbacks.sqxxCallCollationHandler (fun conn name => (fn conn name).code K) conn
      textrep name) s (.ok ()) (demanded K (fn conn name) s) := by
  unfold Callbacks.sqxxCallCollationHandler demanded
  rcases hrun : (fn conn name).code K s.user with ⟨outcome, u⟩
  cases outcome with
  | ok r =>
    apply Callbacks.guarded_ok
    exact Callbacks.callUser_ok hrun
  | error e =>
    apply Callbacks.guarded_throw
    exact Callbacks.callUser_throw hrun

private theorem located_known (needed : Option (CollationHandler F U)) (conn : Nat) {name : CStr}
    (h : api.needed (K := K) s.user.registry.sqlite name = false) :
    located K needed conn name s = s := by
  simp only [located, h]

private theorem located_needed (needed : Option (CollationHandler F U)) (conn : Nat) {name : CStr}
    (h : api.needed (K := K) s.user.registry.sqlite name = true) :
    located K needed conn name s = needed.elim s fun fn => demanded K (fn conn name) s := by
  cases needed <;> simp [located, h]

theorem locateCollation_ends (needed : Option (CollationHandler F U)) (conn : Nat) (name : CStr)
    (s : CallbackState (Registrar Q F U)) :
    let t := located K needed conn name s
    Prog.Ends (locateCollation K needed conn name) s
      (.ok (api.collation (K := K) t.user.registry.sqlite name)) t := by
  intro t
  apply (Prog.Ends.reading _ s).bind
  rcases hasks : api.needed (K := K) s.user.registry.sqlite name with _ | _
  · have ht : t = s := located_known needed conn hasks
    rw [ht]
    exact Prog.Ends.reading _ s
  · have ht : t = _ := located_needed needed conn hasks
    rw [ht]
    cases needed with
    | none => exact Prog.Ends.reading _ s
    | some fn => exact (demanded_ends fn conn SQLITE_UTF8 name s).bind (Prog.Ends.reading _ _)

private theorem machine_callsMade {needed : Option (CollationHandler F U)}
    (hf : ∀ fn, needed = some fn → ∀ conn name, (fn conn name).Asks ok)
    (hh : s.handler.Asks K ok) (conn : Nat) (e : RegistrarEvent F) (he : ∀ c, e = .call c → ok c) :
    CallsMade K ok s ((RegistrarEvent.machine K needed conn).next s e) := by
  cases e with
  | call c => exact call_callsMade (K := K) (he c rfl) s
  | needs name =>
    have hfinal := (locateCollation_ends (K := K) needed conn name s).final
    rw [Machine.next, RegistrarEvent.machine, hfinal]
    exact located_callsMade (fun fn hfn => hf fn hfn conn name) hh

end Calls

section Runs

variable [DecidableEq K] [api : CollationApi Q K] {q : Q}

/-- The program's own registrations, by its calls that did not throw, and the names SQL needed. -/
structure OwnRegistrations (K F : Type) where
  targets : K → Option (Target F)
  asked : List CStr

def OwnRegistrations.next (K Q : Type) [RegistryApi Q K] [DecidableEq K]
    (t : OwnRegistrations K F) :
    RegistrarEvent F × Option (Except Raised Unit) → OwnRegistrations K F
  | (.call e, some o) => { t with targets := RegistryEvent.store K Q t.targets (e, o) }
  | (.needs name, _) => { t with asked := name :: t.asked }
  | (.call _, none) => t

private theorem targetAt_run_other (laws : RegistryLaws Q K) {w : RegistryWorld Q F}
    (hw : RegistrySound K w) {k l : K} (hl : l ≠ k) {es : List (RegistryEvent F)}
    (hes : ∀ e ∈ es, e.key (Q := Q) K = k) :
    targetAt K (run (RegistryEvent.exec K) w es) l = targetAt K w l := by
  induction es generalizing w with
  | nil => rfl
  | cons e es ih =>
    obtain ⟨he, hes⟩ := List.forall_mem_cons.mp hes
    rw [run_cons, ih (exec_registrySound laws w e hw) hes, RegistryEvent.exec]
    rcases op_assigns laws hw e with ⟨-, htarget⟩ | ⟨raised, -, htarget⟩
    · rw [htarget, he, Function.update_of_ne hl]
    · rw [htarget]

/-- What is the program's own is there, and what else is there was needed. -/
structure KeepsOwn (K : Type) [api : CollationApi Q K] (start : CallbackState (Registrar Q F U))
    (s : CallbackState (Registrar Q F U)) (t : OwnRegistrations K F) : Prop where
  sound : RegistrySound K s.user.registry
  entries : EntriesHaveTargets K s.user.registry
  handler : s.handler = start.handler
  own : ∀ k target, t.targets k = some target → targetAt K s.user.registry k = some target
  other : ∀ k target, targetAt K s.user.registry k = some target → t.targets k = none →
    ∃ name ∈ t.asked, k = api.collationKey (Q := Q) name

variable {start s : CallbackState (Registrar Q F U)} {t : OwnRegistrations K F}

theorem KeepsOwn.call (laws : RegistryLaws Q K) (h : KeepsOwn K start s t) (e : RegistryEvent F) :
    KeepsOwn K start { s with user := s.user.call K e }
      (t.next K Q (.call e, some (e.op K s.user.registry).outcome)) := by
  have hstore := store_step laws s.user.registry e h.sound
  have hsound := exec_registrySound laws s.user.registry e h.sound
  have hentries := op_entriesHaveTargets laws e h.sound h.entries
  change targetAt K (s.user.call K e).registry = RegistryEvent.store K Q _ (e, _) at hstore
  rcases hout : (e.op K s.user.registry).outcome with raised | _
  · have hsame : targetAt K (s.user.call K e).registry = targetAt K s.user.registry := by
      rw [hstore, RegistryEvent.machine, hout, RegistryEvent.store]
    refine ⟨hsound, hentries, h.handler, ?_, ?_⟩
    · rw [hsame]
      exact h.own
    · rw [hsame]
      exact h.other
  · have hnew : targetAt K (s.user.call K e).registry =
        Function.update (targetAt K s.user.registry) (e.key (Q := Q) K) e.registers := by
      rw [hstore, RegistryEvent.machine, hout, RegistryEvent.store]
    have hown : (t.next K Q (.call e, some (.ok ()))).targets =
        Function.update t.targets (e.key (Q := Q) K) e.registers := rfl
    refine ⟨hsound, hentries, h.handler, ?_, ?_⟩
    · intro k target
      rw [hnew, hown]
      by_cases hk : k = e.key (Q := Q) K
      · subst hk
        simp
      · rw [Function.update_of_ne hk, Function.update_of_ne hk]
        exact h.own k target
    · intro k target
      rw [hnew, hown]
      by_cases hk : k = e.key (Q := Q) K
      · subst hk
        rw [Function.update_self, Function.update_self]
        intro htarget hnone
        cases hnone.symm.trans htarget
      · rw [Function.update_of_ne hk, Function.update_of_ne hk]
        exact h.other k target

private theorem KeepsOwn.needs (laws : RegistryLaws Q K) (search : CollationLaws Q K)
    (h : KeepsOwn K start s t)
    {needed : Option (CollationHandler F U)} {conn : Nat} {name : CStr}
    (hneeded : ∀ fn, needed = some fn →
      (fn conn name).Asks fun e => e.key (Q := Q) K = api.collationKey (Q := Q) name)
    (hhandler : start.handler.Asks K fun _ => False) :
    KeepsOwn K start (located K needed conn name s) { t with asked := name :: t.asked } := by
  let key : K := api.collationKey (Q := Q) name
  have hother : ∀ k target, targetAt K s.user.registry k = some target → t.targets k = none →
      ∃ name' ∈ name :: t.asked, k = api.collationKey (Q := Q) name' := by
    intro k target htarget hnone
    obtain ⟨name', hmem, hk⟩ := h.other k target htarget hnone
    exact ⟨name', List.mem_cons_of_mem name hmem, hk⟩
  rcases hasks : api.needed (K := K) s.user.registry.sqlite name with _ | _
  · rw [located_known needed conn hasks]
    exact ⟨h.sound, h.entries, h.handler, h.own, hother⟩
  · -- nothing was registered, so the program has nothing there, and the calls are for this key
    have hmissing : targetAt K s.user.registry key = none := by
      rcases hfound : api.entry s.user.registry.sqlite key with _ | e
      · rw [targetAt, hfound, Option.bind_none]
      · cases hasks.symm.trans (search.registered _ name e hfound).1
    have hmade : CallsMade K (fun e => e.key (Q := Q) K = key) s
        (located K needed conn name s) := by
      apply located_callsMade hneeded
      rw [h.handler]
      exact hhandler.mono fun _ hno => hno.elim
    obtain ⟨es, hes, hregistry, -, hkept⟩ := hmade
    have hsame : ∀ k, k ≠ key →
        targetAt K (located K needed conn name s).user.registry k =
          targetAt K s.user.registry k := by
      intro k hk
      rw [hregistry]
      exact targetAt_run_other laws h.sound hk hes
    have hrun := run_registrySound laws h.sound h.entries es
    rw [← hregistry] at hrun
    refine ⟨hrun.1, hrun.2, hkept.trans h.handler, ?_, ?_⟩
    · intro k target hk
      by_cases hkey : k = key
      · subst hkey
        cases hmissing.symm.trans (h.own _ target hk)
      · rw [hsame k hkey]
        exact h.own k target hk
    · intro k target htarget hnone
      by_cases hkey : k = key
      · exact ⟨name, List.mem_cons_self, hkey⟩
      · rw [hsame k hkey] at htarget
        exact hother k target htarget hnone

omit [DecidableEq K] in
theorem run_recorded (needed : Option (CollationHandler F U)) (conn : Nat) {u : U}
    (hstart : start.user = .fresh q u) (hhandler : start.handler.Asks K fun _ => True)
    (es : List (RegistrarEvent F)) :
    let s := run (RegistrarEvent.machine K needed conn).next start es
    CallsRecorded K q s.user ∧ s.handler = start.handler := by
  have hstep : ∀ s e, CallsRecorded K q s.user ∧ s.handler = start.handler →
      CallsRecorded K q ((RegistrarEvent.machine K needed conn).next s e).user ∧
        ((RegistrarEvent.machine K needed conn).next s e).handler = start.handler := by
    rintro s e ⟨hrecorded, hkept⟩
    have hmade : CallsMade K (fun _ => True) s
        ((RegistrarEvent.machine K needed conn).next s e) := by
      apply machine_callsMade
      · exact fun fn _ conn name u => RegistryScript.asks_anything _ u
      · rwa [hkept]
      · exact fun _ _ => trivial
    refine ⟨hmade.recorded hrecorded, ?_⟩
    obtain ⟨-, -, -, -, hsame⟩ := hmade
    exact hsame.trans hkept
  refine (always_of_preserved hstep ⟨?_, rfl⟩ es).last
  rw [hstart]
  rfl

theorem lookup_recorded (laws : RegistryLaws Q K) (hq : ∀ k : K, api.entry q k = none)
    {s : Registrar Q F U} (hs : CallsRecorded K q s) (k : K) :
    targetAt K s.registry k = lastTarget q s.calls k ∧
      (api.entry s.registry.sqlite k).isSome = (lastTarget q s.calls k).isSome := by
  have hentries := (run_registrySound laws (registrySound_fresh hq) (entriesHaveTargets_fresh hq)
    s.calls).2
  have htarget := targetAt_run laws hq s.calls k
  rw [← hs] at hentries htarget
  exact ⟨htarget, by rw [← hentries k, htarget]⟩

def Collation.target (h : Heap F) : Collation → Option (Target F)
  | .registered e => e.target h
  | .own => none

omit [DecidableEq K] in
private theorem found_target (search : CollationLaws Q K) {w : RegistryWorld Q F} (name : CStr) :
    (api.collation (K := K) w.sqlite name).bind (Collation.target w.callables) =
      targetAt K w (api.collationKey (Q := Q) name) := by
  rcases hentry : api.entry w.sqlite (api.collationKey (Q := Q) name) with _ | e
  · have hno := search.notRegistered _ name hentry
    rw [targetAt, hentry, Option.bind_none]
    rcases hfinds : api.collation (K := K) w.sqlite name with _ | e | _
    · rfl
    · exact (hno e hfinds).elim
    · rfl
  · rw [targetAt, hentry, (search.registered _ name e hentry).2]
    rfl

end Runs

/-- After any calls of the program and any searches of SQL, a search finds what was registered last
under the name, by the program or by a handler, or else a collation of the library's own or none.
The handler is never called for a name under which something is registered, and always for one that
the library does not know; whatever it does the search returns. -/
theorem collations_on_demand [DecidableEq K] [api : CollationApi Q K] (laws : RegistryLaws Q K)
    (search : CollationLaws Q K) {q : Q} (hq : ∀ k : K, api.entry q k = none)
    (needed : Option (CollationHandler F U))
    (conn : Nat) {start : CallbackState (Registrar Q F U)} {u : U}
    (hstart : start.user = .fresh q u) (hhandler : start.handler.Asks K fun _ => True)
    (es : List (RegistrarEvent F)) (name : CStr) :
    let s := run (RegistrarEvent.machine K needed conn).next start es
    let last (calls : List (RegistryEvent F)) := lastTarget q calls (api.collationKey (Q := Q) name)
    ∃ found t, Prog.Ends (locateCollation K needed conn name) s (.ok found) t ∧
      found.bind (Collation.target t.user.registry.callables) = last t.user.calls ∧
      (last t.user.calls = none → found = some .own ∨ found = none) ∧
      (last s.user.calls ≠ none → t = s) ∧
      (t = s ∨ t = needed.elim s fun fn => demanded K (fn conn name) s) ∧
      (api.collation (K := K) s.user.registry.sqlite name = none →
        t = needed.elim s fun fn => demanded K (fn conn name) s) := by
  intro s last
  let key : K := api.collationKey (Q := Q) name
  obtain ⟨hs, hkept⟩ := run_recorded (K := K) needed conn hstart hhandler es
  have hmade : CallsMade K (fun _ => True) s (located K needed conn name s) := by
    apply located_callsMade
    · exact fun fn _ u => RegistryScript.asks_anything _ u
    · rwa [hkept]
  obtain ⟨htarget, hsome⟩ := lookup_recorded laws hq (hmade.recorded hs) key
  obtain ⟨-, hthere⟩ := lookup_recorded laws hq hs key
  let t := located K needed conn name s
  have hfound := found_target search (w := t.user.registry) name
  rw [htarget] at hfound
  refine ⟨_, t, locateCollation_ends needed conn name s, hfound, ?_, ?_, ?_, ?_⟩
  · intro hlast
    have hlast' : lastTarget q t.user.calls key = none := hlast
    rw [hlast', Option.isSome_none, Option.isSome_eq_false_iff, Option.isNone_iff_eq_none] at hsome
    have hno := search.notRegistered _ name hsome
    rcases hfinds : api.collation (K := K) t.user.registry.sqlite name with _ | _ | e
    · exact Or.inr rfl
    · cases hno _ hfinds
    · exact Or.inl rfl
  · intro hlast
    have hentry : (api.entry s.user.registry.sqlite key).isSome = true :=
      hthere.trans (Option.isSome_iff_ne_none.mpr hlast)
    obtain ⟨e, he⟩ := Option.isSome_iff_exists.mp hentry
    exact located_known needed conn (search.registered _ name e he).1
  · rcases hasks : api.needed (K := K) s.user.registry.sqlite name with _ | _
    · exact Or.inl (located_known needed conn hasks)
    · exact Or.inr (located_needed needed conn hasks)
  · intro hunknown
    exact located_needed needed conn (search.unknown _ name hunknown)

def binaryName : CStr := ⟨[66, 73, 78, 65, 82, 89], by decide, by decide⟩

instance : CollationApi EntryTable (CStr × Option Int) where
  needed q name := (q.lookup (name, none)).isNone && name ≠ binaryName
  collation q name :=
    match q.lookup (name, none) with
    | some e => some (.registered e)
    | none => if name = binaryName then some .own else none
  compareOwn _ := compare

theorem EntryTable.collationLaws : CollationLaws EntryTable (CStr × Option Int) where
  registered q name e h := by
    have hlookup : q.lookup (name, none) = some e := h
    simp [CollationApi.needed, CollationApi.collation, hlookup]
  notRegistered q name h e := by
    have hlookup : q.lookup (name, none) = none := h
    simp only [CollationApi.collation, hlookup]
    split <;> simp
  unknown q name h := by
    rcases hlookup : q.lookup (name, none) with _ | e
    · have hname : name ≠ binaryName := by
        rintro rfl
        simp [CollationApi.collation, hlookup] at h
      simp [CollationApi.needed, hlookup, hname]
    · simp [CollationApi.collation, hlookup] at h

def createsSeven : CollationHandler Nat Nat := fun _ name asked =>
  .ask (.createCollation name (.callable 7 none)) fun _ => .done (.ok (), asked + 1)

/-- `a` is there, `b` is not and is needed twice: the handler is called once. -/
theorem collations_on_demand_twice :
    let a : CStr := ⟨[97], by decide, by decide⟩
    let b : CStr := ⟨[98], by decide, by decide⟩
    let start : CallbackState (Registrar EntryTable Nat Nat) := ⟨.fresh ∅ 0, .default, []⟩
    let es : List (RegistrarEvent Nat) :=
      [.call (.createCollation a (.callable 3 none)), .needs a, .needs b]
    let s := run (RegistrarEvent.machine (CStr × Option Int) (some createsSeven) 5).next start es
    ∃ found, Prog.Ends (locateCollation (CStr × Option Int) (some createsSeven) 5 b) s
        (.ok found) s ∧
      found.bind (Collation.target s.user.registry.callables) = some (.collation (.object 7)) ∧
      s.user.user = 1 := by
  intro a b start es s
  have hhandler : start.handler.Asks (CStr × Option Int) fun _ => True := fun fn h => by cases h
  obtain ⟨found, t, hends, htarget, -, hthere, -⟩ := collations_on_demand EntryTable.registryLaws
    EntryTable.collationLaws (q := (∅ : EntryTable)) (fun _ => rfl) (some createsSeven) 5 rfl
    hhandler es b
  have hlast : lastTarget (K := CStr × Option Int) (∅ : EntryTable) s.user.calls (b, none) =
      some (.collation (.object 7)) := by with_unfolding_all rfl
  have ht : t = s := hthere fun hnone => by cases hlast.symm.trans hnone
  subst ht
  exact ⟨found, hends, htarget.trans hlast, by with_unfolding_all rfl⟩

/-- A handler that creates nothing but the collation it is asked for never takes the place of what
the program has registered: the program's own registrations are there after every run, and what else
is there SQL has needed. -/
theorem demand_keeps_registered [DecidableEq K] [api : CollationApi Q K] (laws : RegistryLaws Q K)
    (search : CollationLaws Q K) {q : Q} (hq : ∀ k : K, api.entry q k = none)
    {needed : Option (CollationHandler F U)} (hneeded : ∀ fn, needed = some fn → ∀ conn name,
      (fn conn name).Asks fun e => e.key (Q := Q) K = api.collationKey (Q := Q) name)
    (conn : Nat) {start : CallbackState (Registrar Q F U)} {u : U}
    (hstart : start.user = .fresh q u) (hhandler : start.handler.Asks K fun _ => False)
    (es : List (RegistrarEvent F)) (k : K) :
    let m := RegistrarEvent.machine K needed conn
    let there := targetAt K (run m.next start es).user.registry k
    let own := run (OwnRegistrations.next K Q) ⟨fun _ => none, []⟩ (m.history start es)
    (∀ target, own.targets k = some target → there = some target) ∧
      (own.targets k = none → there ≠ none →
        ∃ name ∈ own.asked, k = api.collationKey (Q := Q) name) := by
  intro m there own
  have hbegin : KeepsOwn K start start ⟨fun _ => none, []⟩ := by
    have hnone : ∀ k : K, targetAt K start.user.registry k = none := by
      intro k
      have hentry : api.entry (RegistryWorld.fresh q : RegistryWorld Q F).sqlite k = none := hq k
      rw [hstart, Registrar.fresh, targetAt, hentry, Option.bind_none]
    constructor
    · rw [hstart]
      exact registrySound_fresh hq
    · rw [hstart]
      exact entriesHaveTargets_fresh hq
    · rfl
    · intro k target h
      cases h
    · intro k target h
      cases (hnone k).symm.trans h
  have hstep : ∀ s t e, KeepsOwn K start s t →
      KeepsOwn K start (m.next s e) (t.next K Q (e, (m s e).1)) := by
    intro s t e h
    cases e with
    | call c => exact h.call laws c
    | needs name =>
      have hfinal := (locateCollation_ends (K := K) needed conn name s).final
      have hnext : m.next s (.needs name) = located K needed conn name s := hfinal
      rw [hnext]
      exact h.needs laws search (fun fn hfn => hneeded fn hfn conn name) hhandler
  have hrun : KeepsOwn K start (run m.next start es) own := Machine.follows_run hstep hbegin es
  refine ⟨hrun.own k, fun hnone hthere => ?_⟩
  obtain ⟨target, htarget⟩ := Option.ne_none_iff_exists'.mp hthere
  exact hrun.other k target htarget hnone

/-- The program replaces what was created on demand. -/
theorem demand_keeps_registered_replaced :
    let b : CStr := ⟨[98], by decide, by decide⟩
    let start : CallbackState (Registrar EntryTable Nat Nat) := ⟨.fresh ∅ 0, .default, []⟩
    let es : List (RegistrarEvent Nat) :=
      [.needs b, .call (.createCollation b (.callable 3 none)), .needs b]
    let s := run (RegistrarEvent.machine (CStr × Option Int) (some createsSeven) 5).next start es
    targetAt (CStr × Option Int) s.user.registry (b, none) = some (.collation (.object 3)) := by
  intro b start es s
  have hneeded : ∀ fn, some createsSeven = some fn → ∀ conn name,
      (fn conn name).Asks fun e => e.key (Q := EntryTable) (CStr × Option Int) = (name, none) := by
    rintro fn ⟨⟩ conn name u
    exact ⟨rfl, fun _ => trivial⟩
  have hhandler : start.handler.Asks (CStr × Option Int) fun _ => False := fun fn h => by cases h
  have hkeeps := demand_keeps_registered EntryTable.registryLaws EntryTable.collationLaws
    (q := (∅ : EntryTable)) (fun _ => rfl) hneeded 5 rfl hhandler es (b, none)
  exact hkeeps.1 (.collation (.object 3)) (by with_unfolding_all rfl)

end Sqxx
