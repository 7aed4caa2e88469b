import Sqxx.Error
import Mathlib.Data.List.FinRange
import Mathlib.Data.Vector.Basic

/-!
# Callbacks for SQL functions

What the scalar and the aggregate callbacks share: the results a context takes, the translation of
exceptions into them, and the recursion that turns an array of values into an argument list.  One
callback runs on a world of its own and leaves a trace of what can be observed of it.
-/

namespace Sqxx
open Framework

inductive SqlResult (R : Type)
  | value (r : R)
  | errorCode (code : Int)
  | errorNomem
  | errorText (msg : String)
  deriving DecidableEq, Repr

inductive Effect (A R : Type)
  | read (i : Nat)
  | convert (i : Nat)
  | call (args : List A)
  | result (r : SqlResult R)
  deriving DecidableEq, Repr

structure Invocation (W A R : Type) where
  world : W
  trace : List (Effect A R)

variable {W V A R B : Type} {n : Nat}

def Invocation.noting (s : Invocation W A R) (es : List (Effect A R)) : Invocation W A R :=
  { s with trace := s.trace ++ es }

def note (e : Effect A R) : Cxx (Invocation W A R) Unit := Prog.perform fun s => s.noting [e]

namespace Context

def result (r : R) : Cxx (Invocation W A R) Unit := note (.result (.value r))

def resultErrorCode (code : Int) : Cxx (Invocation W A R) Unit := note (.result (.errorCode code))

def resultErrorNomem : Cxx (Invocation W A R) Unit := note (.result .errorNomem)

def resultError (msg : String) : Cxx (Invocation W A R) Unit := note (.result (.errorText msg))

def resultErrorMisuse : Cxx (Invocation W A R) Unit := resultErrorCode SQLITE_MISUSE

end Context

/-- The four `catch` clauses at the end of every callback. -/
def catchToResult (body : Cxx (Invocation W A R) Unit) : Cxx (Invocation W A R) Unit :=
  Cxx.tryCatch body fun
    | .error code _ => Context.resultErrorCode code
    | .badAlloc => Context.resultErrorNomem
    | .stdException what => Context.resultError what
    | .other _ => Context.resultErrorMisuse

def SqlResult.ofExn : Exn → SqlResult R
  | .error code _ => .errorCode code
  | .badAlloc => .errorNomem
  | .stdException what => .errorText what
  | .other _ => .errorCode SQLITE_MISUSE

def readArgv (argv : List V) (i : Nat) : Cxx (Invocation W A R) V :=
  match argv[i]? with
  | some v => do
    note (.read i)
    pure v
  | none => Cxx.undefined

/-- `apply_value_array_st<I, n>`, with `remaining` instantiations to go. Base arguments come before
the values; `f` has them already. -/
def applyValueArraySt (f : List.Vector V n → Cxx (Invocation W A R) B) (argv : List V) :
    (remaining I : Nat) → I + remaining = n → List.Vector V I → Cxx (Invocation W A R) B
  | 0, _, h, args => f ⟨args.1, by rw [args.2]; exact h⟩
  | remaining + 1, I, h, args => do
    let v ← readArgv argv I
    applyValueArraySt f argv remaining (I + 1) (by omega) ⟨args.1 ++ [v], by simp [args.2]⟩

def applyValueArray (n : Nat) (f : List.Vector V n → Cxx (Invocation W A R) B) (argv : List V) :
    Cxx (Invocation W A R) B :=
  applyValueArraySt f argv n 0 (Nat.zero_add n) ⟨[], rfl⟩

/-- The order in which a compiler evaluates the arguments of a call: any, but each one once. -/
structure EvalOrder (n : Nat) where
  order : List (Fin n)
  nodup : order.Nodup
  complete : ∀ i, i ∈ order

def EvalOrder.leftToRight (n : Nat) : EvalOrder n :=
  ⟨List.finRange n, List.nodup_finRange n, List.mem_finRange⟩

def convertAll (convert : Fin n → V → Except Exn A) (vals : List.Vector V n) :
    (order : List (Fin n)) → Cxx (Invocation W A R) ((i : Fin n) → i ∈ order → A)
  | [] => pure fun _ h => absurd h List.not_mem_nil
  | j :: order => do
    note (.convert j)
    match convert j (vals.get j) with
    | .error e => Cxx.throw e
    | .ok a => do
      let rest ← convertAll convert vals order
      pure fun i h =>
        if hij : i = j then a else rest i ((List.mem_cons.mp h).resolve_left hij)

/-- `f(args...)`: the arguments are converted, then the body runs on them. -/
def invoke (order : EvalOrder n) (convert : Fin n → V → Except Exn A)
    (body : List.Vector A n → Cxx (Invocation W A R) B) (vals : List.Vector V n) :
    Cxx (Invocation W A R) B := do
  let converted ← convertAll convert vals order.order
  let args := List.Vector.ofFn fun i => converted i (order.complete i)
  note (.call args.toList)
  body args

def conversions (order : List (Fin n)) : List (Effect A R) := order.map fun i => .convert i.val

def reads (trace : List (Effect A R)) : List Nat :=
  trace.filterMap fun | .read i => some i | _ => none

def calls (trace : List (Effect A R)) : List (List A) :=
  trace.filterMap fun | .call args => some args | _ => none

def results (trace : List (Effect A R)) : List (SqlResult R) :=
  trace.filterMap fun | .result r => some r | _ => none

@[simp] theorem conversions_nil :
    (conversions ([] : List (Fin n)) : List (Effect A R)) = [] := rfl

private theorem conversions_cons (i : Fin n) (order : List (Fin n)) :
    (conversions (i :: order) : List (Effect A R)) = [.convert i.val] ++ conversions order := rfl

theorem reads_append (es fs : List (Effect A R)) : reads (es ++ fs) = reads es ++ reads fs :=
  List.filterMap_append

theorem calls_append (es fs : List (Effect A R)) : calls (es ++ fs) = calls es ++ calls fs :=
  List.filterMap_append

theorem results_append (es fs : List (Effect A R)) :
    results (es ++ fs) = results es ++ results fs :=
  List.filterMap_append

@[simp] theorem reads_map_read (is : List Nat) :
    reads (is.map .read : List (Effect A R)) = is := by
  simp [reads, List.filterMap_map]

@[simp] theorem calls_map_read (is : List Nat) :
    calls (is.map .read : List (Effect A R)) = [] := by
  simp [calls]

@[simp] theorem results_map_read (is : List Nat) :
    results (is.map .read : List (Effect A R)) = [] := by
  simp [results]

@[simp] theorem reads_conversions (order : List (Fin n)) :
    reads (conversions order : List (Effect A R)) = [] := by
  simp [reads, conversions]

@[simp] theorem calls_conversions (order : List (Fin n)) :
    calls (conversions order : List (Effect A R)) = [] := by
  simp [calls, conversions]

@[simp] theorem results_conversions (order : List (Fin n)) :
    results (conversions order : List (Effect A R)) = [] := by
  simp [results, conversions]

@[simp] theorem noting_nil (s : Invocation W A R) : s.noting [] = s := by
  simp [Invocation.noting]

@[simp] theorem noting_noting (s : Invocation W A R) (es fs : List (Effect A R)) :
    (s.noting es).noting fs = s.noting (es ++ fs) := by
  simp [Invocation.noting]

theorem note_ends (e : Effect A R) (s : Invocation W A R) :
    Prog.Ends (note e : Cxx (Invocation W A R) Unit) s (.ok ()) (s.noting [e]) :=
  Prog.Ends.perform _ s

/-- Nothing but undefined behaviour escapes the `catch` clauses. -/
theorem catchToResult_ends_ok {body : Cxx (Invocation W A R) Unit} {s t : Invocation W A R}
    (h : Prog.Ends body s (.ok ()) t) : Prog.Ends (catchToResult body) s (.ok ()) t :=
  Prog.Ends.catching_ok h

theorem catchToResult_ends_error {body : Cxx (Invocation W A R) Unit} {s t : Invocation W A R}
    {e : Exn} (h : Prog.Ends body s (.error (.exception e)) t) :
    Prog.Ends (catchToResult body) s (.ok ()) (t.noting [.result (.ofExn e)]) := by
  apply Prog.Ends.catching_error h
  cases e with
  | error code what => exact note_ends _ t
  | badAlloc => exact note_ends _ t
  | stdException what => exact note_ends _ t
  | other tag => exact note_ends _ t

theorem catchToResult_ends_undefined {body : Cxx (Invocation W A R) Unit} {s t : Invocation W A R}
    (h : Prog.Ends body s (.error .undefined) t) :
    Prog.Ends (catchToResult body) s (.error .undefined) t :=
  Cxx.tryCatch_undefined h _

private theorem readArgv_ends {argv : List V} {i : Nat} (hi : i < argv.length)
    (s : Invocation W A R) :
    Prog.Ends (readArgv argv i) s (.ok argv[i]) (s.noting [.read i]) := by
  rw [readArgv, List.getElem?_eq_getElem hi]
  exact (note_ends _ s).bind (Prog.Ends.pure _ _)

private theorem applyValueArraySt_ends {f : List.Vector V n → Cxx (Invocation W A R) B}
    {argv : List V}
    (hlen : argv.length = n) {remaining I : Nat} (h : I + remaining = n) (args : List.Vector V I)
    (hargs : args.1 = argv.take I) {s t : Invocation W A R} {o : Except Raised B}
    (hf : Prog.Ends (f ⟨argv, hlen⟩) (s.noting ((List.range' I remaining).map .read)) o t) :
    Prog.Ends (applyValueArraySt f argv remaining I h args) s o t := by
  induction remaining generalizing I s with
  | zero =>
    have hall : args.1 = argv := by
      rw [hargs, List.take_of_length_le (by omega)]
    rw [applyValueArraySt]
    simpa [hall] using hf
  | succ remaining ih =>
    have hI : I < argv.length := by omega
    rw [applyValueArraySt]
    apply (readArgv_ends hI s).bind
    apply ih
    · change args.1 ++ [argv[I]] = argv.take (I + 1)
      rw [List.take_add_one, List.getElem?_eq_getElem hI, hargs]
      rfl
    · rw [noting_noting]
      simpa [List.range'_succ] using hf

theorem applyValueArray_ends {f : List.Vector V n → Cxx (Invocation W A R) B} {argv : List V}
    (hlen : argv.length = n) {s t : Invocation W A R} {o : Except Raised B}
    (hf : Prog.Ends (f ⟨argv, hlen⟩) (s.noting ((List.range n).map .read)) o t) :
    Prog.Ends (applyValueArray n f argv) s o t := by
  apply applyValueArraySt_ends hlen
  · rfl
  · rwa [← List.range_eq_range']

private theorem convertAll_ends_ok {convert : Fin n → V → Except Exn A} {vals : List.Vector V n}
    {args : Fin n → A} {order : List (Fin n)}
    (hargs : ∀ i ∈ order, convert i (vals.get i) = .ok (args i)) (s : Invocation W A R) :
    Prog.Ends (convertAll convert vals order) s (.ok fun i _ => args i)
      (s.noting (conversions order)) := by
  induction order generalizing s with
  | nil =>
    have hnone : (fun (i : Fin n) (h : i ∈ []) => absurd h List.not_mem_nil)
        = fun i _ => args i := by
      funext i h
      cases h
    rw [convertAll, hnone, conversions_nil, noting_nil]
    exact Prog.Ends.pure _ s
  | cons j order ih =>
    obtain ⟨hj, horder⟩ := List.forall_mem_cons.mp hargs
    have hsame : (fun (i : Fin n) (_ : i ∈ j :: order) => if i = j then args j else args i)
        = fun i _ => args i := by
      funext i _
      by_cases hij : i = j
      · rw [if_pos hij, hij]
      · rw [if_neg hij]
    rw [convertAll]
    apply (note_ends _ s).bind
    rw [hj]
    apply (ih horder _).bind
    rw [noting_noting, conversions_cons]
    simp only [dite_eq_ite, hsame]
    exact Prog.Ends.pure _ _

private theorem convertAll_ends_error {convert : Fin n → V → Except Exn A} {vals : List.Vector V n}
    {done rest : List (Fin n)} {i : Fin n} {e : Exn}
    (hdone : ∀ j ∈ done, ∃ a, convert j (vals.get j) = .ok a)
    (hi : convert i (vals.get i) = .error e) (s : Invocation W A R) :
    Prog.Ends (convertAll convert vals (done ++ i :: rest)) s (.error (.exception e))
      (s.noting (conversions (done ++ [i]))) := by
  induction done generalizing s with
  | nil =>
    rw [List.nil_append, convertAll]
    apply (note_ends _ s).bind
    rw [hi]
    exact Prog.Ends.raise _ _
  | cons j done ih =>
    obtain ⟨⟨a, ha⟩, hrest⟩ := List.forall_mem_cons.mp hdone
    rw [List.cons_append, List.cons_append, convertAll]
    apply (note_ends _ s).bind
    rw [ha]
    have htail := ih hrest (s.noting [.convert j])
    rw [noting_noting, ← conversions_cons] at htail
    exact htail.bind_error

theorem exists_converted {convert : Fin n → V → Except Exn A} {vals : List.Vector V n}
    (h : ∀ i, ∃ a, convert i (vals.get i) = .ok a) :
    ∃ args : List.Vector A n, ∀ i, convert i (vals.get i) = .ok (args.get i) := by
  choose arg harg using h
  refine ⟨List.Vector.ofFn arg, ?_⟩
  intro i
  rw [harg i, List.Vector.get_ofFn]

private theorem conversions_cases (convert : Fin n → V → Except Exn A) (vals : List.Vector V n)
    (order : List (Fin n)) :
    (∀ i ∈ order, ∃ a, convert i (vals.get i) = .ok a) ∨
      ∃ (done rest : List (Fin n)) (i : Fin n) (e : Exn), order = done ++ i :: rest ∧
        (∀ j ∈ done, ∃ a, convert j (vals.get j) = .ok a) ∧
          convert i (vals.get i) = .error e := by
  induction order with
  | nil => exact Or.inl fun i hi => absurd hi List.not_mem_nil
  | cons j order ih =>
    rcases hj : convert j (vals.get j) with e | a
    · exact Or.inr ⟨[], order, j, e, rfl, fun i hi => absurd hi List.not_mem_nil, hj⟩
    · rcases ih with hall | ⟨done, rest, i, e, rfl, hdone, hi⟩
      · exact Or.inl (List.forall_mem_cons.mpr ⟨⟨a, hj⟩, hall⟩)
      · exact Or.inr ⟨j :: done, rest, i, e, rfl, List.forall_mem_cons.mpr ⟨⟨a, hj⟩, hdone⟩, hi⟩

theorem converted_or_throws (convert : Fin n → V → Except Exn A) (vals : List.Vector V n)
    (order : EvalOrder n) :
    (∃ args : List.Vector A n, ∀ i, convert i (vals.get i) = .ok (args.get i)) ∨
      ∃ (done rest : List (Fin n)) (i : Fin n) (e : Exn), order.order = done ++ i :: rest ∧
        (∀ j ∈ done, ∃ a, convert j (vals.get j) = .ok a) ∧
          convert i (vals.get i) = .error e := by
  apply (conversions_cases convert vals order.order).imp_left
  intro hall
  exact exists_converted fun i => hall i (order.complete i)

theorem invoke_ends_ok (order : EvalOrder n) {convert : Fin n → V → Except Exn A}
    {body : List.Vector A n → Cxx (Invocation W A R) B} {vals : List.Vector V n}
    {args : List.Vector A n} (hargs : ∀ i, convert i (vals.get i) = .ok (args.get i))
    {s t : Invocation W A R} {o : Except Raised B}
    (hbody : Prog.Ends (body args)
      (s.noting (conversions order.order ++ [.call args.toList])) o t) :
    Prog.Ends (invoke order convert body vals) s o t := by
  have hconvert : ∀ i ∈ order.order, convert i (vals.get i) = .ok (args.get i) :=
    fun i _ => hargs i
  apply (convertAll_ends_ok hconvert s).bind
  have hofFn : (List.Vector.ofFn fun i => args.get i) = args := List.Vector.ofFn_get args
  simp only [hofFn]
  apply (note_ends _ _).bind
  rwa [noting_noting]

theorem invoke_ends_error (order : EvalOrder n) {convert : Fin n → V → Except Exn A}
    {body : List.Vector A n → Cxx (Invocation W A R) B} {vals : List.Vector V n}
    {done rest : List (Fin n)} {i : Fin n} {e : Exn} (horder : order.order = done ++ i :: rest)
    (hdone : ∀ j ∈ done, ∃ a, convert j (vals.get j) = .ok a)
    (hi : convert i (vals.get i) = .error e) (s : Invocation W A R) :
    Prog.Ends (invoke order convert body vals) s (.error (.exception e))
      (s.noting (conversions (done ++ [i]))) := by
  apply Prog.Ends.bind_error
  rw [horder]
  exact convertAll_ends_error hdone hi s

end Sqxx
