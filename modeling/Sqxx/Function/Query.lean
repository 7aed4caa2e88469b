import Sqxx.Function.Registry
import Sqxx.Sqlite.Calls
import Sqxx.Statement.Bindings

/-!
# A function, registered, called and read

The whole way of a call: parameters are bound, the statement calls the function that is registered
under the name, its values are converted to the types of the parameters, the callable runs, and
what it returns, or throws, comes back as the column of a row, or as the error of the step.
-/

namespace Sqxx
open Framework

def DbValue.type : DbValue → DbType
  | .int _ => .int
  | .int64 _ => .int64
  | .double _ => .double
  | .charPtr _ => .charPtr
  | .string _ => .string
  | .blob _ => .blob

/-- What was read is the value: a pointer points at its text, a blob has its bytes, and a NaN has
become zero. -/
def ReadResult.Carries : ReadResult → DbValue → Prop
  | .int v, .int w => v = w
  | .int64 v, .int64 w => v = w
  | .double v, .double w => v = w.readBack
  | .charPtr none, .charPtr none => True
  | .charPtr (some p), .charPtr (some s) => PointsTo p s.bytes
  | .string v, .string w => v = w
  | .blob v, .blob w => v.Holds w.bytes
  | _, _ => False

namespace SqlResult

variable {C : Type} [api : ErrorResultApi C]

def deliver : SqlResult DbValue → Cxx C Unit
  | .value v => v.result true
  | .errorCode code => Prog.perform (api.resultErrorCode · code)
  | .errorNomem => Prog.perform api.resultErrorNomem
  | .errorText msg => Prog.perform (api.resultError · msg)

end SqlResult

def answer {A C : Type} [api : ErrorResultApi C] (c : C) (trace : List (Effect A DbValue)) :
    Except Int SqlValue :=
  api.returned ((results trace).foldl (fun c r => (r.deliver c).final) c)

/-- The code by which SQL knows an exception. -/
def Exn.code : Exn → Int
  | .error code _ => code
  | .badAlloc => SQLITE_NOMEM
  | .stdException _ => SQLITE_ERROR
  | .other _ => SQLITE_MISUSE

def sqlOutcome (limit : Nat) : Except Exn DbValue → Except Int SqlValue
  | .ok d => limited limit d.size d.toSql
  | .error e => .error e.code

section Answers

variable {A C : Type} [api : ErrorResultApi C] {c : C} {limit : Nat}

private theorem result_returned (laws : ResultLaws c limit) (d : DbValue) :
    api.returned (d.result true c).final = limited limit d.size d.toSql := by
  cases d with
  | int v =>
    rw [limited, DbValue.size, if_pos (Nat.zero_le limit)]
    exact laws.int v
  | int64 v =>
    rw [limited, DbValue.size, if_pos (Nat.zero_le limit)]
    exact laws.int64 v
  | double v =>
    rw [limited, DbValue.size, if_pos (Nat.zero_le limit)]
    exact laws.double v
  | charPtr v =>
    cases v with
    | none =>
      rw [limited, DbValue.size, if_pos (Nat.zero_le limit)]
      exact laws.null
    | some s =>
      have htext := laws.text s.pointer (strlen s) .transient
      rw [strlen_toNat, CStr.pointer, readMem_memoryOf] at htext
      exact htext
  | string v =>
    have htext := laws.text v.pointer v.length .transient
    rw [StdString.length_toNat, StdString.pointer, readMem_memoryOf] at htext
    exact htext
  | blob v =>
    obtain ⟨data, length⟩ := v
    rw [DbValue.size, Blob.bytes_length]
    cases data with
    | some p => exact laws.blob p length .transient
    | none => exact laws.zeroblob length

theorem deliver_returned (laws : ResultLaws c limit) {o : Except Exn DbValue}
    (ho : ∀ e, o = .error e → e.code ≠ SQLITE_OK) :
    api.returned ((SqlResult.ofOutcome o).deliver c).final = sqlOutcome limit o := by
  rcases o with e | d
  · cases e with
    | error code what => exact laws.errorCode code (ho _ rfl)
    | badAlloc => exact laws.errorNomem
    | stdException what => exact laws.error what
    | other tag => exact laws.errorCode SQLITE_MISUSE (by decide)
  · exact result_returned laws d

private theorem answer_of_meets {V : Type} {n : Nat} {f : Callable V A DbValue n}
    (laws : ResultLaws c limit) {argv : List.Vector V n} {trace : List (Effect A DbValue)}
    (hmeets : DispatchMeets f argv.toList trace) {args : List.Vector A n}
    (hargs : ∀ i, f.convert i (argv.get i) = .ok (args.get i))
    (hcode : ∀ e, f.body args = .error e → e.code ≠ SQLITE_OK) :
    answer c trace = sqlOutcome limit (f.body args) := by
  obtain ⟨-, hresults⟩ := hmeets.called argv.toList_length args hargs
  rw [answer, hresults]
  exact deliver_returned laws hcode

end Answers

section Arguments

variable {V : Type} [api : ValueApi V SqlValue] {limit : Nat}

private theorem valString_ends (laws : ValueLaws V limit) {v : V} {s : StdString}
    (hv : api.held v = .text s.bytes) (hsize : s.bytes.length ≤ limit) :
    (Value.valString v).outcome = .ok s := by
  obtain ⟨⟨p, htext, hp⟩, hkept⟩ := laws.text v s.bytes hv hsize
  have hbytes := laws.text_bytes _ _ hkept hsize
  have hread : Prog.Ends (Value.valString : Cxx V StdString) v
      (stdString (api.valueText v).1 (api.valueBytes (api.valueText v).2).1)
      (api.valueBytes (api.valueText v).2).2 := by
    apply (Prog.Ends.effect _ v).bind
    apply (Prog.Ends.effect _ _).bind
    exact liftExcept_ends _ _
  rw [hread.outcome, htext]
  exact stdString_of_pointsTo hp hbytes

private theorem convert_carries (laws : ValueLaws V limit) {v : V} {d : DbValue}
    (hv : api.held v = d.toSql) (hsize : d.size ≤ limit) :
    ∃ r, (Value.convert d.type v).outcome = .ok r ∧ r.Carries d := by
  cases d with
  | int w =>
    refine ⟨.int (api.valueInt v).1, rfl, ?_⟩
    have hint := laws.int v _ hv
    rwa [Int32.toInt32_toInt64] at hint
  | int64 w => exact ⟨.int64 (api.valueInt64 v).1, rfl, laws.int64 v w hv⟩
  | double w =>
    refine ⟨.double (api.valueDouble v).1, rfl, ?_⟩
    rw [DbValue.toSql, SqlValue.ofDouble] at hv
    rw [ReadResult.Carries, Double.readBack]
    by_cases hnan : w.isNaN
    · rw [if_pos hnan] at hv ⊢
      exact laws.double_null v hv
    · rw [if_neg hnan] at hv ⊢
      exact laws.double v w hv
  | charPtr w =>
    refine ⟨.charPtr (api.valueText v).1, rfl, ?_⟩
    cases w with
    | none =>
      rw [laws.text_null v hv]
      trivial
    | some s =>
      obtain ⟨⟨p, htext, hp⟩, -⟩ := laws.text v s.bytes hv hsize
      rw [htext]
      exact hp
  | string w =>
    refine ⟨.string w, ?_, rfl⟩
    have hread : Prog.Ends (Value.valString : Cxx V StdString) v (.ok w)
        (Value.valString v).final := ⟨valString_ends laws hv hsize, rfl⟩
    have hpure := Prog.Ends.pure (ε := Raised) (ReadResult.string w) (Value.valString v).final
    exact (hread.bind hpure).outcome
  | blob w =>
    obtain ⟨hdata, hkept⟩ := laws.blob v w.bytes hv hsize
    have hbytes := laws.blob_bytes _ _ hkept hsize
    exact ⟨.blob (blob (api.valueBlob v).1 (api.valueBytes (api.valueBlob v).2).1), rfl,
      blob_holds hbytes hdata⟩

end Arguments

namespace Callable

variable {V : Type} [ValueApi V SqlValue] {n : Nat}

/-- The parameters of the callable have the types `tys`: each is a `value` converted to its own. -/
def Takes (f : Callable V ReadResult DbValue n) (tys : Fin n → DbType) : Prop :=
  ∀ i v r, (Value.convert (tys i) v).outcome = .ok r → f.convert i v = .ok r

omit [ValueApi V SqlValue] in
/-- What the callable does depends on the values of its arguments alone, and is `g`. -/
def Computes (f : Callable V ReadResult DbValue n)
    (g : List.Vector DbValue n → Except Exn DbValue) : Prop :=
  ∀ (args : List.Vector ReadResult n) ds, (∀ i, (args.get i).Carries (ds.get i)) →
    f.body args = g ds

theorem convert_args {limit : Nat} (laws : ValueLaws V limit) {f : Callable V ReadResult DbValue n}
    {ds : List.Vector DbValue n} (htakes : f.Takes fun i => (ds.get i).type)
    (hsize : ∀ i, (ds.get i).size ≤ limit) {argv : List.Vector V n}
    (hheld : ∀ i, ValueApi.held (argv.get i) = (ds.get i).toSql) :
    ∃ args : List.Vector ReadResult n, (∀ i, f.convert i (argv.get i) = .ok (args.get i)) ∧
      ∀ i, (args.get i).Carries (ds.get i) := by
  choose r hr hcarries using fun i => convert_carries laws (hheld i) (hsize i)
  refine ⟨List.Vector.ofFn r, ?_, ?_⟩
  · intro i
    rw [List.Vector.get_ofFn]
    exact htakes i (argv.get i) (r i) (hr i)
  · intro i
    rw [List.Vector.get_ofFn]
    exact hcarries i

end Callable

section Executions

variable {T V C Q K F : Type} [ParamApi T] [StepApi T] [ColumnApi T] [ValueApi V SqlValue]
  [ErrorResultApi C] [DecidableEq K] [api : RegistryApi Q K]
  (code : Nat → (n : Nat) × Callable V ReadResult DbValue n)
  (scalarOf : F → Option ((n : Nat) × Callable V ReadResult DbValue n))

omit [DecidableEq K] in
/-- What SQL gets for a call of the name; one that is not there is an error. -/
def sqlReply (c : C) (w : RegistryWorld Q F) (order : (n : Nat) → EvalOrder n) (name : CStr)
    (argv : List V) : Except Int SqlValue :=
  ((callFunction code scalarOf K w order name argv).map fun r => answer c r.2).getD
    (.error SQLITE_ERROR)

omit [ParamApi T] in
/-- The execution owes what the callable did: a row that reads as the value, if that is within the
limit, and the error of the exception otherwise. -/
def Delivers (limit : Nat) (c : Int32) (row : Exec (Statement T) Raised Unit) :
    Except Exn DbValue → Prop
  | .ok d =>
    if d.size ≤ limit then
      row.outcome = .ok () ∧ OnRow row.final.calls ∧ d.ReadAt c row.final
    else row.outcome = .error (.exception (staticError SQLITE_TOOBIG))
  | .error e => row.outcome = .error (.exception (staticError e.code))

omit [ParamApi T] in
theorem delivers_of_answers {limit : Nat} (hcol : ColumnLaws T limit) {st : Statement T}
    {c : Int32} {o : Except Exn DbValue} (hcode : ∀ e, o = .error e → IsErrorCode e.code)
    (hanswers : StepAnswers st.handle c (sqlOutcome limit o)) :
    Delivers limit c (Statement.step st) o := by
  obtain ⟨hout, hfin⟩ := Statement.step_run st
  have hthrows : ∀ rv, IsErrorCode rv → (StepApi.step st.handle).1 = rv →
      (Statement.step st).outcome = .error (.exception (staticError rv)) := by
    rintro rv ⟨-, -, hrow, hdone⟩ hrv
    rw [hout, hrv, if_neg (not_or.mpr ⟨hrow, hdone⟩)]
  rcases o with e | d
  · exact hthrows e.code (hcode e rfl) (hanswers (hcode e rfl))
  · rw [Delivers]
    rw [sqlOutcome, limited] at hanswers
    by_cases hsize : d.size ≤ limit
    · rw [if_pos hsize] at hanswers ⊢
      obtain ⟨hrow, hcolumn⟩ := hanswers
      refine ⟨by rw [hout, if_pos (Or.inl hrow)], ?_, ?_⟩
      · rw [hfin]
        exact hrow
      · rw [hfin]
        exact DbValue.readAt_of_column hcol hcolumn hsize
    · rw [if_neg hsize] at hanswers ⊢
      exact hthrows SQLITE_TOOBIG (by decide) (hanswers (by decide))

private theorem sqlReply_of_last {limit : Nat} (hvalues : ValueLaws V limit) {c : C}
    (hresults : ResultLaws c limit) (laws : RegistryLaws Q K) {q : Q}
    (hq : ∀ k : K, api.entry q k = none) (es : List (RegistryEvent F))
    (order : (n : Nat) → EvalOrder n) (name : CStr) {n : Nat} {callee : Callee F}
    {f : Callable V ReadResult DbValue n}
    (hlast : lastTarget q es (api.functionKey (Q := Q) name n) = some (.scalar callee))
    (hf : callee.callable code scalarOf = some ⟨n, f⟩) {ds : List.Vector DbValue n}
    (htakes : f.Takes fun i => (ds.get i).type) {g : List.Vector DbValue n → Except Exn DbValue}
    (hcomputes : f.Computes g) (hcode : ∀ e, g ds = .error e → e.code ≠ SQLITE_OK)
    (hsize : ∀ i, (ds.get i).size ≤ limit) {argv : List.Vector V n}
    (hheld : ∀ i, ValueApi.held (argv.get i) = (ds.get i).toSql) :
    sqlReply (K := K) code scalarOf c (run (RegistryEvent.exec K) (.fresh q) es) order name
      argv.toList = sqlOutcome limit (g ds) := by
  have hlast' := hlast
  rw [← argv.toList_length] at hlast'
  obtain ⟨trace, hcall, hmeets⟩ :=
    callFunction_of_last code scalarOf laws hq es order name argv.toList hlast' hf
  obtain ⟨args, hargs, hcarries⟩ := f.convert_args hvalues htakes hsize hheld
  have hbody := hcomputes args ds hcarries
  rw [sqlReply, hcall, Option.map_some, Option.getD_some, ← hbody]
  apply answer_of_meets hresults hmeets hargs
  intro e he
  exact hcode e (hbody.symm.trans he)

/-- After any registrations and removals and any calls on a statement that selects a call of the
name, the next execution delivers what the callable registered last computes of the values bound
last: the row reads as what it returned, or the step throws the error for what it threw. -/
theorem query_delivers_call {limit : Nat} {names : CStr → Int32} (hvalues : ValueLaws V limit)
    {ctx : C} (hresults : ResultLaws ctx limit) (hcol : ColumnLaws T limit)
    (params : ParamStores T) (hkeeps : KeepsParams T names limit) (laws : RegistryLaws Q K) {q : Q}
    (hq : ∀ k : K, api.entry q k = none) (es : List (RegistryEvent F))
    (order : (n : Nat) → EvalOrder n) (name : CStr) {n : Nat} {callee : Callee F}
    {f : Callable V ReadResult DbValue n}
    (hlast : lastTarget q es (api.functionKey (Q := Q) name n) = some (.scalar callee))
    (hf : callee.callable code scalarOf = some ⟨n, f⟩) {c : Int32}
    (hselects : SelectsCall T n c (sqlReply (K := K) code scalarOf ctx
      (run (RegistryEvent.exec K) (.fresh q) es) order name))
    {st : Statement T} {known : KnownParams} (hst : Knows limit st known)
    (binds : List BindingEvent) {ds : List.Vector DbValue n}
    (hbound : ∀ i : Fin n, run (BindingEvent.store names) known
      (BindingEvent.machine.history st binds) (Int32.ofNat (i + 1)) = some (ds.get i).toSql)
    (hfresh : ParamApi.stepped (run BindingEvent.machine.next st binds).handle = false)
    (htakes : f.Takes fun i => (ds.get i).type) {g : List.Vector DbValue n → Except Exn DbValue}
    (hcomputes : f.Computes g) (hcode : ∀ e, g ds = .error e → IsErrorCode e.code) :
    Delivers limit c (Statement.step (run BindingEvent.machine.next st binds)) (g ds) := by
  let st' := run BindingEvent.machine.next st binds
  have hknows : Knows limit st' (run (BindingEvent.store names) known
      (BindingEvent.machine.history st binds)) :=
    Machine.follows_run (fun _ _ e hst => hst.next params hkeeps e) hst binds
  have hslots : ∀ i : Fin n, BindApi.bound st'.handle (Int32.ofNat (i + 1)) =
      (ds.map DbValue.toSql).get i := by
    intro i
    rw [List.Vector.get_map]
    exact (hknows _ _ (hbound i)).1
  have hsize : ∀ i, (ds.get i).size ≤ limit := by
    intro i
    rw [← size_toSql]
    exact (hknows _ _ (hbound i)).2
  obtain ⟨argv, hheld, hanswers⟩ := hselects st'.handle (ds.map DbValue.toSql) hfresh hslots
  simp only [List.Vector.get_map] at hheld
  apply delivers_of_answers hcol hcode
  have hcode' : ∀ e, g ds = .error e → e.code ≠ SQLITE_OK :=
    fun e he => Int.ne_of_gt (hcode e he).1
  rwa [sqlReply_of_last code scalarOf hvalues hresults laws hq es order name hlast hf htakes
    hcomputes hcode' hsize hheld] at hanswers

end Executions

theorem SqlValue.valueLaws : ValueLaws SqlValue SQLITE_MAX_LENGTH := by
  constructor
  · rintro v n rfl
    rfl
  · rintro v n rfl
    rfl
  · rintro v d rfl
    rfl
  · rintro v rfl
    rfl
  · rintro v rfl
    rfl
  · rintro v bs rfl -
    exact ⟨⟨_, rfl, pointsTo_memoryOf bs⟩, rfl⟩
  · rintro v bs rfl hbs
    exact int32_length hbs
  · rintro v bs rfl -
    exact ⟨fun hne => ⟨_, if_neg hne, readMem_memoryOf bs⟩, rfl⟩
  · rintro v bs rfl hbs
    exact int32_length hbs

namespace FunctionContext

instance : ErrorResultApi FunctionContext where
  resultError _ _ := ⟨.error SQLITE_ERROR⟩
  resultErrorCode _ code := ⟨.error code⟩
  resultErrorNomem _ := ⟨.error SQLITE_NOMEM⟩

theorem resultLaws (c : FunctionContext) : ResultLaws c SQLITE_MAX_LENGTH := by
  have hset : ∀ v size, ResultApi.returned (set v size) = limited SQLITE_MAX_LENGTH size v := by
    intro v size
    rw [limited]
    by_cases hsize : size ≤ SQLITE_MAX_LENGTH
    · rw [if_pos hsize]
      exact congrArg FunctionContext.result (if_neg (Nat.not_lt.mpr hsize))
    · rw [if_neg hsize]
      exact congrArg FunctionContext.result (if_pos (Nat.not_le.mp hsize))
  constructor
  · exact hset .null 0
  · exact fun v => hset _ 0
  · exact fun v => hset _ 0
  · exact fun d => hset _ 0
  · exact fun p n d => hset _ _
  · exact fun p n d => hset _ _
  · exact fun n => hset _ _
  · exact fun msg => rfl
  · exact fun code _ => rfl
  · rfl

end FunctionContext

/-- The statement `select f(:a, ?)` of a library, for a function that answers `reply`. -/
def SelectCall (_reply : List SqlValue → Except Int SqlValue) := TwoParams

namespace SelectCall

variable {reply : List SqlValue → Except Int SqlValue}

instance : ParamApi (SelectCall reply) := inferInstanceAs (ParamApi TwoParams)

def called (reply : List SqlValue → Except Int SqlValue) (t : TwoParams) : Except Int SqlValue :=
  reply [t.slot 1, t.slot 2]

def evaluated (t : TwoParams) : Except Int SqlValue → Int × TwoParams
  | .ok _ => StepApi.step t
  | .error rv => (rv, { t with phase := .finished })

instance : StepApi (SelectCall reply) where
  step t := if TwoParams.phase t = .onRow then StepApi.step (T := TwoParams) t
    else evaluated t (called reply t)
  reset t := StepApi.reset (T := TwoParams) t
  clearBindings t := StepApi.clearBindings (T := TwoParams) t

instance : ColumnApi (SelectCall reply) :=
  ColumnApi.ofCells fun t _ => (called reply t).toOption.getD .null

theorem paramStores : ParamStores (SelectCall reply) := TwoParams.paramLaws.toParamStores

theorem keepsParams : KeepsParams (SelectCall reply) TwoParams.names SQLITE_MAX_LENGTH where
  names _ _ := rfl
  step t := by
    change TwoParams.slot (if TwoParams.phase t = .onRow then StepApi.step (T := TwoParams) t
      else evaluated t (called reply t)).2 = TwoParams.slot t
    split
    · exact TwoParams.keepsParams.step t
    · rcases called reply t with rv | x
      · rfl
      · exact TwoParams.keepsParams.step t
  reset _ := rfl
  cleared _ _ _ := rfl
  notCleared _ hno := absurd rfl hno
  limit := TwoParams.keepsParams.limit

private theorem selectsCall : SelectsCall (SelectCall reply) 2 0 reply := by
  intro t xs hfresh hbound
  have hready : TwoParams.phase t = .ready := not_not.mp (of_decide_eq_false hfresh)
  have hargs : called reply t = reply xs.toList := by
    have hlist : xs.toList = [xs.get 0, xs.get 1] := by
      rcases xs with ⟨_ | ⟨x, _ | ⟨y, _ | ⟨z, rest⟩⟩⟩, hlen⟩
      · cases hlen
      · cases hlen
      · rfl
      · cases hlen
    rw [hlist, ← hbound 0, ← hbound 1]
    rfl
  refine ⟨xs, fun _ => rfl, ?_⟩
  have hstep : StepApi.step t = evaluated t (reply xs.toList) := by
    rw [← hargs]
    exact if_neg (by rw [hready]; decide)
  have hrow : StepApi.step (T := TwoParams) t = (SQLITE_ROW, ⟨.onRow, TwoParams.slot t⟩) := by
    simp only [StepApi.step, hready]
  rcases hreply : reply xs.toList with rv | x
  · intro _
    rw [hstep, hreply]
    rfl
  · have hevaluated : evaluated t (.ok x) = StepApi.step (T := TwoParams) t := rfl
    rw [StepAnswers, hstep, hreply, hevaluated, hrow]
    refine ⟨rfl, ?_⟩
    change (called reply t).toOption.getD .null = x
    rw [hargs, hreply]
    rfl

end SelectCall

namespace Quotient

def int? : ReadResult → Option Int32
  | .int v => some v
  | _ => none

def dbInt? : DbValue → Option Int32
  | .int v => some v
  | _ => none

def quotient : Option Int32 → Option Int32 → Except Exn DbValue
  | some a, some b =>
    if b = 0 then .error (.stdException "division by zero") else .ok (.int (a / b))
  | _, _ => .error (.other 0)

def converted : Except Raised ReadResult → Except Exn ReadResult
  | .ok r => .ok r
  | .error _ => .error (.other 0)

def function : Callable SqlValue ReadResult DbValue 2 :=
  ⟨fun _ v => converted (Value.convert .int v).outcome,
    fun args => quotient (int? (args.get 0)) (int? (args.get 1))⟩

def callable : (n : Nat) × Callable SqlValue ReadResult DbValue n := ⟨2, function⟩

def value (ds : List.Vector DbValue 2) : Except Exn DbValue :=
  quotient (dbInt? (ds.get 0)) (dbInt? (ds.get 1))

theorem takes (ds : List.Vector DbValue 2) (hds : ∀ i, (ds.get i).type = .int) :
    function.Takes fun i => (ds.get i).type := by
  intro i v r hr
  have hint : (Value.convert (ds.get i).type v).outcome = .ok r := hr
  rw [hds i] at hint
  exact congrArg converted hint

theorem int?_of_carries {r : ReadResult} {d : DbValue} (h : r.Carries d) : int? r = dbInt? d := by
  cases r with
  | int v =>
    cases d with
    | int w => exact congrArg some h
    | _ => exact h.elim
  | charPtr p =>
    cases d with
    | int w => cases p <;> exact h.elim
    | _ => rfl
  | _ =>
    cases d with
    | int w => exact h.elim
    | _ => rfl

theorem computes : function.Computes value := by
  intro args ds hcarries
  change quotient (int? (args.get 0)) (int? (args.get 1)) = _
  rw [int?_of_carries (hcarries 0), int?_of_carries (hcarries 1)]
  rfl

private theorem value_of_ne {a b : Int32} (hb : b ≠ 0) :
    value ⟨[.int a, .int b], rfl⟩ = .ok (.int (a / b)) := if_neg hb

end Quotient

/-- `f` is replaced, the parameters of `select f(:a, ?)` are bound by name and by index: the row has
the quotient.  For a zero the function throws, and so does the step. -/
theorem query_delivers_call_quotient :
    let name : CStr := ⟨[102], by decide, by decide⟩
    let es : List (RegistryEvent ((n : Nat) × Callable SqlValue ReadResult DbValue n)) :=
      [.createFunction name 2 (.function 0),
        .createFunction name 2 (.callable Quotient.callable none)]
    let T := SelectCall (sqlReply (K := CStr × Option Int) (fun _ => Quotient.callable) some
      (⟨.ok .null⟩ : FunctionContext)
      (run (RegistryEvent.exec (CStr × Option Int)) (.fresh (∅ : EntryTable)) es)
      EvalOrder.leftToRight name)
    let st : Statement T := Statement.prepared TwoParams.fresh
    let binds (b : Int32) : List BindingEvent :=
      [.bindByName TwoParams.nameA (.value (.int 42) true), .bind 1 (.value (.int b) true)]
    let row (b : Int32) := Statement.step (run BindingEvent.machine.next st (binds b))
    (DbValue.int 7).ReadAt 0 (row 6).final ∧
      (row 0).outcome = .error (.exception (staticError SQLITE_ERROR)) := by
  intro name es T st binds row
  have hst : Knows SQLITE_MAX_LENGTH st fun _ => none := fun _ _ h => by cases h
  have hdelivers : ∀ b, Delivers SQLITE_MAX_LENGTH 0 (row b)
      (Quotient.value ⟨[.int 42, .int b], rfl⟩) := by
    intro b
    have hbound : ∀ i : Fin 2, run (BindingEvent.store TwoParams.names) (fun _ => none)
        (BindingEvent.machine.history st (binds b)) (Int32.ofNat (i + 1)) =
          some (List.Vector.get ⟨[DbValue.int 42, .int b], rfl⟩ i).toSql :=
      Fin.forall_fin_two.mpr ⟨by with_unfolding_all rfl, by with_unfolding_all rfl⟩
    have hfresh : ParamApi.stepped (run BindingEvent.machine.next st (binds b)).handle = false := by
      with_unfolding_all rfl
    have hints : ∀ i : Fin 2, (List.Vector.get ⟨[DbValue.int 42, .int b], rfl⟩ i).type = .int :=
      Fin.forall_fin_two.mpr ⟨rfl, rfl⟩
    have hcode : ∀ e, Quotient.value ⟨[.int 42, .int b], rfl⟩ = .error e → IsErrorCode e.code := by
      intro e he
      by_cases hb : b = 0
      · subst hb
        cases he
        decide
      · rw [Quotient.value_of_ne hb] at he
        cases he
    exact query_delivers_call (fun _ => Quotient.callable) some SqlValue.valueLaws
      (FunctionContext.resultLaws _) (ColumnApi.ofCells_columnLaws _)
      SelectCall.paramStores SelectCall.keepsParams EntryTable.registryLaws (fun _ => rfl) es
      EvalOrder.leftToRight name rfl rfl SelectCall.selectsCall hst (binds b) hbound hfresh
      (Quotient.takes _ hints) Quotient.computes hcode
  have hseven : (42 / 6 : Int32) = 7 := by decide
  have hsize : (DbValue.int 7).size ≤ SQLITE_MAX_LENGTH := Nat.zero_le _
  have hsix := hdelivers 6
  rw [Quotient.value_of_ne (by decide), hseven, Delivers, if_pos hsize] at hsix
  exact ⟨hsix.2.2, hdelivers 0⟩

end Sqxx
