import Mathlib.Data.List.Basic

/-!
# Callable traits

Templates over types are functions on lists of types; one that has no definition for its arguments
gives nothing.  The traits of a callable are those of its function type, found through the type of
the callable or of its `operator()`.
-/

namespace Sqxx

variable {Ty : Type}

def packCount : List Ty → Nat
  | [] => 0
  | _ :: types => packCount types + 1

/-- Of an empty pack there is no definition. -/
def packN : Nat → List Ty → Option Ty
  | _, [] => none
  | 0, type :: _ => some type
  | n + 1, _ :: types => packN n types

structure ParameterPackTraits (Ty : Type) where
  count : Nat
  type : Nat → Option Ty

/-- `type<N>` is `pack_n<N>::type`: the pack is not passed on. -/
def parameterPackTraits (types : List Ty) : ParameterPackTraits Ty where
  count := packCount types
  type n := packN n []

structure FunctionType (Ty : Type) where
  ret : Ty
  args : List Ty
  deriving DecidableEq, Repr

structure CallableTraits (Ty : Type) where
  functionType : FunctionType Ty
  returnType : Ty
  argc : Nat
  argumentType : Nat → Option Ty

def callableTraitsFn (fn : FunctionType Ty) : CallableTraits Ty where
  functionType := fn
  returnType := fn.ret
  argc := (parameterPackTraits fn.args).count
  argumentType := (parameterPackTraits fn.args).type

/-- A type that can be called, short of references to it. `isConst` tells whether the type itself is
`const`; a class has one `operator()`, which may be `const` as well. -/
inductive CallableType (Ty : Type)
  | function (fn : FunctionType Ty)
  | pointer (isConst : Bool) (fn : FunctionType Ty)
  | functor (isConst : Bool) (constOperator : Bool) (fn : FunctionType Ty)
  | stdFunction (isConst : Bool) (fn : FunctionType Ty)
  | referenceWrapper (isConst : Bool) (callable : CallableType Ty)
  deriving DecidableEq, Repr

/-- The type of a member function: `Ret (Class::*)(Args...)`, `const` or not. -/
structure MemberFunctionType (Ty : Type) where
  isConst : Bool
  fn : FunctionType Ty

def callableTraitsMemfnp (memFun : MemberFunctionType Ty) : CallableTraits Ty :=
  match memFun.isConst with
  | false => callableTraitsFn memFun.fn
  | true => callableTraitsFn memFun.fn

namespace CallableType

/-- `decltype(&Callable::operator())`. The one of `std::reference_wrapper` is a template, which has
no address without arguments; functions and pointers have no members. -/
def callOperator : CallableType Ty → Option (MemberFunctionType Ty)
  | .functor _ constOperator fn => some ⟨constOperator, fn⟩
  | .stdFunction _ fn => some ⟨true, fn⟩
  | .function _ | .pointer _ _ | .referenceWrapper _ _ => none

/-- The specializations are for types that are not `const`; the others are classes with an
`operator()`. -/
def callableTraitsD : CallableType Ty → Option (CallableTraits Ty)
  | .referenceWrapper false callable => callable.callOperator.map callableTraitsMemfnp
  | .function fn => some (callableTraitsFn fn)
  | .pointer false fn => some (callableTraitsFn fn)
  | .stdFunction false fn => some (callableTraitsFn fn)
  | callable => callable.callOperator.map callableTraitsMemfnp

/-- What a call of it is a call of. -/
def functionType : CallableType Ty → FunctionType Ty
  | .function fn | .pointer _ fn | .functor _ _ fn | .stdFunction _ fn => fn
  | .referenceWrapper _ callable => callable.functionType

/-- A class with an `operator()` that is no template. -/
def HasCallOperator : CallableType Ty → Prop
  | .functor _ _ _ | .stdFunction _ _ => True
  | .function _ | .pointer _ _ | .referenceWrapper _ _ => False

/-- A wrapper is not `const` and is of a class with an `operator()`; a pointer is not `const`. -/
def Resolves : CallableType Ty → Prop
  | .function _ | .functor _ _ _ | .stdFunction _ _ => True
  | .pointer isConst _ => isConst = false
  | .referenceWrapper isConst callable => isConst = false ∧ callable.HasCallOperator

end CallableType

inductive Supplied (Ty : Type)
  | value (callable : CallableType Ty)
  | lvalueReference (callable : CallableType Ty)
  | rvalueReference (callable : CallableType Ty)
  deriving DecidableEq, Repr

def Supplied.removeReference : Supplied Ty → CallableType Ty
  | .value callable | .lvalueReference callable | .rvalueReference callable => callable

def callableTraits (supplied : Supplied Ty) : Option (CallableTraits Ty) :=
  supplied.removeReference.callableTraitsD

/-- The traits have the number of the parameters. -/
def ReportsArgc (traits : Option (CallableTraits Ty)) (args : List Ty) : Prop :=
  ∃ t, traits = some t ∧ t.argc = args.length

/-- They have the type of the parameter at every position. -/
def ReportsArgumentTypes (traits : Option (CallableTraits Ty)) (args : List Ty) : Prop :=
  ∃ t, traits = some t ∧ ∀ n (h : n < args.length), t.argumentType n = some args[n]

private theorem packCount_eq_length (types : List Ty) : packCount types = types.length := by
  induction types with
  | nil => rfl
  | cons type types ih => rw [packCount, ih, List.length_cons]

private theorem packN_eq_getElem? (n : Nat) (types : List Ty) : packN n types = types[n]? := by
  induction types generalizing n with
  | nil => cases n <;> rfl
  | cons type types ih =>
    cases n with
    | zero => rfl
    | succ n => rw [packN, ih, List.getElem?_cons_succ]

private theorem parameterPackTraits_type (types : List Ty) (n : Nat) :
    (parameterPackTraits types).type n = none :=
  packN_eq_getElem? n []

private theorem callableTraitsMemfnp_eq (memFun : MemberFunctionType Ty) :
    callableTraitsMemfnp memFun = callableTraitsFn memFun.fn := by
  rcases memFun with ⟨isConst, fn⟩
  cases isConst with
  | false => rfl
  | true => rfl

namespace CallableType

private theorem callOperator_fn {callable : CallableType Ty} (h : callable.HasCallOperator) :
    ∃ isConst, callable.callOperator = some ⟨isConst, callable.functionType⟩ := by
  cases callable with
  | functor isConst constOperator fn => exact ⟨constOperator, rfl⟩
  | stdFunction isConst fn => exact ⟨true, rfl⟩
  | function fn | pointer isConst fn | referenceWrapper isConst callable => exact h.elim

private theorem callOperator_eq_none {callable : CallableType Ty} (h : ¬ callable.HasCallOperator) :
    callable.callOperator = none := by
  cases callable with
  | functor isConst constOperator fn | stdFunction isConst fn => exact (h trivial).elim
  | function fn | pointer isConst fn | referenceWrapper isConst callable => rfl

/-- Whatever the way, the traits are those of the function type. -/
theorem callableTraitsD_of_resolves {callable : CallableType Ty} (h : callable.Resolves) :
    callable.callableTraitsD = some (callableTraitsFn callable.functionType) := by
  cases callable with
  | function fn => rfl
  | pointer isConst fn =>
    cases h
    rfl
  | functor isConst constOperator fn =>
    change some (callableTraitsMemfnp ⟨constOperator, fn⟩) = _
    rw [callableTraitsMemfnp_eq, functionType]
  | stdFunction isConst fn =>
    cases isConst with
    | false => rfl
    | true =>
      change some (callableTraitsMemfnp ⟨true, fn⟩) = _
      rw [callableTraitsMemfnp_eq, functionType]
  | referenceWrapper isConst callable =>
    obtain ⟨rfl, hoperator⟩ := h
    obtain ⟨constOperator, hfn⟩ := callOperator_fn hoperator
    rw [callableTraitsD, hfn, Option.map_some, callableTraitsMemfnp_eq, functionType]

private theorem callableTraitsD_eq_none {callable : CallableType Ty} (h : ¬ callable.Resolves) :
    callable.callableTraitsD = none := by
  cases callable with
  | function fn | functor isConst constOperator fn | stdFunction isConst fn =>
    exact (h trivial).elim
  | pointer isConst fn =>
    cases isConst with
    | false => exact (h rfl).elim
    | true => rfl
  | referenceWrapper isConst callable =>
    cases isConst with
    | false =>
      have hoperator : ¬ callable.HasCallOperator := fun hoperator => h ⟨rfl, hoperator⟩
      rw [callableTraitsD, callOperator_eq_none hoperator, Option.map_none]
    | true => rfl

end CallableType

theorem reportsArgc_iff (supplied : Supplied Ty) :
    ReportsArgc (callableTraits supplied) supplied.removeReference.functionType.args ↔
      supplied.removeReference.Resolves := by
  constructor
  · rintro ⟨t, ht, -⟩
    by_contra hno
    rw [callableTraits, CallableType.callableTraitsD_eq_none hno] at ht
    cases ht
  · intro h
    exact ⟨_, CallableType.callableTraitsD_of_resolves h, packCount_eq_length _⟩

/-- No position has a type, so that the types are those of the parameters only where there are no
parameters. -/
theorem reportsArgumentTypes_iff (supplied : Supplied Ty) :
    ReportsArgumentTypes (callableTraits supplied) supplied.removeReference.functionType.args ↔
      supplied.removeReference.Resolves ∧
        supplied.removeReference.functionType.args = [] := by
  constructor
  · rintro ⟨t, ht, htypes⟩
    have hresolves : supplied.removeReference.Resolves := by
      by_contra hno
      rw [callableTraits, CallableType.callableTraitsD_eq_none hno] at ht
      cases ht
    rw [callableTraits, CallableType.callableTraitsD_of_resolves hresolves, Option.some.injEq] at ht
    refine ⟨hresolves, ?_⟩
    by_contra hargs
    have hfirst := htypes 0 (List.length_pos_of_ne_nil hargs)
    have hnone : t.argumentType 0 = none := by
      rw [← ht]
      exact parameterPackTraits_type supplied.removeReference.functionType.args 0
    rw [hnone] at hfirst
    cases hfirst
  · rintro ⟨hresolves, hargs⟩
    refine ⟨_, CallableType.callableTraitsD_of_resolves hresolves, ?_⟩
    intro n hn
    rw [hargs] at hn
    exact absurd hn (Nat.not_lt_zero n)

/-- For every parameter list and way to supply the callable: the number of the parameters is there
wherever the traits are defined, the types of the parameters where moreover there are none. -/
theorem callableTraits_iff (supplied : Supplied Ty) :
    let callable := supplied.removeReference
    let args := callable.functionType.args
    (ReportsArgc (callableTraits supplied) args ↔ callable.Resolves) ∧
      (ReportsArgc (callableTraits supplied) args ∧
          ReportsArgumentTypes (callableTraits supplied) args ↔ callable.Resolves ∧ args = []) := by
  intro callable args
  refine ⟨reportsArgc_iff supplied, ?_⟩
  rw [reportsArgc_iff, reportsArgumentTypes_iff]
  constructor
  · rintro ⟨-, hboth⟩
    exact hboth
  · rintro ⟨hresolves, hargs⟩
    exact ⟨hresolves, hresolves, hargs⟩

/-- `void (int)`: one parameter is counted, and its type is not there. Of a wrapper of the function
there are no traits. -/
theorem callableTraits_drops_types :
    let fn : FunctionType String := ⟨"void", ["int"]⟩
    let supplied : Supplied String := .value (.function fn)
    (callableTraits supplied).map CallableTraits.argc = some 1 ∧
      ((callableTraits supplied).bind fun t => t.argumentType 0) = none ∧
      ¬ ReportsArgumentTypes (callableTraits supplied) fn.args ∧
      (callableTraits (.value (.referenceWrapper false (.function fn)))).isNone := by
  intro fn supplied
  refine ⟨rfl, rfl, ?_, rfl⟩
  intro htypes
  obtain ⟨-, hargs⟩ := (reportsArgumentTypes_iff supplied).mp htypes
  cases hargs

end Sqxx
