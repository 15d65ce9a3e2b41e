import StaticWrap.Types.Access
/-!
**The access check answers which types a package can write.**

What the package at `importer` can write, in a function whose type parameters are `own`, said
without the check:

* `GoType.parts`: the parts of a type the check visits; the underlying type of a named type or
  alias is never one.
* `LocallyWritable`: what a type asks by itself, of its object, type parameter, struct fields
  and interface methods.
* `Writable`: every type reached through parts is locally writable.

Then:

* `typeBarrier_eq_none_iff_writable`: a type has no first barrier exactly when it is writable.
* `checkType_answers`: the check as it runs answers the first barrier, whatever types it met
  before, as long as each of them passed or is larger than the type checked: a type is marked
  before its parts are checked, and a part is smaller than the type, so the types met never
  hide a barrier.
* `signature_check_passes_iff_writable`: the check of a function answers its first barrier,
  and passes exactly when its constraints, parameters and results are writable.
-/

namespace StaticWrap.Types

/-! ### Parts -/

/-- The types of a signature's parameters and results, in order. -/
def FuncType.types : FuncType → List GoType
  | .mk params results _ => params.map Var.type ++ results.map Var.type

namespace StructField
def name : StructField → String | .mk n _ _ _ _ => n
/-- The writing package. -/
def pkgPath : StructField → String | .mk _ p _ _ _ => p
def type : StructField → GoType | .mk _ _ _ t _ => t
end StructField

/-- The signature of an interface method. -/
def Method.sig : Method → FuncType | .mk _ _ s => s

/-- The type of a union term. -/
def Term.type : Term → GoType | .mk _ t => t

/-- The parts of a type the check visits. -/
@[simp] def GoType.parts : GoType → List GoType
  | .named _ args | .aliased _ args => args
  | .pointer e | .slice e | .array _ e | .chan _ e => [e]
  | .map k v => [k, v]
  | .func sig => sig.types
  | .struct fields => fields.map StructField.type
  | .iface _ methods embeddeds => methods.flatMap (·.sig.types) ++ embeddeds
  | .union terms => terms.map Term.type
  | .basic _ | .param _ | .invalid => []

theorem sizeOf_lt_of_mem_types {sig : FuncType} {u : GoType} (mem : u ∈ sig.types) :
    sizeOf u < sizeOf sig := by
  obtain ⟨params, results, variadic⟩ := sig
  simp only [FuncType.types, List.mem_append, List.mem_map] at mem
  -- a parameter's or a result's type is smaller than the variable, the list and the signature
  rcases mem with ⟨⟨n, v⟩, inList, rfl⟩ | ⟨⟨n, v⟩, inList, rfl⟩
  all_goals
    have := List.sizeOf_lt_of_mem inList
    simp only [Var.type, Var.mk.sizeOf_spec, FuncType.mk.sizeOf_spec] at this ⊢
    omega

/-- A part is smaller than the type. -/
theorem sizeOf_lt_of_mem_parts {t u : GoType} (mem : u ∈ t.parts) : sizeOf u < sizeOf t := by
  cases t with
  | named o args | aliased o args =>
    simp only [GoType.parts] at mem
    have := List.sizeOf_lt_of_mem mem
    simp only [GoType.named.sizeOf_spec, GoType.aliased.sizeOf_spec]
    omega
  | pointer e | slice e | array _ e | chan _ e =>
    simp only [GoType.parts, List.mem_singleton] at mem
    subst mem
    simp only [GoType.pointer.sizeOf_spec, GoType.slice.sizeOf_spec, GoType.array.sizeOf_spec,
      GoType.chan.sizeOf_spec]
    omega
  | map k v =>
    simp only [GoType.parts, List.mem_cons, List.not_mem_nil, or_false] at mem
    rcases mem with rfl | rfl <;> simp only [GoType.map.sizeOf_spec] <;> omega
  | func sig =>
    have := sizeOf_lt_of_mem_types mem
    simp only [GoType.func.sizeOf_spec]
    omega
  | struct fields =>
    obtain ⟨⟨n, p, e, t, tag⟩, inList, rfl⟩ := List.mem_map.1 mem
    have := List.sizeOf_lt_of_mem inList
    simp only [StructField.type, StructField.mk.sizeOf_spec, GoType.struct.sizeOf_spec] at this ⊢
    omega
  | iface i methods embeddeds =>
    simp only [GoType.parts, List.mem_append, List.mem_flatMap] at mem
    rcases mem with ⟨⟨n, p, sig⟩, inList, inSig⟩ | inList
    · have := List.sizeOf_lt_of_mem inList
      have := sizeOf_lt_of_mem_types inSig
      simp only [Method.sig, Method.mk.sizeOf_spec, GoType.iface.sizeOf_spec] at *
      omega
    · have := List.sizeOf_lt_of_mem inList
      simp only [GoType.iface.sizeOf_spec]
      omega
  | union terms =>
    obtain ⟨⟨tilde, t⟩, inList, rfl⟩ := List.mem_map.1 mem
    have := List.sizeOf_lt_of_mem inList
    simp only [Term.type, Term.mk.sizeOf_spec, GoType.union.sizeOf_spec] at this ⊢
    omega
  | basic _ | param _ | invalid => simp [GoType.parts] at mem

/-! ### Writable types -/

section Writable

variable (importer : String) (own : List String)

/-- An object the package at `importer` can name: predeclared, or declared at package level
either in `importer` or, exported, in a package `importer` may import. -/
def ObjWritable (o : TypeObj) : Prop :=
  o.isPredeclared = true ∨
    o.scope = 0 ∧ (o.pkgPath = importer ∨
      o.isExported = true ∧ Check.importable o.pkgPath importer = true)

/-- A field or method name the package at `importer` may write: exported, or written by no
package or by `importer`. -/
def MemberVisible (name pkg : String) : Prop :=
  Go.isExported name = true ∨ pkg = "" ∨ pkg = importer

/-- What a type asks of the package at `importer` by itself, apart from its parts. -/
def LocallyWritable : GoType → Prop
  | .named o _ | .aliased o _ => ObjWritable importer o
  | .param n => n ∈ own
  | .struct fields => ∀ f ∈ fields, MemberVisible importer f.name f.pkgPath
  | .iface _ methods _ => ∀ m ∈ methods, MemberVisible importer m.name m.pkgPath
  | _ => True

/-- `u` is `t` or is reached from `t` through parts. -/
inductive Reaches : GoType → GoType → Prop
  | refl (t : GoType) : Reaches t t
  | step {t u v : GoType} : u ∈ t.parts → Reaches u v → Reaches t v

/-- Every type reached from `t` through parts, `t` included, is locally writable. -/
def Writable (t : GoType) : Prop := ∀ u, Reaches t u → LocallyWritable importer own u

theorem writable_iff (t : GoType) :
    Writable importer own t ↔
      LocallyWritable importer own t ∧ ∀ u ∈ t.parts, Writable importer own u := by
  constructor
  · intro writable
    exact ⟨writable t (.refl t), fun u part v reached => writable v (.step part reached)⟩
  · rintro ⟨local_, parts⟩ v reached
    cases reached with
    | refl => exact local_
    | step part reached => exact parts _ part v reached

end Writable

/-! ### The first barrier -/

section FirstBarrier

variable {importer : String} {own : List String}

theorem objBarrier_eq_none_iff (o : TypeObj) :
    objBarrier importer o = none ↔ ObjWritable importer o := by
  unfold objBarrier ObjWritable
  by_cases predeclared : o.isPredeclared = true
  · simp [predeclared]
  by_cases local_ : o.scope = 0
  · by_cases mine : o.pkgPath = importer
    · simp [predeclared, local_, mine]
    · by_cases exported : o.isExported = true <;>
        by_cases admitted : Check.importable o.pkgPath importer = true <;>
        simp [predeclared, local_, mine, exported, admitted]
  · simp [predeclared, local_]

/-- The name test of fields and methods holds exactly on names the package may not write. -/
theorem hidden_iff (name pkg : String) :
    (!Go.isExported name && !pkg.isEmpty && pkg != importer) = true ↔
      ¬ MemberVisible importer name pkg := by
  simp [MemberVisible, and_assoc]

theorem typesBarrier_eq_none_iff (ts : List GoType) :
    typesBarrier importer own ts = none ↔ ∀ u ∈ ts, typeBarrier importer own u = none := by
  induction ts with
  | nil => simp [typesBarrier]
  | cons t ts ih => simp [typesBarrier, ih]

theorem varsBarrier_eq_none_iff (vs : List Var) :
    varsBarrier importer own vs = none ↔
      ∀ u ∈ vs.map Var.type, typeBarrier importer own u = none := by
  induction vs with
  | nil => simp [varsBarrier]
  | cons v vs ih =>
    obtain ⟨name, t⟩ := v
    simp [varsBarrier, ih, Var.type]

theorem sigBarrier_eq_none_iff (sig : FuncType) :
    sigBarrier importer own sig = none ↔
      ∀ u ∈ sig.types, typeBarrier importer own u = none := by
  obtain ⟨params, results, variadic⟩ := sig
  rw [sigBarrier, Option.orElse_eq_or, Option.or_eq_none_iff, varsBarrier_eq_none_iff,
    varsBarrier_eq_none_iff]
  simp only [FuncType.types, List.forall_mem_append]

theorem fieldsBarrier_eq_none_iff (fs : List StructField) :
    fieldsBarrier importer own fs = none ↔
      (∀ f ∈ fs, MemberVisible importer f.name f.pkgPath) ∧
        ∀ u ∈ fs.map StructField.type, typeBarrier importer own u = none := by
  induction fs with
  | nil => simp [fieldsBarrier]
  | cons f fs ih =>
    obtain ⟨name, pkg, embedded, t, tag⟩ := f
    simp only [fieldsBarrier, List.forall_mem_cons, List.map_cons, StructField.name,
      StructField.pkgPath, StructField.type]
    by_cases visible : MemberVisible importer name pkg
    · rw [if_neg fun hidden => (hidden_iff name pkg).1 hidden visible, Option.orElse_eq_or,
        Option.or_eq_none_iff, ih]
      simp only [visible, true_and]
      exact and_left_comm
    · rw [if_pos ((hidden_iff name pkg).2 visible)]
      simp [visible]

theorem methodsBarrier_eq_none_iff (ms : List Method) :
    methodsBarrier importer own ms = none ↔
      (∀ m ∈ ms, MemberVisible importer m.name m.pkgPath) ∧
        ∀ u ∈ ms.flatMap (·.sig.types), typeBarrier importer own u = none := by
  induction ms with
  | nil => simp [methodsBarrier]
  | cons m ms ih =>
    obtain ⟨name, pkg, sig⟩ := m
    simp only [methodsBarrier, List.forall_mem_cons, List.flatMap_cons, List.forall_mem_append,
      Method.name, Method.pkgPath, Method.sig]
    by_cases visible : MemberVisible importer name pkg
    · rw [if_neg fun hidden => (hidden_iff name pkg).1 hidden visible, Option.orElse_eq_or,
        Option.or_eq_none_iff, ih, sigBarrier_eq_none_iff]
      simp only [visible, true_and]
      exact and_left_comm
    · rw [if_pos ((hidden_iff name pkg).2 visible)]
      simp [visible]

theorem termsBarrier_eq_none_iff (ts : List Term) :
    termsBarrier importer own ts = none ↔
      ∀ u ∈ ts.map Term.type, typeBarrier importer own u = none := by
  induction ts with
  | nil => simp [termsBarrier]
  | cons t ts ih =>
    obtain ⟨tilde, t⟩ := t
    simp [termsBarrier, ih, Term.type]

/-- One level of the first barrier: none exactly when the type is locally writable and its parts
have none. -/
theorem typeBarrier_eq_none_iff_parts (t : GoType) :
    typeBarrier importer own t = none ↔
      LocallyWritable importer own t ∧ ∀ u ∈ t.parts, typeBarrier importer own u = none := by
  cases t with
  | named o args | aliased o args =>
    simp [typeBarrier, LocallyWritable, GoType.parts, objBarrier_eq_none_iff,
      typesBarrier_eq_none_iff]
  | pointer e | slice e | array _ e | chan _ e | map _ e =>
    simp [typeBarrier, LocallyWritable, GoType.parts]
  | func sig => simp [typeBarrier, LocallyWritable, GoType.parts, sigBarrier_eq_none_iff]
  | struct fields =>
    simp [typeBarrier, LocallyWritable, GoType.parts, fieldsBarrier_eq_none_iff]
  | iface i methods embeddeds =>
    simp only [typeBarrier, LocallyWritable, GoType.parts, Option.orElse_eq_or,
      Option.or_eq_none_iff, methodsBarrier_eq_none_iff, typesBarrier_eq_none_iff,
      List.forall_mem_append, and_assoc]
  | union terms => simp [typeBarrier, LocallyWritable, GoType.parts, termsBarrier_eq_none_iff]
  | param n => by_cases mine : n ∈ own <;> simp [typeBarrier, LocallyWritable, GoType.parts, mine]
  | basic _ | invalid => simp [typeBarrier, LocallyWritable, GoType.parts]

/-- **No first barrier is writability.** A type has no barrier exactly when every type reached
from it through parts is locally writable. -/
theorem typeBarrier_eq_none_iff_writable (t : GoType) :
    typeBarrier importer own t = none ↔ Writable importer own t := by
  rw [typeBarrier_eq_none_iff_parts, writable_iff]
  exact and_congr_right fun _ => forall₂_congr fun u _ => typeBarrier_eq_none_iff_writable u
-- by recursion on the size of the type: parts are smaller
termination_by sizeOf t
decreasing_by exact sizeOf_lt_of_mem_parts ‹_›

end FirstBarrier

/-! ### The check as it runs -/

theorem GoType.sizeOf_pos (t : GoType) : 0 < sizeOf t := by
  cases t <;> simp only [GoType.basic.sizeOf_spec, GoType.named.sizeOf_spec,
    GoType.aliased.sizeOf_spec, GoType.param.sizeOf_spec, GoType.pointer.sizeOf_spec,
    GoType.slice.sizeOf_spec, GoType.array.sizeOf_spec, GoType.map.sizeOf_spec,
    GoType.chan.sizeOf_spec, GoType.func.sizeOf_spec, GoType.struct.sizeOf_spec,
    GoType.iface.sizeOf_spec, GoType.union.sizeOf_spec, GoType.invalid.sizeOf_spec] <;> omega

theorem run_andThenCheck_some {first second : StateM (List GoType) (Option Barrier)}
    {seen seen' : List GoType} {b : Barrier} (found : Id.run (first.run seen) = (some b, seen')) :
    Id.run ((andThenCheck first second).run seen) = (some b, seen') := by
  simp only [andThenCheck, Id.run, StateT.run, bind, StateT.bind] at found ⊢
  rw [found]
  rfl

theorem run_andThenCheck_none {first second : StateM (List GoType) (Option Barrier)}
    {seen seen' : List GoType} (passed : Id.run (first.run seen) = (none, seen')) :
    Id.run ((andThenCheck first second).run seen) = Id.run (second.run seen') := by
  simp only [andThenCheck, Id.run, StateT.run, bind, StateT.bind] at passed ⊢
  rw [passed]

theorem run_checkOnce_met {t : GoType} {check : StateM (List GoType) (Option Barrier)}
    {seen : List GoType} (met : t ∈ seen) :
    Id.run ((checkOnce t check).run seen) = (none, seen) := by
  simp [checkOnce, met]

theorem run_checkOnce_new {t : GoType} {check : StateM (List GoType) (Option Barrier)}
    {seen : List GoType} (fresh : t ∉ seen) :
    Id.run ((checkOnce t check).run seen) = Id.run (check.run (t :: seen)) := by
  simp [checkOnce, fresh]

section Memo

variable (importer : String) (own : List String)

/-- Every type met passes or is larger than `n`: a type of size at most `n` that was met
passes. -/
def SafeMet (n : Nat) (seen : List GoType) : Prop :=
  ∀ s ∈ seen, typeBarrier importer own s = none ∨ n < sizeOf s

/-- `check` answers `first` below `n`: from any types met that are safe at `n`, its answer is
`first`, and when that is none every type it adds to those met passes. -/
def Answers (n : Nat) (check : StateM (List GoType) (Option Barrier)) (first : Option Barrier) :
    Prop :=
  ∀ seen, SafeMet importer own n seen →
    (Id.run (check.run seen)).1 = first ∧
      (first = none → ∀ s ∈ (Id.run (check.run seen)).2,
        s ∈ seen ∨ typeBarrier importer own s = none)

variable {importer own}

theorem safeMet_nil {n : Nat} : SafeMet importer own n [] :=
  fun _ met => absurd met List.not_mem_nil

theorem SafeMet.mono {m n : Nat} {seen : List GoType} (le : m ≤ n)
    (safe : SafeMet importer own n seen) : SafeMet importer own m seen :=
  fun s met => (safe s met).imp_right fun larger => Nat.lt_of_le_of_lt le larger

/-- Adding types that pass keeps the types met safe. -/
theorem SafeMet.of_added {n : Nat} {seen seen' : List GoType} (safe : SafeMet importer own n seen)
    (added : ∀ s ∈ seen', s ∈ seen ∨ typeBarrier importer own s = none) :
    SafeMet importer own n seen' :=
  fun s met => (added s met).elim (safe s) .inl

theorem answers_pure {n : Nat} {first : Option Barrier} :
    Answers importer own n (pure first) first :=
  fun _ _ => ⟨rfl, fun _ _ met => .inl met⟩

/-- Two checks in turn answer the first barrier of the first, or else of the second. -/
theorem Answers.andThen {n : Nat} {first second : StateM (List GoType) (Option Barrier)}
    {a b : Option Barrier} (answersA : Answers importer own n first a)
    (answersB : Answers importer own n second b) :
    Answers importer own n (andThenCheck first second) (a.orElse fun _ => b) := by
  intro seen safe
  obtain ⟨answerA, addedA⟩ := answersA seen safe
  rcases runA : Id.run (first.run seen) with ⟨_ | x, seen₁⟩
  case none =>
    rw [runA] at answerA addedA
    obtain rfl : a = none := answerA.symm
    obtain ⟨answerB, addedB⟩ := answersB seen₁ (safe.of_added (addedA rfl))
    rw [run_andThenCheck_none runA]
    refine ⟨answerB, fun passed s met => ?_⟩
    -- a type met after the second check was met after the first, or was added and passes
    exact (addedB passed s met).elim (addedA rfl s) .inr
  case some =>
    rw [runA] at answerA
    obtain rfl : a = some x := answerA.symm
    rw [run_andThenCheck_some runA]
    exact ⟨rfl, fun found => (Option.some_ne_none x found).elim⟩

/-- Checking a type once answers its first barrier when checking its parts does below its size:
a type met before is safe, so it passes; a new type is marked, and it is larger than its
parts. -/
theorem answers_checkOnce {n : Nat} {t : GoType} {check : StateM (List GoType) (Option Barrier)}
    (small : sizeOf t ≤ n)
    (parts : Answers importer own (sizeOf t - 1) check (typeBarrier importer own t)) :
    Answers importer own n (checkOnce t check) (typeBarrier importer own t) := by
  intro seen safe
  by_cases met : t ∈ seen
  · rw [run_checkOnce_met met]
    have passes : typeBarrier importer own t = none := (safe t met).resolve_right (by omega)
    exact ⟨passes.symm, fun _ s met => .inl met⟩
  · rw [run_checkOnce_new met]
    have marked : SafeMet importer own (sizeOf t - 1) (t :: seen) := by
      intro s met
      rcases List.mem_cons.1 met with rfl | met
      · exact .inr (by have := GoType.sizeOf_pos s; omega)
      · exact (safe.mono (by omega)) s met
    obtain ⟨answer, added⟩ := parts (t :: seen) marked
    refine ⟨answer, fun passed s met => ?_⟩
    rcases added passed s met with old | passes
    · rcases List.mem_cons.1 old with rfl | old
      · exact .inr passed
      · exact .inl old
    · exact .inr passes

end Memo

section Check

variable {importer : String} {own : List String}

/- Each check answers the first barrier below any bound its argument fits under, by recursion
on the argument: a type's parts are checked below the type's size. -/
mutual

theorem checkType_answers : ∀ (t : GoType) (n : Nat), sizeOf t ≤ n →
    Answers importer own n (checkType importer own t) (typeBarrier importer own t)
  | .named o args, n, small | .aliased o args, n, small => by
    rw [checkType]
    refine answers_checkOnce small ?_
    simp only [typeBarrier]
    cases objBarrier importer o with
    | some b => exact answers_pure
    | none =>
      refine checkTypes_answers args _ ?_
      simp only [GoType.named.sizeOf_spec, GoType.aliased.sizeOf_spec]
      omega
  | .pointer e, n, small | .slice e, n, small | .array _ e, n, small | .chan _ e, n, small => by
    rw [checkType]
    refine answers_checkOnce small ?_
    simp only [typeBarrier]
    refine checkType_answers e _ ?_
    simp only [GoType.pointer.sizeOf_spec, GoType.slice.sizeOf_spec, GoType.array.sizeOf_spec,
      GoType.chan.sizeOf_spec]
    omega
  | .map k v, n, small => by
    rw [checkType]
    refine answers_checkOnce small ?_
    simp only [typeBarrier]
    have bound : sizeOf k ≤ sizeOf (GoType.map k v) - 1 ∧
        sizeOf v ≤ sizeOf (GoType.map k v) - 1 := by
      simp only [GoType.map.sizeOf_spec]
      omega
    exact (checkType_answers k _ bound.1).andThen (checkType_answers v _ bound.2)
  | .func sig, n, small => by
    rw [checkType]
    refine answers_checkOnce small ?_
    simp only [typeBarrier]
    exact checkSig_answers sig _ (by simp only [GoType.func.sizeOf_spec]; omega)
  | .struct fields, n, small => by
    rw [checkType]
    refine answers_checkOnce small ?_
    simp only [typeBarrier]
    exact checkFields_answers fields _ (by simp only [GoType.struct.sizeOf_spec]; omega)
  | .iface i methods embeddeds, n, small => by
    rw [checkType]
    refine answers_checkOnce small ?_
    simp only [typeBarrier]
    have bound : sizeOf methods ≤ sizeOf (GoType.iface i methods embeddeds) - 1 ∧
        sizeOf embeddeds ≤ sizeOf (GoType.iface i methods embeddeds) - 1 := by
      simp only [GoType.iface.sizeOf_spec]
      omega
    exact (checkMethods_answers methods _ bound.1).andThen (checkTypes_answers embeddeds _ bound.2)
  | .union terms, n, small => by
    rw [checkType]
    refine answers_checkOnce small ?_
    simp only [typeBarrier]
    exact checkTerms_answers terms _ (by simp only [GoType.union.sizeOf_spec]; omega)
  | .param _, n, small | .basic _, n, small | .invalid, n, small => by
    rw [checkType]
    exact answers_checkOnce small answers_pure

theorem checkTypes_answers : ∀ (ts : List GoType) (n : Nat), sizeOf ts ≤ n →
    Answers importer own n (checkTypes importer own ts) (typesBarrier importer own ts)
  | [], _, _ => by
    simp only [checkTypes, typesBarrier]
    exact answers_pure
  | t :: ts, n, small => by
    simp only [checkTypes, typesBarrier]
    simp only [List.cons.sizeOf_spec] at small
    exact (checkType_answers t n (by omega)).andThen (checkTypes_answers ts n (by omega))

theorem checkSig_answers : ∀ (sig : FuncType) (n : Nat), sizeOf sig ≤ n →
    Answers importer own n (checkSig importer own sig) (sigBarrier importer own sig)
  | .mk params results _, n, small => by
    simp only [checkSig, sigBarrier]
    simp only [FuncType.mk.sizeOf_spec] at small
    exact (checkVars_answers params n (by omega)).andThen (checkVars_answers results n (by omega))

theorem checkVars_answers : ∀ (vs : List Var) (n : Nat), sizeOf vs ≤ n →
    Answers importer own n (checkVars importer own vs) (varsBarrier importer own vs)
  | [], _, _ => by
    simp only [checkVars, varsBarrier]
    exact answers_pure
  | .mk _ t :: vs, n, small => by
    simp only [checkVars, varsBarrier]
    simp only [List.cons.sizeOf_spec, Var.mk.sizeOf_spec] at small
    exact (checkType_answers t n (by omega)).andThen (checkVars_answers vs n (by omega))

theorem checkFields_answers : ∀ (fs : List StructField) (n : Nat), sizeOf fs ≤ n →
    Answers importer own n (checkFields importer own fs) (fieldsBarrier importer own fs)
  | [], _, _ => by
    simp only [checkFields, fieldsBarrier]
    exact answers_pure
  | .mk name pkg _ t _ :: fs, n, small => by
    simp only [checkFields, fieldsBarrier]
    simp only [List.cons.sizeOf_spec, StructField.mk.sizeOf_spec] at small
    by_cases hidden : (!Go.isExported name && !pkg.isEmpty && pkg != importer) = true
    · rw [if_pos hidden, if_pos hidden]
      exact answers_pure
    · rw [if_neg hidden, if_neg hidden]
      exact (checkType_answers t n (by omega)).andThen (checkFields_answers fs n (by omega))

theorem checkMethods_answers : ∀ (ms : List Method) (n : Nat), sizeOf ms ≤ n →
    Answers importer own n (checkMethods importer own ms) (methodsBarrier importer own ms)
  | [], _, _ => by
    simp only [checkMethods, methodsBarrier]
    exact answers_pure
  | .mk name pkg sig :: ms, n, small => by
    simp only [checkMethods, methodsBarrier]
    simp only [List.cons.sizeOf_spec, Method.mk.sizeOf_spec] at small
    by_cases hidden : (!Go.isExported name && !pkg.isEmpty && pkg != importer) = true
    · rw [if_pos hidden, if_pos hidden]
      exact answers_pure
    · rw [if_neg hidden, if_neg hidden]
      exact (checkSig_answers sig n (by omega)).andThen (checkMethods_answers ms n (by omega))

theorem checkTerms_answers : ∀ (ts : List Term) (n : Nat), sizeOf ts ≤ n →
    Answers importer own n (checkTerms importer own ts) (termsBarrier importer own ts)
  | [], _, _ => by
    simp only [checkTerms, termsBarrier]
    exact answers_pure
  | .mk _ t :: ts, n, small => by
    simp only [checkTerms, termsBarrier]
    simp only [List.cons.sizeOf_spec, Term.mk.sizeOf_spec] at small
    exact (checkType_answers t n (by omega)).andThen (checkTerms_answers ts n (by omega))

end

/-- **The check of a function answers which signatures the package can write.** Run once over the
constraints, then the parameters and results, with one list of the types met for the whole
function, the check answers the first barrier of the constraints, or else of the signature; so it
passes exactly when every constraint, parameter and result type is writable. -/
theorem signature_check_passes_iff_writable (importer : String)
    (typeParams : List (String × GoType)) (sig : FuncType) :
    funcBarrier importer typeParams sig =
        (typesBarrier importer (typeParams.map (·.1)) (typeParams.map (·.2))).orElse
          (fun _ => sigBarrier importer (typeParams.map (·.1)) sig) ∧
      (funcBarrier importer typeParams sig = none ↔
        ∀ t ∈ typeParams.map (·.2) ++ sig.types,
          Writable importer (typeParams.map (·.1)) t) := by
  -- one bound above the constraints and the signature; no type is met at the start
  have answers :=
    (@checkTypes_answers importer (typeParams.map (·.1)) (typeParams.map (·.2)) _
      (Nat.le_add_right _ (sizeOf sig))).andThen (checkSig_answers sig _ (Nat.le_add_left _ _))
  have first : funcBarrier importer typeParams sig = _ := (answers [] safeMet_nil).1
  refine ⟨first, ?_⟩
  rw [first, Option.orElse_eq_or, Option.or_eq_none_iff, typesBarrier_eq_none_iff,
    sigBarrier_eq_none_iff, List.forall_mem_append]
  simp only [typeBarrier_eq_none_iff_writable]

end Check

end StaticWrap.Types
