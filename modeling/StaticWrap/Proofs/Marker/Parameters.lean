import Mathlib
import StaticWrap.Proofs.Marker.Lexemes
/-!
**The parameters of `static` markers.**

After the grammar, the parameters of a marker are collected, a name being allowed once, and then
checked against the `static` schema: each value is converted to the type of its parameter, each
converted value must follow the rule of its parameter, and the parameters together must follow
the schema's combination rule. This module says, of the pairs (name, value text) as written,
exactly when both stages succeed and what they return.

* `StaticValue name v`: the rule of each parameter. `-Target` is an import path, `-Type` an
  exported identifier, `-Name` an identifier, `-Include` and `-Exclude` comma lists of at least
  one readable glob; no other name has a rule.
* `StaticParams ps`: no name twice, every parameter given a value that follows its rule, `-Type`
  only with `-Target`, and no pattern both included and excluded.
* `staticParams ps`: the checked parameters, in name order, the pattern lists cut at commas.
* `collectParams_eq_ok`: collecting succeeds exactly when no name repeats.
* `validate_static`: for distinct names, checking succeeds exactly on `StaticParams`, and then
  returns `staticParams`.
-/

namespace StaticWrap.Check

/-! ### Field checks -/

theorem isIdentifier_empty : Go.isIdentifier "" = false := rfl

theorem identifier_eq_ok {field v : String} :
    identifier field v = .ok () ↔ Go.isIdentifier v = true := by
  unfold identifier
  by_cases empty : v = ""
  · subst empty
    simp [isIdentifier_empty]
  · simp [empty]

theorem exportedIdentifier_eq_ok {field v : String} :
    exportedIdentifier field v = .ok () ↔ Go.isIdentifier v = true ∧ Go.isExported v = true := by
  unfold exportedIdentifier
  cases named : identifier field v with
  | error f => simp [bind, Except.bind, ← @identifier_eq_ok field v, named]
  | ok u =>
    have spelled := identifier_eq_ok.1 named
    simp only [bind, Except.bind, spelled, true_and]
    cases exported : Go.isExported v <;> simp [pure, Except.pure]

theorem importPath_eq_ok {field v : String} :
    importPath field v = .ok () ↔ checkImportPath v = none := by
  unfold importPath
  by_cases empty : v = ""
  · subst empty
    simp [checkImportPath]
  · rw [if_neg (by simpa using empty)]
    split <;> simp_all

theorem globPattern_eq_ok {field v : String} :
    globPattern field v = .ok () ↔ ∃ g, Glob.compile v = .ok g := by
  unfold globPattern
  split <;> simp_all

theorem eachItem_eq_ok {field : String} {check : String → Except FieldFault Unit}
    {items : List String} :
    eachItem field check items = .ok () ↔ ∀ v ∈ items, check v = .ok () := by
  -- the position only names a failing item, so the induction lets it vary
  suffices from_any : ∀ i, eachItem.go field check i items = .ok () ↔
      ∀ v ∈ items, check v = .ok () from from_any 0
  induction items with
  | nil => simp [eachItem.go]
  | cons v vs ih =>
    intro i
    unfold eachItem.go
    split <;> simp_all

end StaticWrap.Check

namespace StaticWrap.Marker

/-! ### Keyed lists -/

theorem lookup_isSome_iff_mem {β : Type} {l : List (String × β)} {k : String} :
    (l.lookup k).isSome ↔ k ∈ l.map (·.1) := by
  rw [List.lookup_isSome_iff, List.mem_map]
  simp only [beq_iff_eq]
  exact ⟨fun ⟨p, mem, same⟩ => ⟨p, mem, same.symm⟩, fun ⟨p, mem, same⟩ => ⟨p, mem, same.symm⟩⟩

theorem mem_of_lookup {β : Type} {l : List (String × β)} {k : String} {b : β}
    (found : l.lookup k = some b) : (k, b) ∈ l := by
  obtain ⟨l₁, l₂, rfl, -⟩ := List.lookup_eq_some_iff.1 found
  simp

theorem lookup_of_mem {β : Type} {l : List (String × β)} {k : String} {v : β}
    (unique : (l.map (·.1)).Nodup) (mem : (k, v) ∈ l) : l.lookup k = some v := by
  obtain ⟨s, t, rfl⟩ := List.append_of_mem mem
  refine List.lookup_eq_some_iff.2 ⟨s, t, rfl, fun p inside => ?_⟩
  rw [List.map_append, List.map_cons, List.nodup_append] at unique
  have apart := unique.2.2 p.1 (List.mem_map_of_mem inside) k List.mem_cons_self
  simpa [bne_iff_ne] using apart.symm

theorem value_unique {β : Type} {l : List (String × β)} {k : String} {v w : β}
    (unique : (l.map (·.1)).Nodup) (first : (k, v) ∈ l) (second : (k, w) ∈ l) : v = w :=
  Option.some.inj ((lookup_of_mem unique first).symm.trans (lookup_of_mem unique second))

@[simp]
theorem mem_sortBy {α : Type} {key : α → String} {l : List α} {x : α} :
    x ∈ Text.sortBy key l ↔ x ∈ l :=
  (List.mergeSort_perm _ _).mem_iff

theorem sortBy_map {α β : Type} {key : α → String} {key' : β → String} {f : α → β}
    (same : ∀ a, key' (f a) = key a) (l : List α) :
    Text.sortBy key' (l.map f) = (Text.sortBy key l).map f := by
  unfold Text.sortBy
  exact (List.map_mergeSort fun a _ b _ => by simp [same]).symm

/-! ### The rules of `static` markers -/

/-- The value a parameter holds as written: its text, or `true` for a flag without one. -/
def givenValue : Option String → Value
  | some s => .text s
  | none => .flag true

/-- The converted value of a parameter of a `static` marker: the items of the text cut at commas
for `-Include` and `-Exclude`, the text itself for the others. -/
def staticValue (name text : String) : Value :=
  if name = "Include" ∨ name = "Exclude" then .list (splitItems text) else .text text

/-- The rule the value of each parameter of a `static` marker follows; other names have none. -/
def StaticValue (name value : String) : Prop :=
  match name with
  | "Target" => Check.checkImportPath value = none
  | "Type" => Go.isIdentifier value = true ∧ Go.isExported value = true
  | "Name" => Go.isIdentifier value = true
  | "Include" | "Exclude" =>
    splitItems value ≠ [] ∧ ∀ p ∈ splitItems value, ∃ g, Glob.compile p = .ok g
  | _ => False

/-- The rules the parameters of a `static` marker follow, said of the pairs (name, value text)
as written: no name twice, each name known and given a value that follows its rule, `-Type` only
with `-Target`, and no pattern both included and excluded. -/
structure StaticParams (ps : List (String × Option String)) : Prop where
  unique : (ps.map (·.1)).Nodup
  valued : ∀ p ∈ ps, ∃ v, p.2 = some v ∧ StaticValue p.1 v
  typeNeedsTarget : "Type" ∈ ps.map (·.1) → "Target" ∈ ps.map (·.1)
  disjoint : ∀ i e, ("Include", some i) ∈ ps → ("Exclude", some e) ∈ ps →
    ∀ p ∈ splitItems i, p ∉ splitItems e

/-- The parameters of a `static` marker as the reader returns them: in name order, each with its
converted value. -/
def staticParams (ps : List (String × Option String)) : Params :=
  (Text.sortBy (·.1) ps).map fun p => (p.1, staticValue p.1 (p.2.getD ""))

theorem keys_staticParams (ps : List (String × Option String)) :
    (staticParams ps).map (·.1) = (Text.sortBy (·.1) ps).map (·.1) := by
  simp [staticParams]

theorem mem_keys_staticParams {ps : List (String × Option String)} {name : String} :
    name ∈ (staticParams ps).map (·.1) ↔ name ∈ ps.map (·.1) := by
  simp only [keys_staticParams, List.mem_map, mem_sortBy]

theorem nodup_keys_staticParams {ps : List (String × Option String)}
    (unique : (ps.map (·.1)).Nodup) : ((staticParams ps).map (·.1)).Nodup := by
  rw [keys_staticParams]
  exact (((List.mergeSort_perm _ _).map _).nodup_iff).2 unique

theorem mem_staticParams {ps : List (String × Option String)} {name : String} {x : Value} :
    (name, x) ∈ staticParams ps ↔ ∃ o, (name, o) ∈ ps ∧ x = staticValue name (o.getD "") := by
  simp only [staticParams, List.mem_map, mem_sortBy, Prod.mk.injEq]
  constructor
  · rintro ⟨⟨n, o⟩, mem, rfl, rfl⟩
    exact ⟨o, mem, rfl⟩
  · rintro ⟨o, mem, rfl⟩
    exact ⟨(name, o), mem, rfl, rfl⟩

/-! ### Collecting -/

theorem collectParams_eq_ok {loc : Location} {acc r : Params} {wps : List WrittenParam}
    (fresh : (acc.map (·.1)).Nodup) :
    collectParams loc acc wps = .ok r ↔
      ((acc ++ wps.map fun p => (p.name, givenValue p.value?)).map (·.1)).Nodup ∧
        r = acc ++ wps.map fun p => (p.name, givenValue p.value?) := by
  -- the names collected so far stay distinct, which the induction carries along
  induction wps generalizing acc with
  | nil => simp [collectParams, fresh, eq_comm]
  | cons p ps ih =>
    by_cases repeated : p.name ∈ acc.map (·.1)
    · have found : (acc.lookup p.name).isSome := lookup_isSome_iff_mem.2 repeated
      simp only [collectParams, found, if_true, reduceCtorEq, false_iff, not_and]
      intro twice
      rw [List.map_append, List.map_cons, List.nodup_append] at twice
      exact absurd rfl (twice.2.2 _ repeated _ List.mem_cons_self)
    · have found : ¬ (acc.lookup p.name).isSome := fun found =>
        repeated (lookup_isSome_iff_mem.1 found)
      have fresh' : ((acc ++ [(p.name, givenValue p.value?)]).map (·.1)).Nodup := by
        rw [List.map_append, List.nodup_append]
        refine ⟨fresh, List.nodup_singleton _, fun a mem b same eq => repeated ?_⟩
        rw [List.map_singleton, List.mem_singleton] at same
        rw [eq, same] at mem
        exact mem
      rw [collectParams, if_neg found]
      show collectParams loc (acc ++ [(p.name, givenValue p.value?)]) ps = .ok r ↔ _
      rw [ih fresh']
      simp

theorem collectParams_ne_crash (loc : Location) (acc : Params) (wps : List WrittenParam) :
    collectParams loc acc wps ≠ .error .crash := by
  fun_induction collectParams loc acc wps with
  | case1 => simp
  | case2 => simp
  | case3 acc p ps fresh v ih => exact ih

/-! ### Converting -/

theorem type_of_lookup {name : String} {spec : ParamSpec}
    (found : staticSchema.params.lookup name = some spec) :
    spec.type = if name = "Include" ∨ name = "Exclude" then .textList else .text := by
  have listed := mem_of_lookup found
  simp only [staticSchema, List.mem_cons, Prod.mk.injEq, List.not_mem_nil, or_false] at listed
  rcases listed with ⟨rfl, rfl⟩ | ⟨rfl, rfl⟩ | ⟨rfl, rfl⟩ | ⟨rfl, rfl⟩ | ⟨rfl, rfl⟩ <;> simp

theorem convertTo_textList_text (s : String) :
    convertTo .textList (.text s) = .ok (.list (splitItems s)) := by
  by_cases blank : (splitItems s).isEmpty
  · simp [convertTo, Value.asList, List.isEmpty_iff.1 blank]
  · simp [convertTo, Value.asList, blank]

/-- A known parameter converts exactly when it was given a value, to its `staticValue`. -/
theorem convertTo_given {name : String} {spec : ParamSpec} {o : Option String} {x : Value}
    (found : staticSchema.params.lookup name = some spec) :
    convertTo spec.type (givenValue o) = .ok x ↔ ∃ v, o = some v ∧ x = staticValue name v := by
  rw [type_of_lookup found]
  cases o with
  | none => split <;> simp [convertTo, givenValue]
  | some v =>
    by_cases listed : name = "Include" ∨ name = "Exclude"
    · simp [listed, givenValue, staticValue, convertTo_textList_text, eq_comm]
    · simp [listed, givenValue, staticValue, convertTo, eq_comm]

theorem convertParams_valued {loc : Location} {l : List (String × Option String)}
    (valued : ∀ p ∈ l, (staticSchema.params.lookup p.1).isSome ∧ p.2.isSome) :
    convertParams staticSchema loc (l.map fun p => (p.1, givenValue p.2)) =
      .ok (l.map fun p => (p.1, staticValue p.1 (p.2.getD ""))) := by
  induction l with
  | nil => rfl
  | cons p rest ih =>
    obtain ⟨known, given⟩ := valued p List.mem_cons_self
    obtain ⟨spec, found⟩ := Option.isSome_iff_exists.1 known
    obtain ⟨v, written⟩ := Option.isSome_iff_exists.1 given
    have converted := (convertTo_given found).2 ⟨v, written, rfl⟩
    rw [written] at converted
    have later := ih fun q mem => valued q (List.mem_cons_of_mem _ mem)
    simp only [List.map_cons, convertParams, found, written, converted, later, Option.getD_some]
    rfl

/-- Converting keeps the names, and fails on a known parameter given no value. -/
theorem convertParams_given_ok {loc : Location} {l : List (String × Option String)}
    {conv : Params}
    (converted : convertParams staticSchema loc (l.map fun p => (p.1, givenValue p.2)) = .ok conv) :
    conv.map (·.1) = l.map (·.1) ∧
      ∀ p ∈ l, (staticSchema.params.lookup p.1).isSome → p.2.isSome := by
  induction l generalizing conv with
  | nil =>
    cases converted
    simp
  | cons p rest ih =>
    simp only [List.map_cons, convertParams] at converted
    split at converted
    · rename_i unknown
      obtain ⟨more, later, rfl⟩ := map_eq_ok converted
      obtain ⟨keys, valued⟩ := ih later
      refine ⟨by simp [keys], ?_⟩
      rintro q (_ | ⟨_, mem⟩)
      · simp [unknown]
      · exact valued q mem
    · rename_i spec found
      split at converted
      · rename_i v' given
        obtain ⟨more, later, rfl⟩ := map_eq_ok converted
        obtain ⟨keys, valued⟩ := ih later
        obtain ⟨v, written, -⟩ := (convertTo_given found).1 given
        refine ⟨by simp [keys], ?_⟩
        rintro q (_ | ⟨_, mem⟩)
        · simp [written]
        · exact valued q mem
      · cases converted

theorem convertParams_ne_crash (schema : Schema) (loc : Location) (ps : Params) :
    convertParams schema loc ps ≠ .error .crash := by
  fun_induction convertParams schema loc ps with
  | case1 => simp
  | case2 _ _ _ _ ih | case3 _ _ _ _ _ _ _ ih => exact fun crash => ih (map_eq_error crash)
  | case4 => simp

/-! ### Checking -/

theorem liftField_eq_ok {r : Except Check.FieldFault Unit} :
    liftField r = .ok () ↔ r = .ok () := by
  unfold liftField
  split <;> simp_all

theorem importPath_check_eq_ok (v : String) :
    Rule.importPath.check (.text v) = .ok () ↔ Check.checkImportPath v = none := by
  simp [Rule.check, liftField_eq_ok, Check.importPath_eq_ok]

theorem exportedName_check_eq_ok (v : String) :
    Rule.exportedName.check (.text v) = .ok () ↔
      Go.isIdentifier v = true ∧ Go.isExported v = true := by
  simp [Rule.check, liftField_eq_ok, Check.exportedIdentifier_eq_ok]

theorem identifier_check_eq_ok (v : String) :
    Rule.identifier.check (.text v) = .ok () ↔ Go.isIdentifier v = true := by
  simp [Rule.check, liftField_eq_ok, Check.identifier_eq_ok]

theorem patterns_check_eq_ok (items : List String) :
    Rule.check .patterns (.list items) = .ok () ↔
      items ≠ [] ∧ ∀ p ∈ items, ∃ g, Glob.compile p = .ok g := by
  cases items with
  | nil => simp [Rule.check]
  | cons p ps => simp [Rule.check, liftField_eq_ok, Check.eachItem_eq_ok, Check.globPattern_eq_ok]

theorem paramFaults_unknown {loc : Location} {name : String}
    (unknown : staticSchema.params.lookup name = none) (v : Value) :
    paramFaults staticSchema loc name v ≠ [] := by
  simp [paramFaults, unknown]

/-- A known parameter has no fault exactly when its value has the declared type and follows the
declared rule. -/
theorem paramFaults_eq_nil {schema : Schema} {loc : Location} {name : String} {v : Value}
    {spec : ParamSpec} (found : schema.params.lookup name = some spec) :
    paramFaults schema loc name v = [] ↔
      spec.type.admits v = true ∧ ∀ r, spec.rule? = some r → r.check v = .ok () := by
  unfold paramFaults
  rw [found]
  by_cases admitted : spec.type.admits v
  · cases rule : spec.rule? with
    | none => simp [admitted, rule]
    | some r => cases checked : r.check v <;> simp [admitted, rule, checked]
  · simp [admitted]

theorem not_staticValue_of_unknown {name v : String}
    (unknown : staticSchema.params.lookup name = none) : ¬ StaticValue name v := by
  unfold StaticValue
  split <;> simp_all [staticSchema]

theorem known_of_staticValue {name v : String} (follows : StaticValue name v) :
    (staticSchema.params.lookup name).isSome := by
  cases found : staticSchema.params.lookup name with
  | none => exact absurd follows (not_staticValue_of_unknown found)
  | some spec => rfl

/-- A name that checks without fault is known to the schema. -/
theorem known_of_faultless {loc : Location} {conv : Params} {name : String}
    (faultless : ∀ q ∈ conv, paramFaults staticSchema loc q.1 q.2 = [])
    (named : name ∈ conv.map (·.1)) : (staticSchema.params.lookup name).isSome := by
  obtain ⟨q, inConv, rfl⟩ := List.mem_map.1 named
  cases found : staticSchema.params.lookup q.1 with
  | none => exact absurd (faultless q inConv) (paramFaults_unknown found _)
  | some spec => rfl

theorem paramFaults_staticValue (loc : Location) (name v : String) :
    paramFaults staticSchema loc name (staticValue name v) = [] ↔ StaticValue name v := by
  cases found : staticSchema.params.lookup name with
  | none =>
    simp only [paramFaults, found, reduceCtorEq, false_iff]
    exact not_staticValue_of_unknown found
  | some spec =>
    have listed := mem_of_lookup found
    simp only [staticSchema, List.mem_cons, Prod.mk.injEq, List.not_mem_nil, or_false] at listed
    rw [paramFaults_eq_nil found]
    rcases listed with ⟨rfl, rfl⟩ | ⟨rfl, rfl⟩ | ⟨rfl, rfl⟩ | ⟨rfl, rfl⟩ | ⟨rfl, rfl⟩ <;>
      simp [staticValue, StaticValue, ParamType.admits, patterns_check_eq_ok,
        importPath_check_eq_ok, exportedName_check_eq_ok, identifier_check_eq_ok]

/-- No parameter of the `static` schema is required, so none is reported missing. -/
theorem static_none_missing {β : Type} (missing : String × ParamSpec → Prop)
    [DecidablePred missing] (fault : String × ParamSpec → β) :
    (Text.sortBy (·.1) staticSchema.params).filterMap
      (fun x => if x.2.required = true ∧ missing x then some (fault x) else none) = [] := by
  refine List.filterMap_eq_nil_iff.2 fun a mem => ?_
  simp only [mem_sortBy, staticSchema, List.mem_cons, List.not_mem_nil, or_false] at mem
  rcases mem with rfl | rfl | rfl | rfl | rfl <;> simp

theorem checkParams_static_eq_nil {loc : Location} {ps : Params} :
    checkParams staticSchema loc ps = [] ↔
      (∀ q ∈ ps, paramFaults staticSchema loc q.1 q.2 = []) ∧
        Combination.check .staticTargets ps = none := by
  unfold checkParams
  simp only [Bool.and_eq_true, List.isEmpty_iff, static_none_missing, List.nil_append,
    List.flatMap_eq_nil_iff, mem_sortBy]
  split
  · rename_i clean
    have rules : staticSchema.combinations = [.staticTargets] := rfl
    rw [rules]
    cases checked : Combination.check .staticTargets ps
    · simpa [checked] using fun a b mem => clean (a, b) mem
    · simp [checked]
  · rename_i faulty
    simp only [List.flatMap_eq_nil_iff, mem_sortBy, faulty, false_and]

theorem mem_items_staticParams {ps : List (String × Option String)} {name x : String}
    (unique : (ps.map (·.1)).Nodup) (valued : ∀ p ∈ ps, p.2.isSome)
    (listed : name = "Include" ∨ name = "Exclude") :
    x ∈ Params.items (staticParams ps) name ↔ ∃ i, (name, some i) ∈ ps ∧ x ∈ splitItems i := by
  unfold Params.items Params.get?
  cases found : (staticParams ps).lookup name with
  | none =>
    -- a written pattern list would have been found
    simp only [List.not_mem_nil, false_iff, not_exists, not_and]
    intro i mem _
    have present := lookup_of_mem (nodup_keys_staticParams unique)
      (mem_staticParams.2 ⟨some i, mem, rfl⟩)
    rw [found] at present
    cases present
  | some v =>
    obtain ⟨o, mem, rfl⟩ := mem_staticParams.1 (mem_of_lookup found)
    obtain ⟨i, rfl⟩ := Option.isSome_iff_exists.1 (valued _ mem)
    simp only [staticValue, listed, if_true, Option.getD_some]
    constructor
    · exact fun inside => ⟨i, mem, inside⟩
    · rintro ⟨i', mem', inside⟩
      obtain rfl : i = i' := Option.some.inj (value_unique unique mem mem')
      exact inside

/-- The combination rule holds of the checked parameters exactly when `-Type` comes with
`-Target` and no pattern is both included and excluded. -/
theorem staticTargets_check_eq_none {ps : List (String × Option String)}
    (unique : (ps.map (·.1)).Nodup) (valued : ∀ p ∈ ps, p.2.isSome) :
    Combination.check .staticTargets (staticParams ps) = none ↔
      ("Type" ∈ ps.map (·.1) → "Target" ∈ ps.map (·.1)) ∧
        ∀ i e, ("Include", some i) ∈ ps → ("Exclude", some e) ∈ ps →
          ∀ p ∈ splitItems i, p ∉ splitItems e := by
  unfold Combination.check
  have found : ∀ name, ((staticParams ps).get? name).isSome ↔ name ∈ ps.map (·.1) := fun name =>
    lookup_isSome_iff_mem.trans mem_keys_staticParams
  by_cases lonely : "Type" ∈ ps.map (·.1) ∧ "Target" ∉ ps.map (·.1)
  · have condition : (((staticParams ps).get? "Type").isSome &&
        ((staticParams ps).get? "Target").isNone) = true := by
      simp [Option.isNone_iff_eq_none, ← Option.not_isSome_iff_eq_none, found, lonely]
    simp [condition, lonely]
  · have paired : "Type" ∈ ps.map (·.1) → "Target" ∈ ps.map (·.1) := fun typed =>
      by_contra fun untargeted => lonely ⟨typed, untargeted⟩
    have condition : (((staticParams ps).get? "Type").isSome &&
        ((staticParams ps).get? "Target").isNone) = false := by
      simpa [Option.isNone_iff_eq_none, ← Option.not_isSome_iff_eq_none, found] using paired
    simp only [condition, Bool.false_eq_true, if_false, Option.map_eq_none_iff, overlap?,
      List.find?_eq_none, List.contains_iff_mem]
    have included := fun x => @mem_items_staticParams ps "Include" x unique valued (.inl rfl)
    have excluded := fun x => @mem_items_staticParams ps "Exclude" x unique valued (.inr rfl)
    constructor
    · intro apart
      refine ⟨paired, fun i e inc exc p incP excP => apart p ?_ ?_⟩
      · exact (included p).2 ⟨i, inc, incP⟩
      · exact (excluded p).2 ⟨e, exc, excP⟩
    · rintro ⟨-, apart⟩ p incP excP
      obtain ⟨i, inc, incP⟩ := (included p).1 incP
      obtain ⟨e, exc, excP⟩ := (excluded p).1 excP
      exact apart i e inc exc p incP excP

/-- Parameters given values check without fault exactly when they follow the `static` rules. -/
theorem checkParams_staticParams_eq_nil {loc : Location} {ps : List (String × Option String)}
    (unique : (ps.map (·.1)).Nodup) (valued : ∀ p ∈ ps, p.2.isSome) :
    checkParams staticSchema loc (staticParams ps) = [] ↔ StaticParams ps := by
  rw [checkParams_static_eq_nil, staticTargets_check_eq_none unique valued]
  constructor
  · rintro ⟨faultless, paired, disjoint⟩
    refine ⟨unique, fun p mem => ?_, paired, disjoint⟩
    obtain ⟨v, written⟩ := Option.isSome_iff_exists.1 (valued p mem)
    refine ⟨v, written, (paramFaults_staticValue loc p.1 v).1 ?_⟩
    exact faultless (p.1, staticValue p.1 v)
      (mem_staticParams.2 ⟨p.2, mem, by rw [written]; rfl⟩)
  · intro rules
    refine ⟨fun q mem => ?_, rules.typeNeedsTarget, rules.disjoint⟩
    obtain ⟨name, x⟩ := q
    obtain ⟨o, inPs, rfl⟩ := mem_staticParams.1 mem
    obtain ⟨v, rfl, follows⟩ := rules.valued _ inPs
    exact (paramFaults_staticValue loc name v).2 follows

theorem applyDefaults_static (ps : Params) : applyDefaults staticSchema ps = ps := by
  simp [applyDefaults, staticSchema]

theorem builtin_static : Registry.builtin.get? .static = some staticSchema := rfl

/-- Checking parameters with distinct names against the built-in registry succeeds exactly when
they follow the `static` rules, and returns them converted in name order. -/
theorem validate_static {loc : Location} {ps : List (String × Option String)} {checked : Params}
    (unique : (ps.map (·.1)).Nodup) :
    validate Registry.builtin .static loc (ps.map fun p => (p.1, givenValue p.2)) = .ok checked ↔
      StaticParams ps ∧ checked = staticParams ps := by
  have sorted := @sortBy_map _ _ (fun p : String × Option String => p.1)
    (fun p : String × Value => p.1) (fun p => (p.1, givenValue p.2)) (fun _ => rfl) ps
  unfold validate
  simp only [builtin_static, bind, Except.bind, sorted, applyDefaults_static]
  constructor
  · intro read
    cases converted : convertParams staticSchema loc
        ((Text.sortBy (·.1) ps).map fun p => (p.1, givenValue p.2)) with
    | error f => simp [converted] at read
    | ok conv =>
      simp only [converted] at read
      cases clean : checkParams staticSchema loc conv with
      | cons f fs => simp [clean] at read
      | nil =>
        simp only [clean, Except.ok.injEq] at read
        subst read
        obtain ⟨keys, flagged⟩ := convertParams_given_ok converted
        -- an unknown name would have been reported, and a known one converts only with a value
        have given : ∀ p ∈ Text.sortBy (·.1) ps,
            (staticSchema.params.lookup p.1).isSome ∧ p.2.isSome := by
          intro p mem
          have known := known_of_faultless (checkParams_static_eq_nil.1 clean).1
            (by rw [keys]; exact List.mem_map_of_mem mem)
          exact ⟨known, flagged p mem known⟩
        obtain rfl : conv = staticParams ps := by
          have computed := @convertParams_valued loc _ given
          rw [converted] at computed
          exact Except.ok.inj computed
        have valued : ∀ p ∈ ps, p.2.isSome := fun p mem => (given p (mem_sortBy.2 mem)).2
        exact ⟨(checkParams_staticParams_eq_nil unique valued).1 clean, rfl⟩
  · rintro ⟨rules, rfl⟩
    have given : ∀ p ∈ Text.sortBy (·.1) ps,
        (staticSchema.params.lookup p.1).isSome ∧ p.2.isSome := by
      intro p mem
      obtain ⟨v, written, follows⟩ := rules.valued p (mem_sortBy.1 mem)
      exact ⟨known_of_staticValue follows, by simp [written]⟩
    have valued : ∀ p ∈ ps, p.2.isSome := fun p mem => (given p (mem_sortBy.2 mem)).2
    have converted : convertParams staticSchema loc
        ((Text.sortBy (·.1) ps).map fun p => (p.1, givenValue p.2)) = .ok (staticParams ps) :=
      convertParams_valued given
    simp only [converted, (checkParams_staticParams_eq_nil unique valued).2 rules]

theorem validate_ne_crash (registry : Registry) (kind : Kind) (loc : Location) (ps : Params) :
    validate registry kind loc ps ≠ .error .crash := by
  unfold validate
  split
  · simp
  · intro crash
    simp only [bind, Except.bind] at crash
    split at crash
    · rename_i converted
      exact convertParams_ne_crash _ loc _ (converted.trans crash)
    · split at crash <;> cases crash

end StaticWrap.Marker
