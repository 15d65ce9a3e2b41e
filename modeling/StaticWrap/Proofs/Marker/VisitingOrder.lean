import StaticWrap.Proofs.Marker.Parameters
/-!
**The order a map is visited in.**

A marker's parameters, and a schema's, are maps. Converting the parameters to their declared
types and checking a schema before it is registered both visit such a map and stop at the first
failure, in whatever order the map is visited; only the final check of the parameters visits
them by name, so that its faults come in a stable order. Reading (`validate`) converts the
parameters in name order, which is one of the orders a map may be visited in.

* `validateVisiting`: the conversion and the defaults in given orders, then the check by name;
  reading is the case of name order (`validate_eq_visiting`).
* `visiting_order_matters_only_for_ties`: every order gives the same outcome while at most one
  parameter does not convert, and registering a schema gives the same outcome in every order
  while at most one of its parameters is faulty.
* `visiting_order_decides_fault`: with two parameters that do not convert, or a schema with two
  faulty parameters, the order decides which one the fault names.
-/

namespace StaticWrap.Marker

/-! ### Visiting in a given order -/

/-- Checking a marker's parameters when the conversion visits them in the order `visit` and the
defaults are taken in the order `defaults`; the final check goes by name. -/
def validateVisiting (schema : Schema) (loc : Location) (visit : Params)
    (defaults : List (String × ParamSpec)) : Except Fault Params := do
  let converted ← convertParams schema loc visit
  let full := applyDefaults { schema with params := defaults } converted
  match checkParams schema loc full with
  | [] => .ok full
  | faults => .error (.several faults)

/-- Reading converts the parameters in name order and takes the defaults in the schema's
order. -/
theorem validate_eq_visiting {registry : Registry} {kind : Kind} {schema : Schema}
    (registered : registry.get? kind = some schema) (loc : Location) (ps : Params) :
    validate registry kind loc ps =
      validateVisiting schema loc (Text.sortBy (·.1) ps) schema.params := by
  -- the registry hands out the schema, and the rest is the same computation
  rw [validate, registered]
  rfl

/-- Converts one parameter to the type its schema declares; a parameter the schema does not
know is kept as it is. -/
def convertOne (schema : Schema) (loc : Location) (p : String × Value) :
    Except Fault (String × Value) :=
  match schema.params.lookup p.1 with
  | none => .ok p
  | some spec =>
    match convertTo spec.type p.2 with
    | .ok v' => .ok (p.1, v')
    | .error hint => .error (.one (.invalid p.1 ("value convertible to " ++ spec.type.name)
        (p.2.display ++ " (" ++ p.2.typeName ++ ")") loc hint))

/-- The conversion converts one parameter after another, in the order visited. -/
theorem convertParams_eq_mapM (schema : Schema) (loc : Location) :
    ∀ visit : Params, convertParams schema loc visit = visit.mapM (convertOne schema loc)
  | [] => rfl
  | (name, v) :: rest => by
    rw [List.mapM_cons, ← convertParams_eq_mapM schema loc rest, convertParams]
    simp only [convertOne]
    cases schema.params.lookup name with
    | none => cases convertParams schema loc rest <;> rfl
    | some spec =>
      dsimp only
      cases convertTo spec.type v <;> cases convertParams schema loc rest <;> rfl

/-- A parameter its schema knows whose value does not convert to the declared type. -/
def Unconvertible (schema : Schema) (p : String × Value) : Prop :=
  ∃ spec hint, schema.params.lookup p.1 = some spec ∧ convertTo spec.type p.2 = .error hint

/-- A parameter as the conversion leaves it. -/
def convertedParam (schema : Schema) (p : String × Value) : String × Value :=
  match convertOne schema {} p with
  | .ok q => q
  | .error _ => p

theorem convertOne_of_convertible {schema : Schema} (loc : Location) {p : String × Value}
    (converts : ¬ Unconvertible schema p) : convertOne schema loc p = .ok (convertedParam schema p) := by
  unfold convertedParam convertOne
  split
  · rfl
  · rename_i spec known
    split
    · rfl
    · rename_i hint fails
      exact absurd ⟨spec, hint, known, fails⟩ converts

theorem convertOne_error {schema : Schema} {loc : Location} {p : String × Value} {f : Fault}
    (fails : convertOne schema loc p = .error f) : Unconvertible schema p := by
  unfold convertOne at fails
  split at fails
  · cases fails
  · rename_i spec known
    split at fails
    · cases fails
    · rename_i hint failed
      exact ⟨spec, hint, known, failed⟩

theorem exists_convertOne_error {schema : Schema} (loc : Location) {p : String × Value}
    (fails : Unconvertible schema p) : ∃ f, convertOne schema loc p = .error f := by
  obtain ⟨spec, hint, known, failed⟩ := fails
  exact ⟨_, by simp only [convertOne, known, failed]; rfl⟩

/-! ### Converting one parameter after another -/

section MapM

variable {α β ε : Type} {f : α → Except ε β}

theorem mapM_eq_ok_map {g : α → β} :
    ∀ {l : List α}, (∀ a ∈ l, f a = .ok (g a)) → l.mapM f = .ok (l.map g)
  | [], _ => rfl
  | a :: l, ok => by
    rw [List.mapM_cons, ok a List.mem_cons_self,
      mapM_eq_ok_map fun b mem => ok b (List.mem_cons_of_mem a mem)]
    rfl

/-- The first element that fails decides the error. -/
theorem mapM_eq_error_first {pre post : List α} {a : α} {e : ε}
    (before : ∀ b ∈ pre, ∃ c, f b = .ok c) (fails : f a = .error e) :
    (pre ++ a :: post).mapM f = .error e := by
  induction pre with
  | nil =>
    rw [List.nil_append, List.mapM_cons, fails]
    rfl
  | cons b pre ih =>
    obtain ⟨c, ok⟩ := before b List.mem_cons_self
    rw [List.cons_append, List.mapM_cons, ok,
      ih fun x mem => before x (List.mem_cons_of_mem b mem)]
    rfl

/-- An element that fails, alone among the elements, decides the error wherever it stands. -/
theorem mapM_eq_error_of_unique {a : α} {e : ε} (fails : f a = .error e) :
    ∀ {l : List α}, a ∈ l → (∀ b ∈ l, (∃ e', f b = .error e') → b = a) → l.mapM f = .error e
  | [], mem, _ => absurd mem List.not_mem_nil
  | b :: l, mem, unique => by
    by_cases same : b = a
    · subst same
      rw [List.mapM_cons, fails]
      rfl
    · -- the head converts, since only `a` fails, so the error comes from the rest
      cases head : f b with
      | error e' => exact absurd (unique b List.mem_cons_self ⟨e', head⟩) same
      | ok c =>
        have later : a ∈ l := (List.mem_cons.1 mem).resolve_left (Ne.symm same)
        rw [List.mapM_cons, head,
          mapM_eq_error_of_unique fails later fun x inl => unique x (List.mem_cons_of_mem b inl)]
        rfl

end MapM

/-! ### After the conversion the order does not matter -/

section Maps

variable {β : Type}

theorem keys_nodup_of_perm {l₁ l₂ : List (String × β)} (perm : l₁.Perm l₂)
    (names : (l₁.map (·.1)).Nodup) : (l₂.map (·.1)).Nodup :=
  (perm.map _).nodup_iff.1 names

/-- A map read at a name does not depend on the order of its entries. -/
theorem lookup_perm {l₁ l₂ : List (String × β)} (perm : l₁.Perm l₂)
    (names : (l₁.map (·.1)).Nodup) (k : String) : l₁.lookup k = l₂.lookup k := by
  have names₂ := keys_nodup_of_perm perm names
  cases found : l₁.lookup k with
  | some v => exact (lookup_of_mem names₂ (perm.subset (mem_of_lookup found))).symm
  | none =>
    cases found₂ : l₂.lookup k with
    | none => rfl
    | some v =>
      have mem := perm.symm.subset (mem_of_lookup found₂)
      rw [lookup_of_mem names mem] at found
      cases found

/-- Sorting by name gives one list for every order of a map's entries. -/
theorem sortBy_perm_eq {l₁ l₂ : List (String × β)} (perm : l₁.Perm l₂)
    (names : (l₁.map (·.1)).Nodup) : Text.sortBy (·.1) l₁ = Text.sortBy (·.1) l₂ := by
  have trans : ∀ a b c : String × β, Text.textLe a.1 b.1 = true → Text.textLe b.1 c.1 = true →
      Text.textLe a.1 c.1 = true := by
    intro a b c first second
    simp only [Text.textLe, decide_eq_true_eq] at first second ⊢
    exact le_trans first second
  have total : ∀ a b : String × β, (Text.textLe a.1 b.1 || Text.textLe b.1 a.1) = true := by
    intro a b
    simpa [Text.textLe] using le_total a.1 b.1
  refine List.Perm.eq_of_pairwise ?_ (List.pairwise_mergeSort trans total l₁)
    (List.pairwise_mergeSort trans total l₂)
    ((List.mergeSort_perm _ _).trans (perm.trans (List.mergeSort_perm _ _).symm))
  intro a b inFirst inSecond below above
  -- equal names, and a name stands for one entry
  have name : a.1 = b.1 := by
    simp only [Text.textLe, decide_eq_true_eq] at below above
    exact le_antisymm below above
  have a_mem : a ∈ l₁ := mem_sortBy.1 inFirst
  have b_mem : b ∈ l₁ := perm.symm.subset (mem_sortBy.1 inSecond)
  have value : a.2 = b.2 := value_unique names a_mem (name ▸ b_mem)
  exact Prod.ext name value

end Maps

theorem applyDefaults_perm (schema : Schema) {c₁ c₂ : Params} (perm : c₁.Perm c₂)
    (names : (c₁.map (·.1)).Nodup) {d₁ d₂ : List (String × ParamSpec)} (order : d₁.Perm d₂) :
    (applyDefaults { schema with params := d₁ } c₁).Perm
      (applyDefaults { schema with params := d₂ } c₂) := by
  unfold applyDefaults
  simp only [lookup_perm perm names]
  exact perm.append (order.filterMap _)

/-- The final check reads the parameters by name only. -/
theorem checkParams_perm (schema : Schema) (loc : Location) {ps₁ ps₂ : Params}
    (perm : ps₁.Perm ps₂) (names : (ps₁.map (·.1)).Nodup) :
    checkParams schema loc ps₁ = checkParams schema loc ps₂ := by
  have combination : ∀ c : Combination, c.check ps₁ = c.check ps₂ := by
    intro c
    cases c
    simp only [Combination.check, Params.items, Params.get?, lookup_perm perm names]
    rfl
  unfold checkParams
  simp only [lookup_perm perm names, sortBy_perm_eq perm names, combination]

/-! ### Names stay unique -/

section Keys

variable {β γ : Type} {F : β → Option (String × γ)}

theorem keys_filterMap_sublist {key : β → String} (keeps : ∀ b q, F b = some q → q.1 = key b) :
    ∀ d : List β, List.Sublist ((d.filterMap F).map (·.1)) (d.map key)
  | [] => List.Sublist.slnil
  | b :: d => by
    rw [List.filterMap_cons, List.map_cons]
    cases kept : F b with
    | none => exact (keys_filterMap_sublist keeps d).cons _
    | some q =>
      rw [List.map_cons, keeps b q kept]
      exact (keys_filterMap_sublist keeps d).cons_cons _

/-- Entries appended under names a list lacks, each named after one of a list of unique names,
keep the names unique. -/
theorem keys_append_filterMap_nodup {c : List (String × γ)} {key : β → String}
    (keeps : ∀ b q, F b = some q → q.1 = key b ∧ c.lookup q.1 = none)
    (names : (c.map (·.1)).Nodup) {d : List β} (keyNames : (d.map key).Nodup) :
    ((c ++ d.filterMap F).map (·.1)).Nodup := by
  rw [List.map_append, List.nodup_append]
  refine ⟨names, keyNames.sublist (keys_filterMap_sublist (fun b q h => (keeps b q h).1) d), ?_⟩
  intro a inc b ind same
  obtain ⟨q, inq, rfl⟩ := List.mem_map.1 ind
  obtain ⟨p, -, taken⟩ := List.mem_filterMap.1 inq
  subst same
  have found : (c.lookup q.1).isSome := lookup_isSome_iff_mem.2 inc
  rw [(keeps p q taken).2] at found
  cases found

end Keys

/-- The defaults are taken for names the converted parameters lack, one per schema parameter,
so the full parameters have unique names. -/
theorem applyDefaults_names_nodup (schema : Schema) {c : Params}
    (names : (c.map (·.1)).Nodup) (schemaNames : (schema.params.map (·.1)).Nodup) :
    ((applyDefaults schema c).map (·.1)).Nodup := by
  unfold applyDefaults
  refine keys_append_filterMap_nodup ?_ names schemaNames
  -- a default keeps its parameter's name, and only a name the parameters lack gets one
  rintro ⟨name, spec⟩ q taken
  dsimp only at taken
  split at taken
  · rename_i absent
    cases taken
    exact ⟨rfl, absent⟩
  · cases taken

/-! ### Reading in any order -/

theorem convertParams_of_convertible (schema : Schema) (loc : Location) {visit : Params}
    (converts : ∀ p ∈ visit, ¬ Unconvertible schema p) :
    convertParams schema loc visit = .ok (visit.map (convertedParam schema)) := by
  rw [convertParams_eq_mapM]
  exact mapM_eq_ok_map fun p mem => convertOne_of_convertible loc (converts p mem)

/-- The first parameter visited that does not convert decides the fault. -/
theorem validateVisiting_first_unconvertible {schema : Schema} {loc : Location}
    {pre post : Params} {p : String × Value} {f : Fault} (defaults : List (String × ParamSpec))
    (before : ∀ q ∈ pre, ¬ Unconvertible schema q) (fails : convertOne schema loc p = .error f) :
    validateVisiting schema loc (pre ++ p :: post) defaults = .error f := by
  unfold validateVisiting
  rw [convertParams_eq_mapM,
    mapM_eq_error_first (fun q mem => ⟨_, convertOne_of_convertible loc (before q mem)⟩) fails]
  rfl

theorem convertedParam_name (schema : Schema) (p : String × Value) :
    (convertedParam schema p).1 = p.1 := by
  unfold convertedParam convertOne
  cases schema.params.lookup p.1 with
  | none => rfl
  | some spec =>
    dsimp only
    cases convertTo spec.type p.2 <;> rfl

/-- Two outcomes are the same: the same fault, or results that are alike. -/
def SameOutcome {α : Type} (alike : α → α → Prop) : Except Fault α → Except Fault α → Prop
  | .error f, .error f' => f = f'
  | .ok a, .ok a' => alike a a'
  | _, _ => False

/-- While at most one parameter fails to convert, every order of visiting the parameters and of
taking the defaults gives the same fault, or the same parameters up to order. -/
theorem validateVisiting_perm (schema : Schema) (loc : Location) {ps v₁ v₂ : Params}
    {d₁ d₂ : List (String × ParamSpec)} (names : (ps.map (·.1)).Nodup)
    (schemaNames : (schema.params.map (·.1)).Nodup) (visit₁ : v₁.Perm ps) (visit₂ : v₂.Perm ps)
    (defaults₁ : d₁.Perm schema.params) (defaults₂ : d₂.Perm schema.params)
    (oneFailure : ∀ p ∈ ps, ∀ q ∈ ps, Unconvertible schema p → Unconvertible schema q → p = q) :
    SameOutcome List.Perm (validateVisiting schema loc v₁ d₁) (validateVisiting schema loc v₂ d₂) := by
  by_cases failing : ∃ p ∈ ps, Unconvertible schema p
  · -- the one parameter that does not convert decides the fault wherever it is visited
    obtain ⟨p, mem, fails⟩ := failing
    obtain ⟨f, faulted⟩ := exists_convertOne_error loc fails
    have decided : ∀ v d, v.Perm ps → validateVisiting schema loc v d = .error f := by
      intro v d perm
      have unique : ∀ q ∈ v, (∃ e, convertOne schema loc q = .error e) → q = p := by
        rintro q inv ⟨e, qfails⟩
        exact oneFailure q (perm.subset inv) p mem (convertOne_error qfails) fails
      unfold validateVisiting
      rw [convertParams_eq_mapM, mapM_eq_error_of_unique faulted (perm.symm.subset mem) unique]
      rfl
    rw [decided v₁ d₁ visit₁, decided v₂ d₂ visit₂]
    rfl
  · -- every parameter converts, and the rest goes by name
    push Not at failing
    have converts : ∀ v, v.Perm ps → convertParams schema loc v = .ok (v.map (convertedParam schema)) :=
      fun v perm => convertParams_of_convertible schema loc fun p mem => failing p (perm.subset mem)
    have perm : (v₁.map (convertedParam schema)).Perm (v₂.map (convertedParam schema)) :=
      (visit₁.trans visit₂.symm).map _
    have converted : ((v₁.map (convertedParam schema)).map (·.1)).Nodup := by
      rw [List.map_map, show (·.1) ∘ convertedParam schema = (·.1) from
        funext (convertedParam_name schema)]
      exact keys_nodup_of_perm visit₁.symm names
    have full := applyDefaults_perm schema perm converted (defaults₁.trans defaults₂.symm)
    have fullNames := applyDefaults_names_nodup { schema with params := d₁ } converted
      (keys_nodup_of_perm defaults₁.symm schemaNames)
    unfold validateVisiting
    rw [converts v₁ visit₁, converts v₂ visit₂]
    dsimp only [bind, Except.bind]
    rw [checkParams_perm schema loc full fullNames]
    split
    · exact full
    · rfl

/-! ### Registering in any order -/

/-- A schema parameter the check before registering refuses on its own. -/
def Faulty (p : String × ParamSpec) : Prop := (schemaFault? [p]).isSome

instance : DecidablePred Faulty := fun p => inferInstanceAs (Decidable (schemaFault? [p]).isSome)

/-- The check before registering looks at one parameter after another. -/
theorem schemaFault?_eq_findSome? :
    ∀ params : List (String × ParamSpec),
      schemaFault? params = params.findSome? fun p => schemaFault? [p]
  | [] => rfl
  | p :: params => by
    have rest := schemaFault?_eq_findSome? params
    simp only [schemaFault?, List.findSome?_cons, List.findSome?_nil] at rest ⊢
    rw [rest]
    split <;> simp_all

section FindSome

variable {α β : Type} {f : α → Option β}

/-- A search that finds at most one element finds it in every order. -/
theorem findSome?_perm_of_unique {l₁ l₂ : List α} (perm : l₁.Perm l₂)
    (unique : ∀ a ∈ l₁, ∀ b ∈ l₁, (f a).isSome → (f b).isSome → a = b) :
    l₁.findSome? f = l₂.findSome? f := by
  cases found : l₁.findSome? f with
  | none =>
    rw [List.findSome?_eq_none_iff] at found
    exact (List.findSome?_eq_none_iff.2 fun a mem => found a (perm.symm.subset mem)).symm
  | some b =>
    obtain ⟨a, mem, hit⟩ := List.exists_of_findSome?_eq_some found
    -- in the other order the search finds something, and only `a` can be found
    have some₂ : (l₂.findSome? f).isSome :=
      List.findSome?_isSome_iff.2 ⟨a, perm.subset mem, by rw [hit]; rfl⟩
    obtain ⟨c, found₂⟩ := Option.isSome_iff_exists.1 some₂
    obtain ⟨a', mem', hit'⟩ := List.exists_of_findSome?_eq_some found₂
    have same : a' = a :=
      unique a' (perm.symm.subset mem') a mem (by rw [hit']; rfl) (by rw [hit]; rfl)
    rw [found₂, ← hit', same, hit]

end FindSome

/-- Two registries hold the same kinds in the same order, with the same schemas up to the order
of their parameters. -/
def Registry.Alike (r₁ r₂ : Registry) : Prop :=
  List.Forall₂ (fun e₁ e₂ => e₁.1 = e₂.1 ∧ { e₁.2 with params := [] } = { e₂.2 with params := [] } ∧
    e₁.2.params.Perm e₂.2.params) r₁.entries r₂.entries

/-- While at most one of its parameters is faulty, a schema is refused with the same fault, or
registered alike, whatever order its parameters are checked in. -/
theorem register_perm (r : Registry) (k : Kind) (s : Schema) {d₁ d₂ : List (String × ParamSpec)}
    (order₁ : d₁.Perm s.params) (order₂ : d₂.Perm s.params)
    (oneFault : ∀ p ∈ s.params, ∀ q ∈ s.params, Faulty p → Faulty q → p = q) :
    SameOutcome Registry.Alike (r.register k { s with params := d₁ })
      (r.register k { s with params := d₂ }) := by
  have same : schemaFault? d₁ = schemaFault? d₂ := by
    rw [schemaFault?_eq_findSome?, schemaFault?_eq_findSome?]
    exact findSome?_perm_of_unique (order₁.trans order₂.symm) fun p inp q inq =>
      oneFault p (order₁.subset inp) q (order₁.subset inq)
  -- registered alike: the old entries, then the schema in either order
  have alike : Registry.Alike { entries := r.entries ++ [(k, { s with params := d₁ })] }
      { entries := r.entries ++ [(k, { s with params := d₂ })] } :=
    List.rel_append (List.forall₂_same.2 fun _ _ => ⟨rfl, rfl, List.Perm.refl _⟩)
      (List.Forall₂.cons ⟨rfl, rfl, order₁.trans order₂.symm⟩ List.Forall₂.nil)
  unfold Registry.register
  dsimp only
  rw [same]
  split
  · rfl
  · split
    · rfl
    · cases schemaFault? d₂
      · exact alike
      · rfl

/-! ### The outcome in every order -/

/-- **Order matters only for ties.** Take a schema and two orders of its parameters. Reading
checks a marker's parameters in name order, one of the orders a map may be visited in; every
order of visiting the parameters, with the defaults taken in either order of the schema's,
gives the same fault, or the same parameters up to order, while at most one parameter fails to
convert; and registering the schema gives the same outcome in either order while at most one of
its parameters is faulty. -/
theorem visiting_order_matters_only_for_ties (registry : Registry) (kind : Kind) (schema : Schema)
    (loc : Location) (ps v₁ v₂ : Params) {d₁ d₂ : List (String × ParamSpec)}
    (order₁ : d₁.Perm schema.params) (order₂ : d₂.Perm schema.params) :
    (registry.get? kind = some schema →
      validate registry kind loc ps =
        validateVisiting schema loc (Text.sortBy (·.1) ps) schema.params) ∧
    ((ps.map (·.1)).Nodup → (schema.params.map (·.1)).Nodup → v₁.Perm ps → v₂.Perm ps →
      (∀ p ∈ ps, ∀ q ∈ ps, Unconvertible schema p → Unconvertible schema q → p = q) →
      SameOutcome List.Perm (validateVisiting schema loc v₁ d₁)
        (validateVisiting schema loc v₂ d₂)) ∧
    ((∀ p ∈ schema.params, ∀ q ∈ schema.params, Faulty p → Faulty q → p = q) →
      SameOutcome Registry.Alike (registry.register kind { schema with params := d₁ })
        (registry.register kind { schema with params := d₂ })) :=
  ⟨fun registered => validate_eq_visiting registered loc ps,
    fun names schemaNames visit₁ visit₂ oneFailure =>
      validateVisiting_perm schema loc names schemaNames visit₁ visit₂ order₁ order₂ oneFailure,
    fun oneFault => register_perm registry kind schema order₁ order₂ oneFault⟩

/-- Reading `-Target=os -Type` visits two parameters of which only `Type` does not convert, and a
schema of two parameters has only `A` faulty: both come out the same in either order. -/
theorem one_failure_visited_alike :
    validate Registry.builtin .static {} [("Target", .text "os"), ("Type", .flag true)] =
        validateVisiting staticSchema {}
          (Text.sortBy (·.1) [("Target", .text "os"), ("Type", .flag true)]) staticSchema.params ∧
      SameOutcome List.Perm
        (validateVisiting staticSchema {} [("Target", .text "os"), ("Type", .flag true)]
          staticSchema.params)
        (validateVisiting staticSchema {} [("Type", .flag true), ("Target", .text "os")]
          staticSchema.params.reverse) ∧
      SameOutcome Registry.Alike
        (Registry.register {} .static
          { kind := .static
            params := [("A", { type := .other 7 (by decide) }), ("B", { type := .text })] })
        (Registry.register {} .static
          { kind := .static
            params := [("B", { type := .text }), ("A", { type := .other 7 (by decide) })] }) := by
  have target : ¬ Unconvertible staticSchema ("Target", .text "os") := by
    rintro ⟨spec, hint, known, fails⟩
    cases known
    cases fails
  have textB : ¬ Faulty ("B", { type := .text }) := by decide
  have reading := visiting_order_matters_only_for_ties Registry.builtin .static staticSchema {}
    [("Target", .text "os"), ("Type", .flag true)] [("Target", .text "os"), ("Type", .flag true)]
    [("Type", .flag true), ("Target", .text "os")] (List.Perm.refl _) (List.reverse_perm _)
  have registering := visiting_order_matters_only_for_ties {} .static
    { kind := .static,
      params := [("A", { type := .other 7 (by decide) }), ("B", { type := .text })] }
    {} [] [] [] (List.Perm.refl _) (List.Perm.swap _ _ _)
  refine ⟨reading.1 rfl,
    reading.2.1 (by decide) (by decide) (List.Perm.refl _) (List.Perm.swap _ _ _) ?_,
    registering.2.2 ?_⟩
  · intro p inp q inq up uq
    simp only [List.mem_cons, List.not_mem_nil, or_false] at inp inq
    rcases inp with rfl | rfl <;> rcases inq with rfl | rfl
    · rfl
    · exact absurd up target
    · exact absurd uq target
    · rfl
  · intro p inp q inq fp fq
    simp only [List.mem_cons, List.not_mem_nil, or_false] at inp inq
    rcases inp with rfl | rfl <;> rcases inq with rfl | rfl
    · rfl
    · exact absurd fq textB
    · exact absurd fp textB
    · rfl

/-! ### Ties -/

/-- Once a marker is cut, parsed and its parameters collected, reading it is checking them. -/
theorem readMarker_eq_validate {comment : String} {loc : Location} {ts : List Token} {w : Written}
    {params : Params} (lexed : lexMarker (Text.trimSpace comment) = .ok ts)
    (parsed : parseTokens ts = .ok w) (static : w.kind = "static")
    (collected : collectParams loc [] w.params = .ok params) :
    readMarker Registry.builtin comment loc =
      (validate Registry.builtin .static loc params).map
        fun checked => ⟨.static, checked, loc, Text.trimSpace comment⟩ := by
  have registered : (Registry.builtin.get? Kind.static).isNone = false := rfl
  unfold readMarker
  simp only [lexed, parsed, static, collected, registered, bind, Except.bind,
    beq_self_eq_true, if_true, Bool.false_eq_true, if_false]
  cases validate Registry.builtin .static loc params <;> rfl

/-- **The order decides ties.** Reading `-Target -Type`, where neither flag converts to the text
its parameter takes, names `Target`, the first in name order, where visiting `Type` first
names `Type`; and of a schema's two faulty parameters, the fault names the first checked. -/
theorem visiting_order_decides_fault :
    readMarker Registry.builtin "//mockable::static -Target -Type" {} =
        .error (.one (.invalid "Target" "value convertible to string" "true (bool)" {}
          "a value is required")) ∧
      validateVisiting staticSchema {} [("Type", .flag true), ("Target", .flag true)]
          staticSchema.params =
        .error (.one (.invalid "Type" "value convertible to string" "true (bool)" {}
          "a value is required")) ∧
      Registry.register {} .static
          { kind := .static
            params := [("A", { type := .other 7 (by decide) }), ("B", { type := .other 9 (by decide) })] } =
        .error (.registration .static "invalid parameter type for A: 7") ∧
      Registry.register {} .static
          { kind := .static
            params := [("B", { type := .other 9 (by decide) }), ("A", { type := .other 7 (by decide) })] } =
        .error (.registration .static "invalid parameter type for B: 9") := by
  -- the cutter and the sort run by well-founded recursion, which only the kernel evaluates
  have read := @readMarker_eq_validate "//mockable::static -Target -Type" {}
    [⟨.comment, "//", 1⟩, ⟨.word, "mockable", 3⟩, ⟨.separator, "::", 11⟩, ⟨.word, "static", 13⟩,
      ⟨.flag, "-Target", 20⟩, ⟨.flag, "-Type", 28⟩, ⟨.stop, "", 33⟩]
    ⟨"static", [⟨"Target", none, 20⟩, ⟨"Type", none, 28⟩]⟩
    [("Target", .flag true), ("Type", .flag true)] (by decide +kernel) (by decide +kernel) rfl rfl
  have sorted : Text.sortBy (·.1) [("Target", Value.flag true), ("Type", .flag true)] =
      [("Target", .flag true), ("Type", .flag true)] :=
    List.mergeSort_of_pairwise (List.pairwise_pair.2 (by decide +kernel))
  refine ⟨?_, by decide, rfl, rfl⟩
  rw [read, validate_eq_visiting rfl, sorted]
  decide

end StaticWrap.Marker
