import StaticWrap.Proofs.Render.Qualification
import StaticWrap.Proofs.Text.Paths
import StaticWrap.Generate.Emit
import StaticWrap.Proofs.Discover.Accounting
import StaticWrap.Proofs.Marker.Acceptance
import StaticWrap.Run.Pass
/-!
**The scoping of a generated file.**

A generated file refers to other packages only through the qualifiers of its import table, and
the table is built while the units are resolved. The file is well scoped in this sense:

* the units are the non-empty units asked for, in order, each resolved against the one final
  table of the file (`resolvedUnit`), so a package has one qualifier however its facts number it;
* the table is sound: one import per package, never the file's own, under a qualifier that is
  neither empty, nor `_`, nor one of the reserved names (the package's declarations, the
  generated type names and every type parameter), and that no other import takes;
* every import is used: its qualifier, followed by a dot, stands in a text of some unit. That
  text is printed, or it is the constraint of a fact's own type parameter, which is resolved but
  never printed: comparing constraints by their canonical text does not make the packages of a
  lifted fact's constraint those of its target (`lifted_constraint_import_unprinted`).

Emission fails only when the file does not format.
-/

namespace StaticWrap.Model

/-! ### The texts of a unit -/

/-- The texts of a fact that a generated file prints: the parameter and result types and the
qualifier of the call. -/
def Fact.printedTexts (f : Fact) : List String :=
  f.params.map (·.type) ++ f.results ++ [if f.qualifier.isEmpty then "" else f.qualifier ++ "."]

/-- The texts of a unit that a generated file prints: the constraints of the wrapper's type
parameters, the embedded fields and the texts of every fact. -/
def WrapUnit.printedTexts (u : WrapUnit) : List String :=
  u.target.typeParams.map (·.constraint) ++ u.target.embeds ++ u.facts.flatMap Fact.printedTexts

/-- The constraints of the facts' own type parameters: resolved, never printed. -/
def WrapUnit.liftedConstraints (u : WrapUnit) : List String :=
  u.facts.flatMap fun f => f.typeParams.map (·.constraint)

end StaticWrap.Model

namespace StaticWrap.Generate

open StaticWrap.Model StaticWrap.Render

/-! ### Resolution against the final table -/

/-- Type parameters with their constraints resolved against a table. -/
def typeParamsWith (T : ImportTable) (tps : List TypeParam) (refs : List PackageRef) :
    List TypeParam :=
  tps.map fun tp => ⟨tp.name, T.resolveText tp.constraint refs⟩

/-- The qualifier of a fact's call resolved against a table. -/
def qualifierWith (T : ImportTable) (f : Fact) : String :=
  if f.qualifier.isEmpty then "" else Text.trimSuffix (T.resolveText (f.qualifier ++ ".") f.imports) "."

/-- A fact resolved against a table. -/
def factWith (T : ImportTable) (f : Fact) : Fact :=
  { f with imports := [],
           params := f.params.map fun p => { p with type := T.resolveText p.type f.imports },
           results := f.results.map (T.resolveText · f.imports),
           qualifier := qualifierWith T f,
           typeParams := typeParamsWith T f.typeParams f.imports }

/-- A unit resolved against a table. -/
def resolvedUnit (T : ImportTable) (u : WrapUnit) : WrapUnit :=
  ⟨{ u.target with typeParams := typeParamsWith T u.target.typeParams u.target.imports,
                   embeds := u.target.embeds.map (T.resolveText · u.target.imports) },
    u.facts.map (factWith T)⟩

/-- A unit as a file emits it: resolved against the file's table, with each fact's parameters
named clear of the table's qualifiers. -/
def emittedUnit (T : ImportTable) (u : WrapUnit) : WrapUnit :=
  let r := resolvedUnit T u
  { r with facts := r.facts.map fun f =>
      { f with params := normalizeParams f.params (T.entries.map (·.qualifier)) } }

/-- The units of a request that have facts, in order. -/
def EmitRequest.nonEmptyUnits (req : EmitRequest) : List WrapUnit :=
  (req.units.filterMap id).filter fun u => !u.facts.isEmpty

/-! ### Resolving while the table is built -/

/-- Trimming the final dot: the text was the trimmed text and a dot, or had no final dot. -/
theorem trimSuffix_dot (r : String) :
    (Text.trimSuffix r ".").toList ++ ['.'] = r.toList ∨ Text.trimSuffix r "." = r := by
  unfold Text.trimSuffix Text.cutSuffix?
  rcases cut : Text.dropPrefix? ".".toList.reverse r.toList.reverse with _ | rest
  · exact .inr rfl
  · left
    have split := congrArg List.reverse (Text.dropPrefix?_eq_some_iff.1 cut)
    simp only [List.reverse_reverse] at split
    simp [split]

/-- A qualifier that stands in the resolved qualifier of a call stands in the call as printed. -/
theorem occurs_trimmed {q r : String} (nonempty : q ≠ "") (occurs : Occurs q r.toList) :
    Occurs q (let t := Text.trimSuffix r "."; if t.isEmpty then "" else t ++ ".").toList := by
  dsimp only
  rcases trimSuffix_dot r with dotted | plain
  · split
    · -- the whole qualifier was a dot
      rename_i empty
      rw [String.isEmpty_iff.1 empty, String.toList_empty, List.nil_append] at dotted
      rw [← dotted] at occurs
      exact absurd occurs (not_occurs_dot nonempty)
    · rwa [String.toList_append, show ".".toList = ['.'] from rfl, dotted]
  · rw [plain]
    split
    · rename_i empty
      rw [String.isEmpty_iff.1 empty, String.toList_empty] at occurs
      have := occurs.length_le
      simp at this
    · rw [String.toList_append]
      exact occurs.append_right _

theorem resolveTypeParams_qualifies (tps : List TypeParam) (refs : List PackageRef) :
    Qualifies (resolveTypeParams tps refs) (fun T => typeParamsWith T tps refs)
      (fun T => (typeParamsWith T tps refs).map (·.constraint.toList)) := by
  unfold resolveTypeParams
  refine ((Qualifies.mapM tps fun tp _ => (resolve_qualifies tp.constraint refs).bind fun c =>
    Qualifies.pure (⟨tp.name, c⟩ : TypeParam)).value_of fun T => rfl).uses_of ?_
  intro T q _ ⟨s, used, occurs⟩
  refine ⟨s, ?_, occurs⟩
  simpa [typeParamsWith, eq_comm] using used

/-- The qualifier of a call, resolved with its dot, which is then trimmed. -/
theorem qualifierStep_qualifies (f : Fact) :
    Qualifies (if f.qualifier.isEmpty then pure ""
        else ImportTable.resolve (f.qualifier ++ ".") f.imports >>= fun q =>
          pure (Text.trimSuffix q "."))
      (fun T => qualifierWith T f)
      (fun T => [(if (qualifierWith T f).isEmpty then "" else qualifierWith T f ++ ".").toList]) := by
  by_cases bare : f.qualifier.isEmpty = true
  · rw [if_pos bare]
    exact ((Qualifies.pure "").value_of fun T => by simp [qualifierWith, bare]).uses_of
      fun _ _ _ ⟨_, absent, _⟩ => absurd absent List.not_mem_nil
  · rw [if_neg bare]
    refine (((resolve_qualifies _ _).bind fun q => Qualifies.pure (Text.trimSuffix q ".")).value_of
      fun T => by simp [qualifierWith, bare]).uses_of ?_
    intro T q nonempty ⟨s, used, occurs⟩
    simp only [List.append_nil, List.mem_singleton] at used
    rw [used] at occurs
    refine ⟨_, List.mem_singleton_self _, ?_⟩
    simpa [qualifierWith, bare] using occurs_trimmed nonempty occurs

/-- Resolving a fact, with the qualifier of its call as one step. -/
theorem resolveFact_eq (f : Fact) : resolveFact f =
    f.params.mapM (fun p => ImportTable.resolve p.type f.imports >>= fun ty =>
        pure { p with type := ty }) >>= fun ps =>
      f.results.mapM (fun r => ImportTable.resolve r f.imports) >>= fun rs =>
      (if f.qualifier.isEmpty then pure ""
        else ImportTable.resolve (f.qualifier ++ ".") f.imports >>= fun q =>
          pure (Text.trimSuffix q ".")) >>= fun q =>
      resolveTypeParams f.typeParams f.imports >>= fun tps =>
      pure { f with imports := [], params := ps, results := rs, qualifier := q
                    typeParams := tps } := by
  unfold resolveFact
  by_cases bare : f.qualifier.isEmpty = true <;> simp [bare]

/-- Resolving a fact while the table is built gives the fact resolved against the final table;
each import it adds is used in a text of the resolved fact. -/
theorem resolveFact_qualifies (f : Fact) :
    Qualifies (resolveFact f) (fun T => factWith T f)
      (fun T => ((factWith T f).printedTexts ++
        (factWith T f).typeParams.map (·.constraint)).map String.toList) := by
  have params := Qualifies.mapM f.params fun p _ =>
    (resolve_qualifies p.type f.imports).bind fun ty => Qualifies.pure { p with type := ty }
  have results := Qualifies.mapM f.results fun r _ => resolve_qualifies r f.imports
  rw [resolveFact_eq]
  refine ((params.bind fun ps => results.bind fun rs => (qualifierStep_qualifies f).bind fun q =>
    (resolveTypeParams_qualifies f.typeParams f.imports).bind fun tps =>
      Qualifies.pure { f with imports := [], params := ps, results := rs, qualifier := q
                              typeParams := tps }).value_of fun T => rfl).uses_of ?_
  intro T q _ ⟨s, used, occurs⟩
  refine ⟨s, ?_, occurs⟩
  simp only [typeParamsWith, List.append_nil, List.mem_append, List.mem_flatMap,
    List.mem_map, List.mem_singleton] at used
  simp only [factWith, Fact.printedTexts, typeParamsWith, List.map_append, List.map_map,
    List.mem_append, List.mem_map, List.mem_singleton, Function.comp_def]
  -- each text the steps used is a printed text or a constraint of the resolved fact
  rcases used with ⟨p, mem, rfl⟩ | ⟨r, mem, rfl⟩ | rfl | ⟨_, ⟨tp, mem, rfl⟩, rfl⟩
  · exact .inl (.inl (.inl ⟨p, mem, rfl⟩))
  · exact .inl (.inl (.inr ⟨r, mem, rfl⟩))
  · exact .inl (.inr ⟨_, rfl, rfl⟩)
  · exact .inr ⟨tp, mem, rfl⟩

/-- Resolving a unit while the table is built gives the unit resolved against the final table;
each import it adds is used in a printed text or a lifted constraint of the resolved unit. -/
theorem resolveUnit_qualifies (u : WrapUnit) :
    Qualifies (resolveUnit u) (fun T => resolvedUnit T u)
      (fun T => ((resolvedUnit T u).printedTexts ++
        (resolvedUnit T u).liftedConstraints).map String.toList) := by
  have typeParams := resolveTypeParams_qualifies u.target.typeParams u.target.imports
  have embeds := Qualifies.mapM u.target.embeds fun e _ => resolve_qualifies e u.target.imports
  have facts := Qualifies.mapM u.facts fun f _ => resolveFact_qualifies f
  unfold resolveUnit
  refine ((typeParams.bind fun tps => embeds.bind fun es => facts.bind fun fs =>
    Qualifies.pure (⟨{ u.target with typeParams := tps, embeds := es }, fs⟩ : WrapUnit)).value_of
      fun T => rfl).uses_of ?_
  intro T q _ ⟨s, used, occurs⟩
  refine ⟨s, ?_, occurs⟩
  simp only [List.append_nil, List.mem_append, List.mem_flatMap, List.mem_map,
    List.mem_singleton] at used
  simp only [resolvedUnit, WrapUnit.printedTexts, WrapUnit.liftedConstraints, List.map_append,
    List.mem_append, List.mem_map, List.mem_flatMap]
  -- the target's texts, then each fact's printed texts or constraints
  rcases used with ⟨tp, mem, rfl⟩ | ⟨e, mem, rfl⟩ | ⟨f, mem, text, printed | ⟨tp, mem', rfl⟩, rfl⟩
  · exact .inl (.inl (.inl ⟨_, ⟨tp, mem, rfl⟩, rfl⟩))
  · exact .inl (.inl (.inr ⟨_, ⟨e, mem, rfl⟩, rfl⟩))
  · exact .inl (.inr ⟨text, ⟨_, ⟨f, mem, rfl⟩, printed⟩, rfl⟩)
  · exact .inr ⟨_, ⟨_, ⟨f, mem, rfl⟩, tp, mem', rfl⟩, rfl⟩

theorem resolveUnits_qualifies (units : List WrapUnit) :
    Qualifies (units.mapM resolveUnit) (fun T => units.map (resolvedUnit T))
      (fun T => units.flatMap fun u =>
        ((resolvedUnit T u).printedTexts ++ (resolvedUnit T u).liftedConstraints).map String.toList) :=
  Qualifies.mapM units fun u _ => resolveUnit_qualifies u

/-! ### Naming parameters -/

/-- Renaming parameters keeps their types. -/
theorem renameParams_types (reserved : List String) :
    ∀ (taken : List String) (i : Nat) (ps : List Param),
      (renameParams reserved taken i ps).map (·.type) = ps.map (·.type)
  | _, _, [] => rfl
  | taken, i, p :: ps => by
    unfold renameParams
    dsimp only
    split
    · simp only [List.map_cons, renameParams_types reserved taken (i + 1) ps]
    · simp only [List.map_cons, renameParams_types reserved _ (i + 1) ps]

theorem printedTexts_normalized (f : Fact) (reserved : List String) :
    Fact.printedTexts { f with params := normalizeParams f.params reserved } = f.printedTexts := by
  simp only [Fact.printedTexts, normalizeParams, renameParams_types]

/-- Naming the parameters changes no text in which an import is used. -/
theorem usedTexts_emittedUnit (T : ImportTable) (u : WrapUnit) :
    (emittedUnit T u).printedTexts ++ (emittedUnit T u).liftedConstraints =
      (resolvedUnit T u).printedTexts ++ (resolvedUnit T u).liftedConstraints := by
  simp only [emittedUnit, WrapUnit.printedTexts, WrapUnit.liftedConstraints, List.flatMap_map,
    printedTexts_normalized]

/-! ### The generated file -/

/-- **Emitted code is well scoped.** A request without a unit that has facts emits nothing.
Otherwise there is one import table `T` of the file: of the request's package, with the
request's reserved names, and sound (one import per package, never the file's own, each under a
qualifier of its own that is neither empty, nor `_`, nor reserved). Emission then fails only
when the file does not format; when it does, the file imports exactly `T`'s packages, its units
are the non-empty units asked for, in order, each resolved against `T`, and every import has
its qualifier in a printed text or a lifted constraint of some unit. -/
theorem emit_well_scoped (fileName : String) (req : EmitRequest) :
    (req.nonEmptyUnits = [] ∧ emit fileName req = .ok none) ∨
      (req.nonEmptyUnits ≠ [] ∧ ∃ T : ImportTable,
        T.self = req.pkgPath ∧ T.reserved = reservedNames req.nonEmptyUnits req.declared ∧
        T.Sound ∧
        ((∃ msg, emit fileName req =
            .error (generateFailure "wrappers" fileName "format" (some (.plain msg)))) ∨
          ∃ a : Artifact, emit fileName req = .ok (some a) ∧ a.imports = T.specs ∧
            a.units = req.nonEmptyUnits.map (emittedUnit T) ∧
            ∀ e ∈ T.entries, ∃ u ∈ a.units, ∃ s ∈ u.printedTexts ++ u.liftedConstraints,
              Occurs e.qualifier s.toList)) := by
  have units : (req.units.filterMap id).filter (fun u => !u.facts.isEmpty) = req.nonEmptyUnits :=
    rfl
  by_cases empty : req.nonEmptyUnits = []
  · refine .inl ⟨empty, ?_⟩
    unfold emit
    dsimp only
    rw [units, empty]
    rfl
  · refine .inr ⟨empty, ?_⟩
    let start : ImportTable := { self := req.pkgPath,
                                 reserved := reservedNames req.nonEmptyUnits req.declared }
    obtain ⟨sound, extended, later⟩ :=
      resolveUnits_qualifies req.nonEmptyUnits start (ImportTable.Sound.start _ _)
    obtain ⟨resolved, used⟩ := later _ (.refl _)
    refine ⟨_, extended.self.symm, extended.reserved.symm, sound, ?_⟩
    unfold emit
    dsimp only
    rw [units, if_neg (by simpa using empty)]
    generalize (req.nonEmptyUnits.mapM resolveUnit).run start = result at resolved used
    obtain ⟨units', table⟩ := result
    dsimp only at resolved used ⊢
    split
    · exact .inl ⟨_, rfl⟩
    · refine .inr ⟨_, rfl, rfl, ?_, ?_⟩
      · rw [resolved, List.map_map]
        rfl
      · -- an import is used in a text of the unit it was added for
        intro e mem
        rcases used e mem with absent | ⟨s, text, occurs⟩
        · exact absurd absent List.not_mem_nil
        obtain ⟨u, mem_u, text⟩ := List.mem_flatMap.1 text
        obtain ⟨s', text', rfl⟩ := List.mem_map.1 text
        refine ⟨emittedUnit table u, ?_, s', ?_, occurs⟩
        · rw [resolved, List.map_map]
          exact List.mem_map_of_mem mem_u
        · rwa [usedTexts_emittedUnit]

section Discovered

open StaticWrap.Discover StaticWrap.GoSource

/-- A package whose type `Box` is marked for wrapping, in a file that imports `example.com/zq`
and names it in its factory's constraint only inside a struct tag. Discovery reads constraints
as source text: the type's tag keeps a quoted path, the factory's gets a placeholder, and the
factory lifts by canonical text. The package's one site is the bare marker, and the unit it hands
on resolves to an import of `example.com/zq` that no printed text uses. -/
theorem lifted_constraint_import_unprinted :
    let tree : Disk.Tree := { root := "/r", files := [("/r/lib/box.go", "package lib\n\n" ++
      "import \"example.com/zq\"\n\n//mockable::static\n" ++
      "type Box[T ~struct\x7b F int `\"example.com/zq\".x` \x7d] struct\x7b\x7d\n\n" ++
      "func NewBox[T ~struct\x7b F int `zq.x` \x7d]() Box[T] \x7b\n\treturn Box[T]\x7b\x7d\n\x7d\n")] }
    let bare (sf : SourceFile) (box : Ident) typeParams typeExpr (c : Comment) : Found :=
      ⟨sf, box.name, typeParams, typeExpr, locationOf sf c.pos,
        ⟨.static, [], locationOf sf c.pos, c.text⟩⟩
    (∀ sf box typeParams typeExpr c, c.text = "//mockable::static" →
      (Site.type sf box typeParams typeExpr [c]).verdict =
        .marker (bare sf box typeParams typeExpr c)) ∧
    (match readPackageFiles tree [] "/r/lib" with
      | .ok (files, name) =>
        let src : PackageSource := ⟨"/r/lib", name, "example.com/lib", files⟩
        match sites src with
        | [.type sf box typeParams typeExpr [c]] =>
          let units := ((({} : Discoverer).handedOn (Walk.externalResolver tree []) src
            [bare sf box typeParams typeExpr c]).foldl Handed.collect {}).units
          let T := ((units.mapM resolveUnit).run
            { self := src.pkgPath, reserved := reservedNames units (declaredNames files) }).2
          decide (c.text = "//mockable::static" ∧
            (∀ u ∈ units, ∀ f ∈ u.facts, f.liftsOnto u.target) ∧
            ∃ e ∈ T.entries, e.path = "example.com/zq" ∧
              ∀ u ∈ units, ∀ s ∈ (resolvedUnit T u).printedTexts, ¬Occurs e.qualifier s.toList)
        | _ => false
      | .error _ => false) = true := by
  intro tree bare
  -- the marker's verdict sorts the schema's parameters, which the kernel does not evaluate
  refine ⟨fun sf box typeParams typeExpr c bareText => ?_, by decide +kernel⟩
  simp [Site.verdict, bare, bareText, Marker.readMarker_bare]

end Discovered

end StaticWrap.Generate
