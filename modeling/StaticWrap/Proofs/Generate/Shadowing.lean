import StaticWrap.Proofs.Generate.Scoping
import StaticWrap.Proofs.Render.Renaming
/-!
**Which names a forwarding method's parameters can shadow.**

A forwarding method calls the wrapped function as `qualifier.Name(args)`, or as `Name(args)`
when the function needs no qualifier: a self-wrap fact, or a fact of the receiving package.
The file renames parameters clear of its import qualifiers, taken from the final import table,
after every unit is resolved. So:

* `qualifierWith_placeholder`: a fact qualified by the placeholder of a package is called
  through the table's qualifier of that package, which is an import of the file unless the
  package is the file's own (`qualifierOf_mem`);
* `emittedFact_clear_of_imports`, `emitted_parameters_clear_of_imports`: no parameter of an
  emitted method bears the name of one of the file's imports, so a call through an import is
  never shadowed;
* `self_call_shadowed_by_parameter`: a call without qualifier is not protected. The renaming
  knows only the imports, so `func F(F T)` of a self-wrapped type keeps its parameter `F`, and
  the body `F(F)` calls the parameter.
-/

namespace StaticWrap.Generate

open StaticWrap.Model StaticWrap.Render

/-! ### The qualifier of a call -/

/-- An import's qualifier, as a table gives it to a package, is one of the table's own. -/
theorem qualifierOf_mem {T : ImportTable} {ref : PackageRef} (qualified : T.qualifierOf ref ≠ "") :
    T.qualifierOf ref ∈ T.entries.map (·.qualifier) := by
  unfold ImportTable.qualifierOf at qualified ⊢
  split at qualified
  · exact absurd rfl qualified
  · rw [if_neg ‹_›]
    split at qualified
    · rename_i e found
      exact List.mem_map_of_mem (List.mem_of_find?_eq_some found)
    · exact absurd rfl qualified

theorem isAsciiDigit_of_mem_toDigits {n : Nat} {c : Char} (mem : c ∈ Nat.toDigits 10 n) :
    isAsciiDigit c = true := by
  have digit := Nat.isDigit_of_mem_toDigits (by decide) (by decide) mem
  simpa [isAsciiDigit, Char.isDigit, Char.le_def] using digit

/-- The value of the digits of a number is the number. -/
theorem digitsValue_toDigits (n : Nat) : digitsValue (Nat.toDigits 10 n) = n := by
  have same : digitsValue (Nat.toDigits 10 n) = Nat.ofDigitChars 10 (Nat.toDigits 10 n) 0 := by
    unfold digitsValue Nat.ofDigitChars
    congr 1
    funext sofar c
    rw [Nat.mul_comm]
    rfl
  rw [same, Nat.ofDigitChars_ten_toDigits]

/-- A placeholder followed by its dot resolves to the package's qualifier and a dot, or to
nothing for the file's own package. -/
theorem resolveText_placeholder (T : ImportTable) {refs : List PackageRef} {n : Nat}
    {ref : PackageRef} (found : refs[n]? = some ref) :
    T.resolveText (placeholder n ++ ".") refs =
      String.ofList (if (T.qualifierOf ref).isEmpty then [] else (T.qualifierOf ref).toList ++ ['.']) := by
  have chars : (placeholder n ++ ".").toList = '$' :: (Nat.toDigits 10 n ++ ['.']) := by
    simp [placeholder, String.toList_append, Nat.toString_eq_repr, Nat.toList_repr]
  have digits : digitsOf (Nat.toDigits 10 n ++ ['.']) = Nat.toDigits 10 n := by
    show (Nat.toDigits 10 n ++ ['.']).takeWhile isAsciiDigit = _
    rw [List.takeWhile_append_of_pos fun _ mem => isAsciiDigit_of_mem_toDigits mem]
    simp [isAsciiDigit]
  have after : afterDigits (Nat.toDigits 10 n ++ ['.']) = ['.'] := by
    simp [afterDigits, digits]
  have marked : (!(digitsOf (Nat.toDigits 10 n ++ ['.'])).isEmpty &&
      (afterDigits (Nat.toDigits 10 n ++ ['.'])).head? == some '.') = true := by
    simp [digits, after, Nat.toDigits_ne_nil]
  unfold ImportTable.resolveText ImportTable.resolveList
  rw [chars, resolveChars_placeholder refs _ marked (by rwa [digits, digitsValue_toDigits]), after]
  simp [resolveChars]

/-- **A fact qualified by a placeholder is called through the table's qualifier of its
package.** -/
theorem qualifierWith_placeholder (T : ImportTable) {f : Fact} {n : Nat} {ref : PackageRef}
    (qualified : f.qualifier = placeholder n) (found : f.imports[n]? = some ref) :
    qualifierWith T f = T.qualifierOf ref := by
  have nonempty : f.qualifier.isEmpty = false := by
    simp [qualified, placeholder]
  unfold qualifierWith
  rw [if_neg (by simp [nonempty]), qualified, resolveText_placeholder T found]
  split
  · rename_i empty
    rw [String.isEmpty_iff.1 empty]
    rfl
  · simp [Text.trimSuffix, Text.cutSuffix?, Text.dropPrefix?]

/-! ### The parameters of an emitted method -/

/-- A fact as a file emits it: resolved against the file's table, its parameters named clear
of the table's qualifiers. -/
def emittedFact (T : ImportTable) (f : Fact) : Fact :=
  { factWith T f with params := normalizeParams (factWith T f).params (T.entries.map (·.qualifier)) }

theorem facts_emittedUnit (T : ImportTable) (u : WrapUnit) :
    (emittedUnit T u).facts = u.facts.map (emittedFact T) := by
  simp [emittedUnit, resolvedUnit, emittedFact]

/-- The method emitted for a fact against a table `T`: no parameter bears the name of one of
`T`'s imports, and a call through the placeholder of a package goes through `T`'s qualifier of
it, which is empty (the file's own package) or the qualifier of one of `T`'s imports. -/
theorem emittedFact_clear_of_imports (T : ImportTable) (f : Fact) :
    (∀ p ∈ (emittedFact T f).params, p.name ∉ T.entries.map (·.qualifier)) ∧
      ∀ n ref, f.qualifier = placeholder n → f.imports[n]? = some ref →
        (emittedFact T f).qualifier = T.qualifierOf ref ∧
          (T.qualifierOf ref = "" ∨ T.qualifierOf ref ∈ T.entries.map (·.qualifier)) := by
  refine ⟨fun p mem => normalizeParams_not_reserved _ _ p mem, fun n ref qualified found => ?_⟩
  refine ⟨qualifierWith_placeholder T qualified found, ?_⟩
  by_cases empty : T.qualifierOf ref = ""
  · exact .inl empty
  · exact .inr (qualifierOf_mem empty)

/-- **The parameters of a generated file's methods keep clear of its imports.** A request
without a unit that has facts emits nothing. Otherwise there is one sound import table `T` of
the file; each fact of the request is emitted as `emittedFact T f`, whose parameters bear no
name of `T`'s imports and whose call through the placeholder of a package goes through `T`'s
qualifier of it (empty only for the file's own package); and emission fails only when the file
does not format, and otherwise imports `T`'s packages and emits exactly those units. So a
qualified call always reaches the wrapped function. -/
theorem emitted_parameters_clear_of_imports (fileName : String) (req : EmitRequest) :
    (req.nonEmptyUnits = [] ∧ emit fileName req = .ok none) ∨
      ∃ T : ImportTable, T.Sound ∧
        (∀ u ∈ req.nonEmptyUnits, ∀ f ∈ u.facts,
          (∀ p ∈ (emittedFact T f).params, p.name ∉ T.entries.map (·.qualifier)) ∧
          ∀ n ref, f.qualifier = placeholder n → f.imports[n]? = some ref →
            (emittedFact T f).qualifier = T.qualifierOf ref ∧
              (T.qualifierOf ref = "" ∨ T.qualifierOf ref ∈ T.entries.map (·.qualifier))) ∧
        ((∃ msg, emit fileName req =
            .error (generateFailure "wrappers" fileName "format" (some (.plain msg)))) ∨
          ∃ a, emit fileName req = .ok (some a) ∧ a.imports = T.specs ∧
            a.units = req.nonEmptyUnits.map (emittedUnit T) ∧
            ∀ u ∈ req.nonEmptyUnits, (emittedUnit T u).facts = u.facts.map (emittedFact T)) := by
  rcases emit_well_scoped fileName req with nothing | ⟨_, T, -, -, sound, outcome⟩
  · exact .inl nothing
  refine .inr ⟨T, sound, fun u _ f _ => emittedFact_clear_of_imports T f, ?_⟩
  rcases outcome with failed | ⟨a, produced, imports, units, -⟩
  · exact .inl failed
  · exact .inr ⟨a, produced, imports, units, fun u _ => facts_emittedUnit T u⟩

/-- A method of the file whose call has no qualifier and a parameter named as the function,
found by a check that evaluates. -/
theorem shadowed_call_of_check {r : Except Failure (Option Artifact)}
    (checked : (match r with
      | .ok (some a) => a.units.any fun u => u.facts.any fun f =>
          f.qualifier == "" && f.params.any (·.name == f.name)
      | _ => false) = true) :
    ∃ a, r = .ok (some a) ∧
      ∃ u ∈ a.units, ∃ f ∈ u.facts, f.qualifier = "" ∧ ∃ p ∈ f.params, p.name = f.name := by
  rcases r with _ | _ | a
  · cases checked
  · cases checked
  · exact ⟨a, rfl, by simpa [List.any_eq_true] using checked⟩

/-- A self-wrapped type `T` with the function `func F(F T)`: emission gives a file whose method
calls `F` without a qualifier and keeps the parameter `F`, so the body `F(F)` calls the
parameter. -/
theorem self_call_shadowed_by_parameter :
    ∃ a, emit "" { packageName := "a", pkgPath := "m/a", dir := "a", declared := []
                   units := [some ⟨{ mode := .self, pkgName := "a", pkgPath := "m/a"
                                     typeName := "T", annotatedType := "T" },
                                   [{ name := "F", params := [⟨"F", "T", .plain⟩] }]⟩] } =
        .ok (some a) ∧
      ∃ u ∈ a.units, ∃ f ∈ u.facts, f.qualifier = "" ∧ ∃ p ∈ f.params, p.name = f.name :=
  -- the file is formatted in full, so the kernel evaluates the whole emission once
  shadowed_call_of_check (by decide +kernel)

end StaticWrap.Generate
