import StaticWrap.Proofs.Render.Qualification
import StaticWrap.Facts.Set
/-!
**Placeholder numbering does not matter.**

A text names other packages through placeholders `$N.`, `N` indexing a list of package
references kept beside it. Two scanners number the same packages differently, so a fact about
`time.Time` may read `$0.Time` against `[time]` or `$1.Time` against `[io, time]`. Resolving the
placeholders with a qualifier that looks only at a package's path gives one text either way:
the scan reads a placeholder as `$`, a run of digits and a dot, it never rescans what it writes,
and renumbering keeps every placeholder where it was.

* `Renumbered refs refs' t t'`: `t'` is `t` with each placeholder `$N.` written `$M.`, where
  `refs[N]` and `refs'[M]` exist and have one path, and every other character kept. A `$` that
  starts no placeholder stays one.
* `resolveChars_renumbered`: resolving a text and its renumbering give the same result.
* `placeholder_numbering_irrelevant`: the same for whole texts, and so for the comparison keys
  built from them: a fact's signature key (and whether a fact set already holds it), the
  canonical form of a type parameter list, and whether a fact lifts onto a target.
-/

namespace StaticWrap.Model

/-- `t'` is `t` with its placeholders renumbered from `refs` into `refs'`: each placeholder
`$N.` of `t` names a reference of `refs` and becomes a placeholder `$M.` naming one of `refs'`
with the same path; every other character is kept. -/
inductive Renumbered (refs refs' : List PackageRef) : List Char → List Char → Prop
  | nil : Renumbered refs refs' [] []
  | placeholder {ds ds' t t' : List Char} {r r' : PackageRef}
      (digits : ∀ d ∈ ds, isAsciiDigit d = true) (nonempty : ds ≠ [])
      (digits' : ∀ d ∈ ds', isAsciiDigit d = true) (nonempty' : ds' ≠ [])
      (found : refs[digitsValue ds]? = some r) (found' : refs'[digitsValue ds']? = some r')
      (samePath : r.path = r'.path) (rest : Renumbered refs refs' t t') :
      Renumbered refs refs' ('$' :: (ds ++ '.' :: t)) ('$' :: (ds' ++ '.' :: t'))
  | plain {c : Char} {t t' : List Char}
      (opensNone : c = '$' →
        (!(t.takeWhile isAsciiDigit).isEmpty &&
          (t.drop (t.takeWhile isAsciiDigit).length).head? == some '.') = false)
      (rest : Renumbered refs refs' t t') :
      Renumbered refs refs' (c :: t) (c :: t')

open StaticWrap.Render (digitsOf afterDigits resolveChars_placeholder resolveChars_plain)

/-! ### Where digits end -/

theorem digitsOf_dollar (t : List Char) : digitsOf ('$' :: t) = [] := by
  simp [digitsOf, isAsciiDigit]

theorem digitsOf_placeholder {ds : List Char} (digits : ∀ d ∈ ds, isAsciiDigit d = true)
    (t : List Char) : digitsOf (ds ++ '.' :: t) = ds := by
  show (ds ++ '.' :: t).takeWhile isAsciiDigit = ds
  rw [List.takeWhile_append_of_pos digits]
  simp [isAsciiDigit]

theorem afterDigits_placeholder {ds : List Char} (digits : ∀ d ∈ ds, isAsciiDigit d = true)
    (t : List Char) : afterDigits (ds ++ '.' :: t) = '.' :: t := by
  simp [afterDigits, digitsOf_placeholder digits]

theorem digitsOf_cons_digit {c : Char} (digit : isAsciiDigit c = true) (t : List Char) :
    digitsOf (c :: t) = c :: digitsOf t := by
  simp [digitsOf, digit]

theorem digitsOf_cons_other {c : Char} (other : isAsciiDigit c = false) (t : List Char) :
    digitsOf (c :: t) = [] := by
  simp [digitsOf, other]

/-- Renumbering keeps whether a text starts with digits and the character after them: a
placeholder starts with `$`, which is no digit, on both sides. -/
theorem Renumbered.digits_head {refs refs' : List PackageRef} {t t' : List Char}
    (renumbered : Renumbered refs refs' t t') :
    (digitsOf t).isEmpty = (digitsOf t').isEmpty ∧
      (afterDigits t).head? = (afterDigits t').head? := by
  induction renumbered with
  | nil => exact ⟨rfl, rfl⟩
  | placeholder =>
    simp [afterDigits, digitsOf_dollar]
  | @plain c t t' _ _ ih =>
    cases digit : isAsciiDigit c
    · simp [afterDigits, digitsOf_cons_other digit]
    · simp only [afterDigits, digitsOf_cons_digit digit, List.isEmpty_cons, List.length_cons,
        List.drop_succ_cons, true_and]
      exact ih.2

theorem Renumbered.opens_eq {refs refs' : List PackageRef} {t t' : List Char}
    (renumbered : Renumbered refs refs' t t') :
    (!(digitsOf t).isEmpty && (afterDigits t).head? == some '.') =
      (!(digitsOf t').isEmpty && (afterDigits t').head? == some '.') := by
  rw [renumbered.digits_head.1, renumbered.digits_head.2]

/-! ### Resolving -/

/-- A qualifier that gives the same for references with one path. -/
def PathOnly {m : Type → Type} (qualify : PackageRef → m String) : Prop :=
  ∀ r r' : PackageRef, r.path = r'.path → qualify r = qualify r'

theorem resolveChars_placeholder_at {m : Type → Type} [Monad m] (refs : List PackageRef)
    (qualify : PackageRef → m String) {ds t : List Char} {r : PackageRef}
    (digits : ∀ d ∈ ds, isAsciiDigit d = true) (nonempty : ds ≠ [])
    (found : refs[digitsValue ds]? = some r) :
    resolveChars refs qualify ('$' :: (ds ++ '.' :: t)) =
      qualify r >>= fun q => resolveChars refs qualify t >>= fun tail =>
        pure ((if q.isEmpty then [] else q.toList ++ ['.']) ++ tail) := by
  have opens : (!(digitsOf (ds ++ '.' :: t)).isEmpty &&
      (afterDigits (ds ++ '.' :: t)).head? == some '.') = true := by
    simp [digitsOf_placeholder digits, afterDigits_placeholder digits, nonempty]
  rw [resolveChars_placeholder refs qualify opens (by rwa [digitsOf_placeholder digits]),
    afterDigits_placeholder digits]
  rfl

/-- **Resolving ignores the numbering.** With a qualifier that looks only at paths, a text and
its renumbering resolve alike. -/
theorem resolveChars_renumbered {m : Type → Type} [Monad m] {refs refs' : List PackageRef}
    {qualify : PackageRef → m String} (pathOnly : PathOnly qualify) {t t' : List Char}
    (renumbered : Renumbered refs refs' t t') :
    resolveChars refs qualify t = resolveChars refs' qualify t' := by
  induction renumbered with
  | nil => simp [resolveChars]
  | placeholder digits nonempty digits' nonempty' found found' samePath _ ih =>
    rw [resolveChars_placeholder_at refs qualify digits nonempty found,
      resolveChars_placeholder_at refs' qualify digits' nonempty' found', pathOnly _ _ samePath, ih]
  | @plain c t t' opensNone rest ih =>
    -- a `$` opens no placeholder on either side, and any other character is plain
    have plainAt : (c == '$') = false ∨
        (!(digitsOf t).isEmpty && (afterDigits t).head? == some '.') = false := by
      by_cases dollar : c = '$'
      · exact .inr (opensNone dollar)
      · exact .inl (by simpa using dollar)
    have plainAt' := plainAt.imp id (rest.opens_eq ▸ ·)
    rw [resolveChars_plain refs qualify plainAt, resolveChars_plain refs' qualify plainAt', ih]

/-- A text with no `$` is its own renumbering. -/
theorem Renumbered.of_plain {refs refs' : List PackageRef} :
    ∀ {t : List Char}, '$' ∉ t → Renumbered refs refs' t t
  | [], _ => .nil
  | c :: t, noDollar => by
    have other : c ≠ '$' := fun same => noDollar (same ▸ List.mem_cons_self)
    exact .plain (fun dollar => absurd dollar other)
      (Renumbered.of_plain fun mem => noDollar (List.mem_cons_of_mem c mem))

/-! ### Texts and the keys built from them -/

/-- Parameter lists alike but for the numbering of their types' placeholders. -/
def ParamsRenumbered (refs refs' : List PackageRef) : List Param → List Param → Prop :=
  List.Forall₂ fun p p' => p.passing = p'.passing ∧ Renumbered refs refs' p.type.toList p'.type.toList

/-- Type parameter lists alike but for the numbering of their constraints' placeholders. -/
def TypeParamsRenumbered (refs refs' : List PackageRef) : List TypeParam → List TypeParam → Prop :=
  List.Forall₂ fun p p' =>
    p.name = p'.name ∧ Renumbered refs refs' p.constraint.toList p'.constraint.toList

theorem resolveQualifiers_renumbered {m : Type → Type} [Monad m] {refs refs' : List PackageRef}
    {qualify : PackageRef → m String} (pathOnly : PathOnly qualify) {t t' : String}
    (renumbered : Renumbered refs refs' t.toList t'.toList) :
    resolveQualifiers t refs qualify = resolveQualifiers t' refs' qualify := by
  unfold resolveQualifiers
  rw [resolveChars_renumbered pathOnly renumbered]

theorem canonicalText_renumbered {refs refs' : List PackageRef} {t t' : String}
    (renumbered : Renumbered refs refs' t.toList t'.toList) :
    canonicalText t refs = canonicalText t' refs' := by
  have quoted : PathOnly fun r : PackageRef => (pure ("\"" ++ r.path ++ "\"") : Id String) :=
    fun r r' same => by dsimp only; rw [same]
  unfold canonicalText
  rw [resolveQualifiers_renumbered quoted renumbered]

/-- A parameter as its fact's key writes it. -/
theorem keyTexts_renumbered {refs refs' : List PackageRef} {ps ps' : List Param}
    (renumbered : ParamsRenumbered refs refs' ps ps') :
    (ps.map fun p =>
        (if p.passing == .variadic then "..." else "") ++ canonicalText p.type refs) =
      ps'.map fun p =>
        (if p.passing == .variadic then "..." else "") ++ canonicalText p.type refs' := by
  induction renumbered with
  | nil => rfl
  | cons same _ ih => rw [List.map_cons, List.map_cons, ih, same.1, canonicalText_renumbered same.2]

theorem key_renumbered {f f' : Fact} (owner : f.owner = f'.owner) (name : f.name = f'.name)
    (params : ParamsRenumbered f.imports f'.imports f.params f'.params) : f.key = f'.key := by
  unfold Fact.key
  rw [owner, name, keyTexts_renumbered params, params.length_eq]

theorem canonicalParams_renumbered {refs refs' : List PackageRef} {tps tps' : List TypeParam}
    (renumbered : TypeParamsRenumbered refs refs' tps tps') :
    canonicalParams tps refs = canonicalParams tps' refs' := by
  induction renumbered with
  | nil => rfl
  | @cons p p' _ _ same _ ih =>
    simp only [canonicalParams, List.map_cons] at ih ⊢
    rw [ih, same.1, canonicalText_renumbered same.2]

/-- **Placeholder numbering is irrelevant.** A text and any renumbering of it resolve alike
under every qualifier that looks only at paths, and so have one canonical text. Hence facts
alike but for numbering have one signature key (a fact set holds the one exactly when it holds
the other), type parameter lists alike but for numbering have one canonical form, and whether a
fact lifts onto a target does not depend on how either was numbered. -/
theorem placeholder_numbering_irrelevant :
    (∀ {m : Type → Type} [Monad m] (refs refs' : List PackageRef)
        (qualify : PackageRef → m String) (t t' : String),
        PathOnly qualify → Renumbered refs refs' t.toList t'.toList →
          resolveQualifiers t refs qualify = resolveQualifiers t' refs' qualify) ∧
      (∀ (refs refs' : List PackageRef) (t t' : String),
        Renumbered refs refs' t.toList t'.toList → canonicalText t refs = canonicalText t' refs') ∧
      (∀ f f' : Fact, f.owner = f'.owner → f.name = f'.name →
        ParamsRenumbered f.imports f'.imports f.params f'.params →
          f.key = f'.key ∧ ∀ s : Facts.FactSet, s.contains f = s.contains f') ∧
      (∀ (refs refs' : List PackageRef) (tps tps' : List TypeParam),
        TypeParamsRenumbered refs refs' tps tps' →
          canonicalParams tps refs = canonicalParams tps' refs') ∧
      (∀ (f f' : Fact) (t t' : Target),
        TypeParamsRenumbered f.imports f'.imports f.typeParams f'.typeParams →
        TypeParamsRenumbered t.imports t'.imports t.typeParams t'.typeParams →
          f.liftsOnto t = f'.liftsOnto t') := by
  refine ⟨fun refs refs' qualify t t' pathOnly renumbered =>
      resolveQualifiers_renumbered pathOnly renumbered,
    fun refs refs' t t' renumbered => canonicalText_renumbered renumbered,
    fun f f' owner name params => ?_,
    fun refs refs' tps tps' renumbered => canonicalParams_renumbered renumbered,
    fun f f' t t' facts targets => ?_⟩
  · have key := key_renumbered owner name params
    exact ⟨key, fun s => by simp only [Facts.FactSet.contains, key]⟩
  · have empty : f.typeParams.isEmpty = f'.typeParams.isEmpty := by
      rw [Bool.eq_iff_iff, List.isEmpty_iff, List.isEmpty_iff, ← List.length_eq_zero_iff,
        ← List.length_eq_zero_iff, facts.length_eq]
    unfold Fact.liftsOnto
    rw [empty, canonicalParams_renumbered facts, canonicalParams_renumbered targets]

/-- `Since(t $0.Time)` against `[time]` and `Since(t $1.Time)` against `[io, time]` have one
key. -/
theorem since_key_ignores_numbering :
    ParamsRenumbered [⟨"time", "time"⟩] [⟨"io", "io"⟩, ⟨"time", "time"⟩]
        [{ name := "t", type := "$0.Time" }] [{ name := "t", type := "$1.Time" }] ∧
      ({ name := "Since", params := [{ name := "t", type := "$0.Time" }],
         imports := [⟨"time", "time"⟩] } : Fact).key =
        ({ name := "Since", params := [{ name := "t", type := "$1.Time" }],
           imports := [⟨"io", "io"⟩, ⟨"time", "time"⟩] } : Fact).key := by
  have time : Renumbered [⟨"time", "time"⟩] [⟨"io", "io"⟩, ⟨"time", "time"⟩]
      "$0.Time".toList "$1.Time".toList :=
    @Renumbered.placeholder _ _ ['0'] ['1'] "Time".toList "Time".toList _ _ (List.all_eq_true.1 rfl)
      (List.cons_ne_nil _ _) (List.all_eq_true.1 rfl) (List.cons_ne_nil _ _) rfl rfl rfl
      (Renumbered.of_plain (by decide))
  have params : ParamsRenumbered [⟨"time", "time"⟩] [⟨"io", "io"⟩, ⟨"time", "time"⟩]
      [{ name := "t", type := "$0.Time" }] [{ name := "t", type := "$1.Time" }] :=
    .cons ⟨rfl, time⟩ .nil
  refine ⟨params, (placeholder_numbering_irrelevant.2.2.1 _ _ ?_ ?_ params).1⟩ <;> rfl

end StaticWrap.Model
