import StaticWrap.Discover.TypeText
import StaticWrap.Proofs.Model.Renumbering
import StaticWrap.Proofs.Generate.Shadowing
import StaticWrap.Proofs.Model.References
/-!
**Which qualifiers the type text encodes.**

The text of a type is encoded on its printed form, not on its syntax: a qualifier is whatever
the pattern `(^|[^\w.$])([A-Za-z_]\w*)\.` finds, an ASCII identifier followed by a dot, at the
start of the text or after a character that is not a word character, a dot or a dollar sign.
Matches are taken from the left and do not overlap.

* `Renamed rename atStart s s'`: `s'` is `s` with each qualifier the pattern finds replaced by
  `rename` of its identifier; `Renamed.unique`: at most one such text.
* `qualifyChars_renamed`: the encoding is the renaming that writes an import's placeholder,
  numbered by the position of the import's path in the final references;
  `Renamed.resolved`: decoding it with a qualifier function is the renaming by that function,
  when the text holds no dollar sign.
* `qualifiers_follow_the_text_pattern`: so for the text of a type, and
  `qualifier_pattern_reads_text`: a name that merely ends in an import's name is encoded as
  that import.
-/

namespace StaticWrap.Discover

open StaticWrap.GoSource StaticWrap.Model
open StaticWrap.Render (digitsOf afterDigits resolveChars_plain resolveChars_unknown)
open StaticWrap.Generate (isAsciiDigit_of_mem_toDigits digitsValue_toDigits)

/-! ### The pattern -/

/-- A character after which a qualifier may start: not a word character, a dot or a dollar
sign. -/
def opensQualifier (c : Char) : Bool := !(isWordChar c || c == '.' || c == '$')

/-- An ASCII identifier: a letter or an underscore, then word characters. -/
def IsIdent (ident : List Char) : Prop :=
  ∃ c rest, ident = c :: rest ∧ isIdentStart c = true ∧ ∀ d ∈ rest, isWordChar d = true

/-- The pattern matches at the front of `l`: an identifier and its dot at the start of the
text, or a character that opens a qualifier followed by an identifier and its dot. -/
def StartsQualifier (atStart : Bool) (l : List Char) : Prop :=
  (atStart = true ∧ ∃ ident after, IsIdent ident ∧ l = ident ++ '.' :: after) ∨
    ∃ c ident after, opensQualifier c = true ∧ IsIdent ident ∧ l = c :: (ident ++ '.' :: after)

/-- `Renamed rename atStart s s'`: `s'` is `s` with every match of the pattern, taken from the
left, replaced by `rename ident` (the text written for `ident.`, dot included) after the
character that opened it; `atStart` tells that `s` starts the whole text. -/
inductive Renamed (rename : List Char → List Char) : Bool → List Char → List Char → Prop
  | nil {atStart : Bool} : Renamed rename atStart [] []
  | leading {ident after out : List Char} (isIdent : IsIdent ident)
      (rest : Renamed rename false after out) :
      Renamed rename true (ident ++ '.' :: after) (rename ident ++ out)
  | opened {atStart : Bool} {c : Char} {ident after out : List Char}
      (opens : opensQualifier c = true) (isIdent : IsIdent ident)
      (rest : Renamed rename false after out) :
      Renamed rename atStart (c :: (ident ++ '.' :: after)) (c :: (rename ident ++ out))
  | kept {atStart : Bool} {c : Char} {s out : List Char}
      (noMatch : ¬ StartsQualifier atStart (c :: s)) (rest : Renamed rename false s out) :
      Renamed rename atStart (c :: s) (c :: out)

theorem isWordChar_of_isIdentStart {c : Char} (start : isIdentStart c = true) :
    isWordChar c = true := by
  simp only [isIdentStart, isWordChar, Char.isAlphanum, Bool.or_eq_true] at start ⊢
  rcases start with alpha | underscore
  · exact .inl (.inl alpha)
  · exact .inr underscore

theorem IsIdent.word {ident : List Char} (isIdent : IsIdent ident) :
    ∀ d ∈ ident, isWordChar d = true := by
  obtain ⟨c, rest, rfl, start, word⟩ := isIdent
  intro d mem
  rcases List.mem_cons.1 mem with rfl | inRest
  · exact isWordChar_of_isIdentStart start
  · exact word d inRest

theorem ne_dollar_of_isWordChar {d : Char} (word : isWordChar d = true) : d ≠ '$' := by
  rintro rfl
  exact absurd word (by decide)

theorem drop_takeWhile_length {α : Type} (p : α → Bool) (l : List α) :
    l.drop (l.takeWhile p).length = l.dropWhile p := by
  have split := @List.takeWhile_append_dropWhile _ p l
  calc l.drop (l.takeWhile p).length
      = (l.takeWhile p ++ l.dropWhile p).drop (l.takeWhile p).length := by rw [split]
    _ = l.dropWhile p := List.drop_left

/-- An identifier is the whole run of word characters before its dot. -/
theorem takeWhile_ident_dot {ident : List Char} (isIdent : IsIdent ident) (t : List Char) :
    (ident ++ '.' :: t).takeWhile isWordChar = ident := by
  rw [List.takeWhile_append_of_pos isIdent.word]
  simp [isWordChar]

/-- An identifier and its dot split a text one way only. -/
theorem IsIdent.split_unique {ident ident' after after' : List Char} (isIdent : IsIdent ident)
    (isIdent' : IsIdent ident') (same : ident ++ '.' :: after = ident' ++ '.' :: after') :
    ident = ident' ∧ after = after' := by
  have idents : ident = ident' := by
    rw [← takeWhile_ident_dot isIdent after, same, takeWhile_ident_dot isIdent' after']
  subst idents
  exact ⟨rfl, by simpa using same⟩

/-- A character that opens a qualifier starts no identifier. -/
theorem IsIdent.head_not_opens {ident after rest : List Char} {c : Char} (isIdent : IsIdent ident)
    (same : ident ++ '.' :: after = c :: rest) : opensQualifier c = false := by
  obtain ⟨d, tail, rfl, start, -⟩ := isIdent
  obtain ⟨rfl, -⟩ := List.cons.inj same
  simp [opensQualifier, isWordChar_of_isIdentStart start]

/-- The scanner's test for a qualifier is the pattern's: an identifier followed by a dot. -/
theorem identDot_eq_some_iff {l ident after : List Char} :
    identDot l = some (ident, after) ↔ IsIdent ident ∧ l = ident ++ '.' :: after := by
  constructor
  · intro found
    cases l with
    | nil => cases found
    | cons c rest =>
      dsimp only [identDot] at found
      split at found
      · cases found
      · rename_i start
        split at found
        · rename_i tail dropped
          cases found
          have word : isWordChar c = true :=
            isWordChar_of_isIdentStart (by simpa using start)
          -- the run of word characters, then the dot
          have whole := @List.takeWhile_append_dropWhile _ isWordChar (c :: rest)
          rw [← drop_takeWhile_length, dropped] at whole
          refine ⟨⟨c, rest.takeWhile isWordChar, ?_, by simpa using start, ?_⟩, whole.symm⟩
          · simp [word]
          · exact fun d mem => List.all_eq_true.1 List.all_takeWhile d mem
        · cases found
  · rintro ⟨isIdent, rfl⟩
    obtain ⟨c, rest, rfl, start, word⟩ := isIdent
    have taken := takeWhile_ident_dot ⟨c, rest, rfl, start, word⟩ after
    unfold identDot
    rw [taken]
    simp [start]

theorem identDot_eq_none_iff {l : List Char} :
    identDot l = none ↔ ∀ ident after, ¬ (IsIdent ident ∧ l = ident ++ '.' :: after) := by
  constructor
  · intro none ident after decomposed
    rw [identDot_eq_some_iff.2 decomposed] at none
    cases none
  · intro noMatch
    cases found : identDot l with
    | none => rfl
    | some p => exact absurd (identDot_eq_some_iff.1 found) (noMatch p.1 p.2)

/-! ### The renaming is unique -/

section Unique

variable {rename : List Char → List Char}

theorem StartsQualifier.leading {ident after : List Char} (isIdent : IsIdent ident) :
    StartsQualifier true (ident ++ '.' :: after) :=
  .inl ⟨rfl, ident, after, isIdent, rfl⟩

theorem StartsQualifier.opened {atStart : Bool} {c : Char} {ident after : List Char}
    (opens : opensQualifier c = true) (isIdent : IsIdent ident) :
    StartsQualifier atStart (c :: (ident ++ '.' :: after)) :=
  .inr ⟨c, ident, after, opens, isIdent, rfl⟩

/-- What a renaming of a text can be: one case for each rule, read off the text. -/
theorem Renamed.cases {atStart : Bool} {s t : List Char} (renamed : Renamed rename atStart s t) :
    (s = [] ∧ t = []) ∨
    (∃ ident after out, atStart = true ∧ IsIdent ident ∧ Renamed rename false after out ∧
      s = ident ++ '.' :: after ∧ t = rename ident ++ out) ∨
    (∃ c ident after out, opensQualifier c = true ∧ IsIdent ident ∧
      Renamed rename false after out ∧ s = c :: (ident ++ '.' :: after) ∧
      t = c :: (rename ident ++ out)) ∨
    (∃ c s' out, ¬ StartsQualifier atStart (c :: s') ∧ Renamed rename false s' out ∧
      s = c :: s' ∧ t = c :: out) := by
  cases renamed with
  | nil => exact .inl ⟨rfl, rfl⟩
  | leading isIdent rest => exact .inr (.inl ⟨_, _, _, rfl, isIdent, rest, rfl, rfl⟩)
  | opened opens isIdent rest => exact .inr (.inr (.inl ⟨_, _, _, _, opens, isIdent, rest, rfl, rfl⟩))
  | kept noMatch rest => exact .inr (.inr (.inr ⟨_, _, _, noMatch, rest, rfl, rfl⟩))

/-- **One renaming.** The pattern's matches are fixed by the text, so a text has at most one
renaming. -/
theorem Renamed.unique {atStart : Bool} {s t t' : List Char} (first : Renamed rename atStart s t)
    (second : Renamed rename atStart s t') : t = t' := by
  induction first generalizing t' with
  | nil =>
    rcases second.cases with ⟨-, rfl⟩ | ⟨_, _, _, -, -, -, same, -⟩ |
        ⟨_, _, _, _, -, -, -, same, -⟩ | ⟨_, _, _, -, -, same, -⟩ <;> simp_all
  | @leading ident after out isIdent _ ih =>
    rcases second.cases with ⟨same, -⟩ | ⟨ident', after', out', -, isIdent', rest', same, rfl⟩ |
        ⟨c', ident', after', out', opens', -, -, same, -⟩ | ⟨c', s', out', noMatch', -, same, -⟩
    · simp at same
    · obtain ⟨rfl, rfl⟩ := isIdent.split_unique isIdent' same
      rw [ih rest']
    · rw [isIdent.head_not_opens same] at opens'
      cases opens'
    · exact absurd (same ▸ StartsQualifier.leading isIdent) noMatch'
  | @opened atStart c ident after out opens isIdent _ ih =>
    rcases second.cases with ⟨same, -⟩ | ⟨ident', after', out', -, isIdent', -, same, -⟩ |
        ⟨c', ident', after', out', -, isIdent', rest', same, rfl⟩ |
        ⟨c', s', out', noMatch', -, same, -⟩
    · simp at same
    · rw [isIdent'.head_not_opens same.symm] at opens
      cases opens
    · obtain ⟨rfl, tails⟩ := List.cons.inj same
      obtain ⟨rfl, rfl⟩ := isIdent.split_unique isIdent' tails
      rw [ih rest']
    · exact absurd (same ▸ StartsQualifier.opened opens isIdent) noMatch'
  | @kept atStart c s out noMatch _ ih =>
    rcases second.cases with ⟨same, -⟩ | ⟨ident', after', out', rfl, isIdent', -, same, -⟩ |
        ⟨c', ident', after', out', opens', isIdent', -, same, -⟩ |
        ⟨c', s', out', -, rest', same, rfl⟩
    · simp at same
    · exact absurd (same ▸ StartsQualifier.leading isIdent') noMatch
    · exact absurd (same ▸ StartsQualifier.opened opens' isIdent') noMatch
    · obtain ⟨rfl, rfl⟩ := List.cons.inj same
      rw [ih rest']

end Unique

/-! ### Encoding -/

/-- The text written for a qualifier `ident.` against the final references: the placeholder
of the first reference with the path of the import `ident` names, or the qualifier itself when
`ident` names no import. -/
def encodedQualifier (imports : List (String × PackageRef)) (refs : List PackageRef)
    (ident : List Char) : List Char :=
  match imports.find? (·.1 == String.ofList ident) with
  | some (_, ref) => (placeholder (refs.findIdx (·.path == ref.path))).toList ++ ['.']
  | none => ident ++ ['.']

/-- One qualifier: the references only grow, and the text written is the encoded qualifier
against every later list. -/
theorem qualifierFor_encoded (imports : List (String × PackageRef)) (ident : List Char)
    (refs : List PackageRef) :
    refs <+: (qualifierFor refText imports ident refs).2 ∧
      ∀ later, (qualifierFor refText imports ident refs).2 <+: later →
        (qualifierFor refText imports ident refs).1 = encodedQualifier imports later ident := by
  unfold qualifierFor encodedQualifier
  cases imports.find? (·.1 == String.ofList ident) with
  | none => exact ⟨List.prefix_refl refs, fun _ _ => rfl⟩
  | some entry =>
    refine ⟨(addRef_index refs entry.2 (List.prefix_refl _)).1, fun later extends_ => ?_⟩
    dsimp only
    rw [(addRef_index refs entry.2 extends_).2]
    rfl

/-- The identifier is at least one character long, so the rest after its dot is shorter than
the text. -/
theorem length_after_lt {ident after : List Char} (isIdent : IsIdent ident) :
    after.length + 1 < (ident ++ '.' :: after).length := by
  obtain ⟨c, rest, rfl, -, -⟩ := isIdent
  simp only [List.cons_append, List.length_cons, List.length_append]
  omega

/-- **The scan is the pattern.** Run with enough fuel from any references, the scan only adds
references, and writes the renaming of its text that puts, for each import it meets, the
placeholder of that import's path in every later list of references. -/
theorem qualifyChars_renamed (imports : List (String × PackageRef)) :
    ∀ (n : Nat) (cs : List Char) (atStart : Bool) (refs : List PackageRef), cs.length ≤ n →
      refs <+: (qualifyChars refText imports n cs atStart refs).2 ∧
        ∀ later, (qualifyChars refText imports n cs atStart refs).2 <+: later →
          Renamed (encodedQualifier imports later) atStart cs
            (qualifyChars refText imports n cs atStart refs).1
  | 0, [], _, refs, _ => ⟨List.prefix_refl refs, fun _ _ => .nil⟩
  | 0, _ :: _, _, _, fuel => absurd fuel (by simp)
  | _ + 1, [], _, refs, _ => ⟨List.prefix_refl refs, fun _ _ => .nil⟩
  | n + 1, c :: rest, atStart, refs, fuel => by
    -- the text after a qualifier is shorter than the text, so the fuel left covers it
    have fuelAfter : ∀ {after : List Char}, after.length + 1 < (c :: rest).length →
        after.length ≤ n := fun shorter => by
      simp only [List.length_cons] at shorter fuel
      omega
    match found : (if atStart then identDot (c :: rest) else none) with
    | some (ident, after) =>
      have atFront : atStart = true ∧ identDot (c :: rest) = some (ident, after) := by
        cases atStart <;> simp_all
      obtain ⟨rfl, dotted⟩ := atFront
      obtain ⟨isIdent, split⟩ := identDot_eq_some_iff.1 dotted
      obtain ⟨grow, written⟩ := qualifierFor_encoded imports ident refs
      obtain ⟨grow', tail⟩ := qualifyChars_renamed imports n after false
        (qualifierFor refText imports ident refs).2 (fuelAfter (split ▸ length_after_lt isIdent))
      simp only [qualifyChars, ↓reduceIte, dotted]
      refine ⟨grow.trans grow', fun later extends_ => ?_⟩
      have leading := Renamed.leading isIdent (tail later extends_)
      rw [← written later (grow'.trans extends_)] at leading
      rw [split]
      exact leading
    | none =>
      -- no match at the start: the pattern can only match after `c`
      have notLeading : ¬ (atStart = true ∧ ∃ ident after, IsIdent ident ∧
          c :: rest = ident ++ '.' :: after) := by
        rintro ⟨rfl, ident, after, decomposed⟩
        rw [if_pos rfl, identDot_eq_some_iff.2 decomposed] at found
        cases found
      by_cases opens : opensQualifier c = true
      · have opens' : (!(isWordChar c || c == '.' || c == '$')) = true := opens
        cases dotted : identDot rest with
        | some p =>
          obtain ⟨isIdent, split⟩ := identDot_eq_some_iff.1 dotted
          obtain ⟨grow, written⟩ := qualifierFor_encoded imports p.1 refs
          obtain ⟨grow', tail⟩ := qualifyChars_renamed imports n p.2 false
            (qualifierFor refText imports p.1 refs).2 (fuelAfter (by
              have shorter := @length_after_lt _ p.2 isIdent
              rw [← split] at shorter
              simp only [List.length_cons]
              omega))
          simp only [qualifyChars, found, opens', dotted, if_true]
          refine ⟨grow.trans grow', fun later extends_ => ?_⟩
          have opened : Renamed _ atStart _ _ := .opened opens isIdent (tail later extends_)
          rw [← written later (grow'.trans extends_)] at opened
          rw [split]
          exact opened
        | none =>
          obtain ⟨grow, tail⟩ := qualifyChars_renamed imports n rest false refs (by simpa using fuel)
          simp only [qualifyChars, found, opens', dotted, if_true]
          refine ⟨grow, fun later extends_ => .kept ?_ (tail later extends_)⟩
          rintro (leading | ⟨c', ident, after, -, isIdent, split⟩)
          · exact notLeading leading
          · obtain ⟨rfl, tails⟩ := List.cons.inj split
            exact identDot_eq_none_iff.1 dotted ident after ⟨isIdent, tails⟩
      · have closed : (!(isWordChar c || c == '.' || c == '$')) = false := Bool.eq_false_iff.2 opens
        obtain ⟨grow, tail⟩ := qualifyChars_renamed imports n rest false refs (by simpa using fuel)
        simp only [qualifyChars, found, closed]
        refine ⟨grow, fun later extends_ => .kept ?_ (tail later extends_)⟩
        rintro (leading | ⟨c', ident, after, opens', -, split⟩)
        · exact notLeading leading
        · obtain ⟨rfl, -⟩ := List.cons.inj split
          exact opens opens'

/-! ### Decoding -/

/-- The text written for a qualifier `ident.` once the placeholders of its encoding are
resolved by `q`: the qualifier `q` gives the first reference with the path of the import
`ident` names and a dot, or nothing for an empty qualifier; a placeholder that names no
reference, and a name that stands for no import, stay as they are. -/
def resolvedQualifier (imports : List (String × PackageRef)) (refs : List PackageRef)
    (q : PackageRef → String) (ident : List Char) : List Char :=
  match imports.find? (·.1 == String.ofList ident) with
  | some (_, ref) =>
    match refs[refs.findIdx (·.path == ref.path)]? with
    | some r => if (q r).isEmpty then [] else (q r).toList ++ ['.']
    | none => (placeholder (refs.findIdx (·.path == ref.path))).toList ++ ['.']
  | none => ident ++ ['.']

section Decoding

variable (refs : List PackageRef) (q : PackageRef → String)

/-- A text without a dollar sign does not start with one. -/
theorem head_not_dollar {c : Char} {u : List Char} (noDollar : '$' ∉ c :: u) :
    (c == '$') = false := by
  simpa using fun same : c = '$' => noDollar (same ▸ List.mem_cons_self)

/-- Text without a dollar sign resolves to itself. -/
theorem resolveChars_append_of_no_dollar :
    ∀ {u : List Char}, '$' ∉ u → ∀ t : List Char,
      Id.run (resolveChars refs (fun r => pure (q r)) (u ++ t)) =
        u ++ Id.run (resolveChars refs (fun r => pure (q r)) t)
  | [], _, _ => rfl
  | c :: u, noDollar, t => by
    rw [List.cons_append, resolveChars_plain refs _ (.inl (head_not_dollar noDollar))]
    exact congrArg (c :: ·)
      (resolveChars_append_of_no_dollar (fun mem => noDollar (List.mem_cons_of_mem c mem)) t)

/-- The characters of a placeholder followed by its dot. -/
theorem placeholder_dot_toList (k : Nat) (t : List Char) :
    (placeholder k).toList ++ '.' :: t = '$' :: (Nat.toDigits 10 k ++ '.' :: t) := by
  simp [placeholder, String.toList_append, Nat.toString_eq_repr, Nat.toList_repr]

/-- A placeholder and its dot resolve to the qualifier of the reference they name, or stay
when they name none. -/
theorem resolveChars_placeholder_dot (k : Nat) (t : List Char) :
    Id.run (resolveChars refs (fun r => pure (q r)) ((placeholder k).toList ++ '.' :: t)) =
      (match refs[k]? with
        | some r => if (q r).isEmpty then [] else (q r).toList ++ ['.']
        | none => (placeholder k).toList ++ ['.']) ++
        Id.run (resolveChars refs (fun r => pure (q r)) t) := by
  have digits : ∀ d ∈ Nat.toDigits 10 k, isAsciiDigit d = true :=
    fun _ mem => isAsciiDigit_of_mem_toDigits mem
  have value : digitsValue (Nat.toDigits 10 k) = k := digitsValue_toDigits k
  rw [placeholder_dot_toList]
  cases found : refs[k]? with
  | some r =>
    rw [resolveChars_placeholder_at refs _ digits (Nat.toDigits_ne_nil) (by rw [value, found])]
    rfl
  | none =>
    have opens : (!(digitsOf (Nat.toDigits 10 k ++ '.' :: t)).isEmpty &&
        (afterDigits (Nat.toDigits 10 k ++ '.' :: t)).head? == some '.') = true := by
      simp [digitsOf_placeholder digits, afterDigits_placeholder digits, Nat.toDigits_ne_nil]
    rw [resolveChars_unknown refs _ opens (by rw [digitsOf_placeholder digits, value, found]),
      afterDigits_placeholder digits, digitsOf_placeholder digits]
    simp [placeholder_dot_toList]

theorem resolveChars_encodedQualifier (imports : List (String × PackageRef)) {ident : List Char}
    (isIdent : IsIdent ident) (t : List Char) :
    Id.run (resolveChars refs (fun r => pure (q r)) (encodedQualifier imports refs ident ++ t)) =
      resolvedQualifier imports refs q ident ++
        Id.run (resolveChars refs (fun r => pure (q r)) t) := by
  unfold encodedQualifier resolvedQualifier
  cases imports.find? (·.1 == String.ofList ident) with
  | some entry =>
    dsimp only
    rw [List.append_assoc, List.singleton_append, resolveChars_placeholder_dot]
  | none =>
    dsimp only
    have noDollar : '$' ∉ ident ++ ['.'] := by
      simp only [List.mem_append, List.mem_singleton, not_or]
      exact ⟨fun mem => ne_dollar_of_isWordChar (isIdent.word _ mem) rfl, by decide⟩
    rw [resolveChars_append_of_no_dollar refs q noDollar]

/-- **Decoding undoes the numbering.** When the text has no dollar sign, resolving the
placeholders of its encoding by `q` gives the renaming of the text by `q`. -/
theorem Renamed.resolved (imports : List (String × PackageRef)) {atStart : Bool}
    {s t : List Char} (encoded : Renamed (encodedQualifier imports refs) atStart s t)
    (noDollar : '$' ∉ s) :
    Renamed (resolvedQualifier imports refs q) atStart s
      (Id.run (resolveChars refs (fun r => pure (q r)) t)) := by
  induction encoded with
  | nil =>
    have empty : Id.run (resolveChars refs (fun r => pure (q r)) []) = [] := by
      simp [resolveChars]
    rw [empty]
    exact .nil
  | leading isIdent _ ih =>
    rw [resolveChars_encodedQualifier refs q imports isIdent]
    exact .leading isIdent (ih fun mem => noDollar (by simp [mem]))
  | @opened _ c _ _ _ opens isIdent _ ih =>
    rw [resolveChars_plain refs _ (.inl (head_not_dollar noDollar))]
    show Renamed _ _ _ (c :: Id.run (resolveChars refs _ (encodedQualifier imports refs _ ++ _)))
    rw [resolveChars_encodedQualifier refs q imports isIdent]
    exact .opened opens isIdent (ih fun mem => noDollar (by simp [mem]))
  | @kept _ c _ _ noMatch _ ih =>
    rw [resolveChars_plain refs _ (.inl (head_not_dollar noDollar))]
    exact .kept noMatch (ih fun mem => noDollar (List.mem_cons_of_mem c mem))

end Decoding

/-! ### The text of a type -/

/-- **The qualifiers of a type's text are the pattern's.** The text of a type is its printed
form with every match of the pattern whose identifier names an import written as the
placeholder of the import's path in the references the scan leaves, which only grow; and,
when the printed form has no dollar sign, resolving the placeholders by any qualifier function
gives the printed form with each such qualifier renamed by it. -/
theorem qualifiers_follow_the_text_pattern (lines : Lines) (imports : List (String × PackageRef))
    (e : Expr) (refs : List PackageRef) :
    let printed := (printExprText lines e).toList
    let result := (typeText lines imports e).run refs
    refs <+: result.2 ∧
      (∀ t, Renamed (encodedQualifier imports result.2) true printed t ↔ t = result.1.toList) ∧
      ('$' ∉ printed → ∀ (q : PackageRef → String) t,
        Renamed (resolvedQualifier imports result.2 q) true printed t ↔
          t = (Id.run (resolveQualifiers result.1 result.2 fun r => pure (q r))).toList) := by
  intro printed result
  have scan := qualifyChars_renamed imports (printExprText lines e).length printed true refs
    (Nat.le_of_eq String.length_toList)
  have text : result = (String.ofList (qualifyChars refText imports (printExprText lines e).length
      printed true refs).1, (qualifyChars refText imports (printExprText lines e).length
      printed true refs).2) := rfl
  rw [text]
  obtain ⟨grow, encoded⟩ := scan
  have renamed := encoded _ (List.prefix_refl _)
  refine ⟨grow, fun t => ⟨fun other => ?_, fun same => ?_⟩, fun noDollar q t => ⟨fun other => ?_,
    fun same => ?_⟩⟩
  · rw [String.toList_ofList]
    exact other.unique renamed
  · rw [same, String.toList_ofList]
    exact renamed
  · rw [← (renamed.resolved _ q imports noDollar).unique other]
    simp [resolveQualifiers]
  · rw [same]
    simpa [resolveQualifiers] using renamed.resolved _ q imports noDollar

/-- The encoding at one type, `*io.Reader`: its printed form has no dollar sign, and resolving
its placeholder by any qualifier that keeps the package's name gives the printed form back. -/
theorem io_reader_resolves_to_itself :
    '$' ∉ (printExprText (Lines.ofText "") (.star 1 (.selector (.ident ⟨2, "io"⟩) ⟨5, "Reader"⟩))).toList ∧
      Renamed (resolvedQualifier [("io", ⟨"io", "io"⟩)] [⟨"io", "io"⟩] (·.name)) true
        "*io.Reader".toList "*io.Reader".toList := by
  have printed : printExprText (Lines.ofText "")
      (.star 1 (.selector (.ident ⟨2, "io"⟩) ⟨5, "Reader"⟩)) = "*io.Reader" := by decide +kernel
  have noDollar : '$' ∉ (printExprText (Lines.ofText "")
      (.star 1 (.selector (.ident ⟨2, "io"⟩) ⟨5, "Reader"⟩))).toList := by
    rw [printed]
    decide
  have scanned : (typeText (Lines.ofText "") [("io", ⟨"io", "io"⟩)]
      (.star 1 (.selector (.ident ⟨2, "io"⟩) ⟨5, "Reader"⟩))).run [] =
      ("*$0.Reader", [⟨"io", "io"⟩]) :=
    (by decide +kernel : Id.run ((typeText (Lines.ofText "") [("io", ⟨"io", "io"⟩)]
      (.star 1 (.selector (.ident ⟨2, "io"⟩) ⟨5, "Reader"⟩))).run []) =
      ("*$0.Reader", [⟨"io", "io"⟩]))
  have pattern := (qualifiers_follow_the_text_pattern (Lines.ofText "") [("io", ⟨"io", "io"⟩)]
    (.star 1 (.selector (.ident ⟨2, "io"⟩) ⟨5, "Reader"⟩)) []).2.2 noDollar (·.name)
    "*io.Reader".toList
  rw [printed, scanned] at pattern
  exact ⟨noDollar, pattern.2 (by decide +kernel)⟩

/-- **The pattern reads text, not syntax.** In a file that imports `strings` as `éfmt` and also
`fmt`, the type `éfmt.T` is encoded as `é` followed by the placeholder of `fmt`: the pattern's
identifiers are ASCII, so it finds `fmt.` inside the name `éfmt`. -/
theorem qualifier_pattern_reads_text :
    Id.run ((typeText (Lines.ofText "") [("fmt", ⟨"fmt", "fmt"⟩), ("éfmt", ⟨"strings", ""⟩)]
      (.selector (.ident ⟨1, "éfmt"⟩) ⟨6, "T"⟩)).run []) = ("é$0.T", [⟨"fmt", "fmt"⟩]) := by
  decide +kernel

end StaticWrap.Discover
