import Mathlib.Data.List.Nodup
import StaticWrap.Render.Imports
/-!
**Qualifying placeholders against one import table.**

A generated file resolves its placeholders while it builds its import table: the first use of a
package adds its import, and every use after that reads the qualifier back. So what a text is
resolved to depends on the table at the time only through the imports already there, and those
never change once added. Every resolved text is therefore the text resolved against the final
table, whatever was resolved after it.

* `ImportTable.Extends`: a later table of the same file. `ImportTable.Sound`: each import has
  its own path, outside the file's package, and its own qualifier, neither empty nor `_` nor
  reserved.
* `Qualifies m value uses`: run from a sound table, `m` leaves a sound table extending it; its
  result is `value T` for every later table `T`, and each import it adds has its qualifier,
  followed by a dot, in one of the texts `uses T`. The predicate is closed under `pure`, `>>=`,
  `<$>` and `List.mapM` (`Qualifies.bind`, `Qualifies.mapM`).
* `qualify_qualifies`, `resolve_qualifies`: the table's own steps. A new qualifier is always
  available: the numbered names tried are more than the names they can clash with
  (`exists_available_numbered`).
-/

namespace StaticWrap.Render

open StaticWrap.Model

/-! ### Resolving against a fixed table -/

/-- The qualifier a table gives a package: nothing for the file's own package and for an empty
path, else the qualifier of the package's import. -/
def ImportTable.qualifierOf (t : ImportTable) (ref : PackageRef) : String :=
  if ref.path.isEmpty || ref.path == t.self then ""
  else
    match t.entries.find? (·.path == ref.path) with
    | some e => e.qualifier
    | none => ""

/-- Characters with their placeholders replaced by the qualifiers of a fixed table. -/
def ImportTable.resolveList (t : ImportTable) (refs : List PackageRef) (l : List Char) :
    List Char :=
  Id.run (resolveChars refs (fun ref => pure (t.qualifierOf ref)) l)

/-- A text with its placeholders replaced by the qualifiers of a fixed table. -/
def ImportTable.resolveText (t : ImportTable) (text : String) (refs : List PackageRef) : String :=
  String.ofList (t.resolveList refs text.toList)

/-- A later table of the same file: the same package and reserved names, and the imports of the
first followed by more. -/
structure ImportTable.Extends (t T : ImportTable) : Prop where
  self : t.self = T.self
  reserved : t.reserved = T.reserved
  entries : t.entries <+: T.entries

theorem ImportTable.Extends.refl (t : ImportTable) : t.Extends t := ⟨rfl, rfl, List.prefix_refl _⟩

theorem ImportTable.Extends.trans {t t' T : ImportTable} (first : t.Extends t')
    (second : t'.Extends T) : t.Extends T :=
  ⟨first.self.trans second.self, first.reserved.trans second.reserved,
    first.entries.trans second.entries⟩

/-- An import found in a table is found in every later table. -/
theorem ImportTable.Extends.find? {t T : ImportTable} (later : t.Extends T) {path : String}
    {e : ImportEntry} (found : t.entries.find? (·.path == path) = some e) :
    T.entries.find? (·.path == path) = some e := by
  obtain ⟨rest, extended⟩ := later.entries
  rw [← extended, List.find?_append, found]
  rfl

/-- What every table of a file keeps: one import per path, never of the file's own package,
and one qualifier per import, neither empty nor `_` nor reserved. -/
structure ImportTable.Sound (t : ImportTable) : Prop where
  paths : (t.entries.map (·.path)).Nodup
  outside : ∀ e ∈ t.entries, e.path ≠ "" ∧ e.path ≠ t.self
  qualifiers : (t.entries.map (·.qualifier)).Nodup
  available : ∀ e ∈ t.entries, e.qualifier ≠ "" ∧ e.qualifier ≠ "_" ∧ e.qualifier ∉ t.reserved

/-- A file's table before any import is sound. -/
theorem ImportTable.Sound.start (self : String) (reserved : List String) :
    ({ self, reserved } : ImportTable).Sound :=
  ⟨List.nodup_nil, fun _ absent => absurd absent List.not_mem_nil, List.nodup_nil,
    fun _ absent => absurd absent List.not_mem_nil⟩

/-- The qualifier, followed by a dot, stands in the text. -/
def Occurs (q : String) (s : List Char) : Prop := q.toList ++ ['.'] <:+: s

instance (q : String) (s : List Char) : Decidable (Occurs q s) :=
  inferInstanceAs (Decidable (q.toList ++ ['.'] <:+: s))

/-! ### Steps that qualify -/

/-- Run from a sound table, the step leaves a sound table extending it; its result is `value T`
for every later table `T`, and every import it adds has its qualifier in one of the texts
`uses T`. -/
def Qualifies {α : Type} (m : StateM ImportTable α) (value : ImportTable → α)
    (uses : ImportTable → List (List Char)) : Prop :=
  ∀ t : ImportTable, t.Sound →
    (m.run t).2.Sound ∧ t.Extends (m.run t).2 ∧
      ∀ T, (m.run t).2.Extends T →
        (m.run t).1 = value T ∧
          ∀ e ∈ (m.run t).2.entries, e ∈ t.entries ∨ ∃ s ∈ uses T, Occurs e.qualifier s

section Qualifies

variable {α β : Type}

theorem Qualifies.pure (a : α) : Qualifies (Pure.pure a) (fun _ => a) (fun _ => []) :=
  fun t sound => ⟨sound, .refl t, fun _ _ => ⟨rfl, fun _ mem => .inl mem⟩⟩

/-- A sequence qualifies with the value of its second step at the value of the first, and uses
the texts of both. -/
theorem Qualifies.bind {m : StateM ImportTable α} {k : α → StateM ImportTable β}
    {f : ImportTable → α} {g : α → ImportTable → β} {u : ImportTable → List (List Char)}
    {v : α → ImportTable → List (List Char)} (first : Qualifies m f u)
    (rest : ∀ a, Qualifies (k a) (g a) (v a)) :
    Qualifies (m >>= k) (fun T => g (f T) T) (fun T => u T ++ v (f T) T) := by
  intro t sound
  have run : (m >>= k).run t = (k (m.run t).1).run (m.run t).2 := rfl
  rw [run]
  obtain ⟨sound₁, extends₁, later₁⟩ := first t sound
  obtain ⟨sound₂, extends₂, later₂⟩ := rest (m.run t).1 (m.run t).2 sound₁
  refine ⟨sound₂, extends₁.trans extends₂, fun T final => ?_⟩
  obtain ⟨value₁, added₁⟩ := later₁ T (extends₂.trans final)
  obtain ⟨value₂, added₂⟩ := later₂ T final
  dsimp only
  refine ⟨by rw [← value₁]; exact value₂, fun e mem => ?_⟩
  rcases added₂ e mem with old | ⟨s, used, occurs⟩
  · rcases added₁ e old with older | ⟨s, used, occurs⟩
    · exact .inl older
    · exact .inr ⟨s, List.mem_append_left _ used, occurs⟩
  · rw [← value₁]
    exact .inr ⟨s, List.mem_append_right _ used, occurs⟩

theorem Qualifies.map {m : StateM ImportTable α} {f : ImportTable → α}
    {u : ImportTable → List (List Char)} (h : α → β) (first : Qualifies m f u) :
    Qualifies (h <$> m) (fun T => h (f T)) u := by
  intro t sound
  have run : (h <$> m).run t = (h (m.run t).1, (m.run t).2) := rfl
  rw [run]
  obtain ⟨sound', extended, later⟩ := first t sound
  exact ⟨sound', extended, fun T final => ⟨congrArg h (later T final).1, (later T final).2⟩⟩

/-- The texts a step uses may be traded for texts in which each qualifier still stands. -/
theorem Qualifies.uses_of {m : StateM ImportTable α} {f : ImportTable → α}
    {u u' : ImportTable → List (List Char)} (first : Qualifies m f u)
    (moved : ∀ T q, q ≠ "" → (∃ s ∈ u T, Occurs q s) → ∃ s ∈ u' T, Occurs q s) :
    Qualifies m f u' := by
  intro t sound
  obtain ⟨sound', extended, later⟩ := first t sound
  refine ⟨sound', extended, fun T final => ⟨(later T final).1, fun e mem => ?_⟩⟩
  rcases (later T final).2 e mem with old | used
  · exact .inl old
  · exact .inr (moved T e.qualifier (sound'.available e mem).1 used)

theorem Qualifies.value_of {m : StateM ImportTable α} {f f' : ImportTable → α}
    {u : ImportTable → List (List Char)} (first : Qualifies m f u) (same : ∀ T, f T = f' T) :
    Qualifies m f' u := by
  have : f = f' := funext same
  exact this ▸ first

/-- Qualifying each element of a list qualifies the list, with the texts of every element. -/
theorem Qualifies.mapM {F : β → StateM ImportTable α} {f : β → ImportTable → α}
    {u : β → ImportTable → List (List Char)} :
    ∀ (xs : List β), (∀ x ∈ xs, Qualifies (F x) (f x) (u x)) →
      Qualifies (xs.mapM F) (fun T => xs.map (f · T)) (fun T => xs.flatMap (u · T))
  | [], _ => Qualifies.pure []
  | x :: xs, each => by
    rw [List.mapM_cons]
    have rest := Qualifies.mapM xs fun y mem => each y (List.mem_cons_of_mem _ mem)
    refine (((each x List.mem_cons_self).bind fun a =>
      rest.bind fun as => Qualifies.pure (a :: as)).value_of fun T => rfl).uses_of ?_
    intro T q _ ⟨s, used, occurs⟩
    exact ⟨s, by simpa [List.flatMap_cons] using used, occurs⟩

end Qualifies

/-! ### A new qualifier is available -/

theorem toString_injective {m n : Nat} (same : toString m = toString n) : m = n := by
  have digits : Nat.toDigits 10 m = Nat.toDigits 10 n := by
    rw [← Nat.toList_repr, ← Nat.toList_repr, ← Nat.toString_eq_repr, ← Nat.toString_eq_repr,
      same]
  rw [← Nat.ofDigitChars_ten_toDigits (n := m), digits, Nat.ofDigitChars_ten_toDigits]

/-- A numbered name is never empty nor `_`. -/
theorem numbered_ne (name : String) (n : Nat) :
    name ++ toString n ≠ "" ∧ name ++ toString n ≠ "_" := by
  have digits : (name ++ toString n).toList = name.toList ++ Nat.toDigits 10 n := by
    rw [String.toList_append, Nat.toString_eq_repr, Nat.toList_repr]
  refine ⟨fun empty => ?_, fun underscore => ?_⟩
  · have := congrArg String.toList empty
    rw [digits] at this
    exact Nat.toDigits_ne_nil (List.append_eq_nil_iff.1 this).2
  · have := congrArg String.toList underscore
    rw [digits] at this
    rcases List.append_eq_singleton_iff.1 this with ⟨_, last⟩ | ⟨_, none⟩
    · exact Nat.underscore_not_in_toDigits (last ▸ List.mem_singleton_self '_')
    · exact Nat.toDigits_ne_nil none

/-- A name is available when it is neither empty nor `_`, nor reserved, nor a qualifier yet. -/
theorem ImportTable.available_iff (t : ImportTable) (name : String) :
    t.available name = true ↔
      name ≠ "" ∧ name ≠ "_" ∧ name ∉ t.reserved ∧ name ∉ t.entries.map (·.qualifier) := by
  simp [ImportTable.available, ImportTable.isQualifier, and_assoc]

/-- A name that is not available is empty, `_`, reserved or a qualifier already. -/
theorem mem_of_not_available {t : ImportTable} {name : String} (taken : t.available name = false)
    (nonempty : name ≠ "") (plain : name ≠ "_") :
    name ∈ t.reserved ++ t.entries.map (·.qualifier) := by
  have := mt (t.available_iff name).2 (by simp [taken])
  simp only [not_and, Classical.not_not] at this
  rcases Classical.em (name ∈ t.reserved) with reserved | free
  · exact List.mem_append_left _ reserved
  · exact List.mem_append_right _ (this nonempty plain free)

/-- Among as many numbered names as there are names to clash with, plus one, one is free. -/
theorem exists_available_numbered (t : ImportTable) (name : String) (i : Nat) :
    ∃ k < t.entries.length + t.reserved.length + 1, t.available (name ++ toString (i + k)) := by
  apply Classical.byContradiction
  intro none_free
  have taken : ∀ k < t.entries.length + t.reserved.length + 1,
      t.available (name ++ toString (i + k)) = false := fun k lt => by
    simpa using fun free => none_free ⟨k, lt, free⟩
  -- the candidates are distinct, and all of them stand among the names they clash with
  have distinct : ((List.range (t.entries.length + t.reserved.length + 1)).map
      fun k => name ++ toString (i + k)).Nodup := by
    refine List.Nodup.map (fun a b same => ?_) List.nodup_range
    have digits := congrArg String.toList same
    simp only [String.toList_append] at digits
    have := toString_injective (String.toList_inj.1 (List.append_cancel_left digits))
    omega
  have within : ((List.range (t.entries.length + t.reserved.length + 1)).map
      fun k => name ++ toString (i + k)) ⊆ t.reserved ++ t.entries.map (·.qualifier) := by
    intro c mem
    obtain ⟨k, lt, rfl⟩ := List.mem_map.1 mem
    obtain ⟨nonempty, plain⟩ := numbered_ne name (i + k)
    exact mem_of_not_available (taken k (List.mem_range.1 lt)) nonempty plain
  have := distinct.length_le_of_subset within
  simp only [List.length_map, List.length_range, List.length_append] at this
  omega

theorem available_numberedAlias (t : ImportTable) (name : String) :
    ∀ fuel i, (∃ k < fuel, t.available (name ++ toString (i + k))) →
      t.available (numberedAlias t name fuel i)
  | 0, _, ⟨_, lt, _⟩ => absurd lt (Nat.not_lt_zero _)
  | fuel + 1, i, ⟨k, lt, free⟩ => by
    unfold numberedAlias
    dsimp only
    split
    · assumption
    · rename_i taken
      -- the first candidate is taken, so the free one comes later
      cases k with
      | zero => exact absurd free (by simpa using taken)
      | succ k =>
        have shifted : i + 1 + k = i + (k + 1) := by omega
        exact available_numberedAlias t name fuel (i + 1) ⟨k, by omega, shifted ▸ free⟩

/-- The qualifier chosen for a new package is available. -/
theorem available_pickAlias (t : ImportTable) (path name : String) :
    t.available (t.pickAlias path name) = true := by
  unfold ImportTable.pickAlias
  split
  · assumption
  · dsimp only
    split
    · rename_i joined
      exact (Bool.and_eq_true_iff.1 joined).2
    · obtain ⟨k, lt, free⟩ := exists_available_numbered t name 2
      exact available_numberedAlias t name _ 2 ⟨k, lt, free⟩

/-! ### The table's own steps -/

/-- An import of a new path outside the file's package, under an available qualifier, keeps a
table sound. -/
theorem ImportTable.Sound.push {t : ImportTable} (sound : t.Sound) (e : ImportEntry)
    (fresh : ∀ e' ∈ t.entries, e'.path ≠ e.path) (outside : e.path ≠ "" ∧ e.path ≠ t.self)
    (free : t.available e.qualifier = true) : { t with entries := t.entries ++ [e] }.Sound := by
  obtain ⟨nonempty, plain, unreserved, unused⟩ := (t.available_iff _).1 free
  refine ⟨?_, ?_, ?_, ?_⟩
  · rw [List.map_append, List.nodup_append]
    refine ⟨sound.paths, List.nodup_singleton _, ?_⟩
    intro a old b new
    obtain ⟨e', mem, rfl⟩ := List.mem_map.1 old
    rw [List.map_singleton, List.mem_singleton] at new
    exact new ▸ fresh e' mem
  · intro e' mem
    rcases List.mem_append.1 mem with old | new
    · exact sound.outside e' old
    · rw [List.mem_singleton.1 new]
      exact outside
  · rw [List.map_append, List.nodup_append]
    refine ⟨sound.qualifiers, List.nodup_singleton _, ?_⟩
    intro a old b new
    rw [List.map_singleton, List.mem_singleton] at new
    rw [new]
    exact fun same => unused (same ▸ old)
  · intro e' mem
    rcases List.mem_append.1 mem with old | new
    · exact sound.available e' old
    · rw [List.mem_singleton.1 new]
      exact ⟨nonempty, plain, unreserved⟩

theorem find?_eq_none_of_prefix_none {t T : ImportTable} {path : String} (newEntry : ImportEntry)
    (grown : t.entries ++ [newEntry] <+: T.entries)
    (missing : t.entries.find? (·.path == path) = none) (named : newEntry.path = path) :
    T.entries.find? (·.path == path) = some newEntry := by
  obtain ⟨rest, extended⟩ := grown
  rw [← extended, List.append_assoc, List.find?_append, missing, Option.none_or,
    List.singleton_append, List.find?_cons, named, beq_self_eq_true]

/-- A new import of a package that is not there yet: the table stays sound, and every later
table gives the package the new qualifier. -/
theorem push_qualifies {t : ImportTable} (sound : t.Sound) {ref : PackageRef} (e : ImportEntry)
    (named : e.path = ref.path) (outside : (ref.path.isEmpty || ref.path == t.self) = false)
    (missing : t.entries.find? (·.path == ref.path) = none)
    (free : t.available e.qualifier = true) :
    let t' : ImportTable := { t with entries := t.entries ++ [e] }
    t'.Sound ∧ t.Extends t' ∧ ∀ T, t'.Extends T →
      e.qualifier = T.qualifierOf ref ∧
        ∀ e' ∈ t'.entries, e' ∈ t.entries ∨
          ∃ s ∈ [(T.qualifierOf ref).toList ++ ['.']], Occurs e'.qualifier s := by
  intro t'
  have grown : t.Extends t' := ⟨rfl, rfl, List.prefix_append _ _⟩
  refine ⟨sound.push e ?_ ?_ free, grown, fun T later => ?_⟩
  · intro e' mem same
    have := List.find?_eq_none.1 missing e' mem
    simp [same, named] at this
  · rw [named]
    simpa using outside
  · have located : T.entries.find? (·.path == ref.path) = some e :=
      find?_eq_none_of_prefix_none e later.entries missing named
    have value : T.qualifierOf ref = e.qualifier := by
      have elsewhere : (ref.path.isEmpty || ref.path == T.self) = false := by
        rw [← (grown.trans later).self]
        exact outside
      simp only [ImportTable.qualifierOf, elsewhere, Bool.false_eq_true, if_false, located]
    refine ⟨value.symm, fun e' mem => ?_⟩
    rcases List.mem_append.1 mem with old | new
    · exact .inl old
    · rw [List.mem_singleton.1 new, value]
      exact .inr ⟨_, List.mem_singleton_self _, List.infix_refl _⟩

/-- Qualifying a package: the qualifier of its import in every later table, used by the
qualifier and its dot. -/
theorem qualify_qualifies (ref : PackageRef) :
    Qualifies (ImportTable.qualify ref) (fun T => T.qualifierOf ref)
      (fun T => [(T.qualifierOf ref).toList ++ ['.']]) := by
  intro t sound
  have run : (ImportTable.qualify ref).run t = ImportTable.qualify ref t := rfl
  rw [run]
  unfold ImportTable.qualify
  by_cases own : (ref.path.isEmpty || ref.path == t.self) = true
  · -- the file's own package, or no package at all
    rw [if_pos own]
    refine ⟨sound, .refl t, fun T later => ⟨?_, fun e mem => .inl mem⟩⟩
    simp only [ImportTable.qualifierOf, ← later.self, own, if_true]
  · rw [if_neg own]
    have outside : (ref.path.isEmpty || ref.path == t.self) = false := by simpa using own
    split
    · -- an import of the path is there already
      rename_i e found
      refine ⟨sound, .refl t, fun T later => ⟨?_, fun e mem => .inl mem⟩⟩
      have elsewhere : (ref.path.isEmpty || ref.path == T.self) = false := by
        rw [← later.self]
        exact outside
      simp only [ImportTable.qualifierOf, elsewhere, Bool.false_eq_true, if_false,
        later.find? found]
    · -- a new import, under an available qualifier
      rename_i found
      exact push_qualifies sound ⟨ref.path, t.pickAlias ref.path
        (if ref.name.isEmpty then guessPackageName ref.path else ref.name), _⟩ rfl outside found
        (available_pickAlias t ref.path _)

/-! ### Resolving a text -/

theorem Occurs.append_left {q : String} {s : List Char} (p : List Char) (occurs : Occurs q s) :
    Occurs q (p ++ s) :=
  occurs.trans (List.suffix_append p s).isInfix

theorem Occurs.append_right {q : String} {s : List Char} (p : List Char) (occurs : Occurs q s) :
    Occurs q (s ++ p) :=
  occurs.trans (List.prefix_append s p).isInfix

/-- No qualifier stands in a lone dot. -/
theorem not_occurs_dot {q : String} (nonempty : q ≠ "") : ¬Occurs q ['.'] := by
  intro occurs
  have length := occurs.length_le
  simp only [List.length_append, List.length_singleton] at length
  have : q.toList = [] := List.eq_nil_of_length_eq_zero (by omega)
  exact nonempty (String.toList_eq_nil_iff.1 this)

/-- A qualifier that stands in a resolved placeholder stands in the resolved text. -/
theorem occurs_placeholder {q q' : String} (nonempty : q ≠ "") (tail : List Char)
    (occurs : Occurs q (q'.toList ++ ['.'])) :
    Occurs q ((if q'.isEmpty then [] else q'.toList ++ ['.']) ++ tail) := by
  split
  · -- an empty qualifier leaves only the dot, where no qualifier stands
    rename_i empty
    rw [String.isEmpty_iff.1 empty, String.toList_empty, List.nil_append] at occurs
    exact absurd occurs (not_occurs_dot nonempty)
  · exact occurs.append_right tail

section Placeholders

variable {m : Type → Type} [Monad m] (refs : List PackageRef) (qualify : PackageRef → m String)

/-- The digits of a placeholder, and what follows them. -/
abbrev digitsOf (rest : List Char) : List Char := rest.takeWhile isAsciiDigit

abbrev afterDigits (rest : List Char) : List Char := rest.drop (digitsOf rest).length

theorem resolveChars_placeholder {rest : List Char} {ref : PackageRef}
    (placeholder : (!(digitsOf rest).isEmpty && (afterDigits rest).head? == some '.') = true)
    (found : refs[digitsValue (digitsOf rest)]? = some ref) :
    resolveChars refs qualify ('$' :: rest) =
      qualify ref >>= fun q => resolveChars refs qualify ((afterDigits rest).drop 1) >>= fun tail =>
        pure ((if q.isEmpty then [] else q.toList ++ ['.']) ++ tail) := by
  rw [resolveChars]
  simp only [beq_self_eq_true, if_true, placeholder, found]

theorem resolveChars_unknown {rest : List Char}
    (placeholder : (!(digitsOf rest).isEmpty && (afterDigits rest).head? == some '.') = true)
    (unknown : refs[digitsValue (digitsOf rest)]? = none) :
    resolveChars refs qualify ('$' :: rest) =
      resolveChars refs qualify ((afterDigits rest).drop 1) >>= fun tail =>
        pure ('$' :: digitsOf rest ++ '.' :: tail) := by
  rw [resolveChars]
  simp only [beq_self_eq_true, if_true, placeholder, unknown]

theorem resolveChars_plain {c : Char} {rest : List Char}
    (plain : (c == '$') = false ∨
      (!(digitsOf rest).isEmpty && (afterDigits rest).head? == some '.') = false) :
    resolveChars refs qualify (c :: rest) = (c :: ·) <$> resolveChars refs qualify rest := by
  rw [resolveChars]
  rcases plain with other | bare
  · simp only [other, Bool.false_eq_true, if_false]
  · split
    · simp only [bare, Bool.false_eq_true, if_false]
    · rfl

end Placeholders

/-- A character that starts no placeholder is kept, before the rest resolved. -/
theorem resolveChars_plain_qualifies (refs : List PackageRef) {c : Char} {rest : List Char}
    (plain : (c == '$') = false ∨
      (!(digitsOf rest).isEmpty && (afterDigits rest).head? == some '.') = false)
    (tail : Qualifies (resolveChars refs ImportTable.qualify rest) (fun T => T.resolveList refs rest)
      (fun T => [T.resolveList refs rest])) :
    Qualifies (resolveChars refs ImportTable.qualify (c :: rest))
      (fun T => T.resolveList refs (c :: rest)) (fun T => [T.resolveList refs (c :: rest)]) := by
  have value : ∀ T : ImportTable, T.resolveList refs (c :: rest) = c :: T.resolveList refs rest :=
    fun T => by
      unfold ImportTable.resolveList
      rw [resolveChars_plain refs _ plain]
      rfl
  rw [resolveChars_plain refs _ plain]
  refine ((tail.map (c :: ·)).value_of fun T => (value T).symm).uses_of ?_
  intro T q _ ⟨s, used, occurs⟩
  refine ⟨_, List.mem_singleton_self _, ?_⟩
  rw [List.mem_singleton.1 used] at occurs
  rw [value]
  exact occurs.append_left [c]

/-- Resolving characters while building the table gives what the final table gives, and each
new import has its qualifier in the result. -/
theorem resolveChars_qualifies (refs : List PackageRef) (l : List Char) :
    Qualifies (resolveChars refs ImportTable.qualify l) (fun T => T.resolveList refs l)
      (fun T => [T.resolveList refs l]) := by
  induction l using resolveChars.induct refs with
  | case1 =>
    have value : ∀ T : ImportTable, T.resolveList refs [] = [] := fun T => by
      unfold ImportTable.resolveList
      rw [resolveChars.eq_1]
      rfl
    rw [resolveChars.eq_1]
    exact ((Qualifies.pure []).value_of fun T => (value T).symm).uses_of
      fun _ _ _ ⟨_, absent, _⟩ => absurd absent List.not_mem_nil
  | case2 c rest dollar digits after placeholder ref found tail =>
    obtain rfl : c = '$' := by simpa using dollar
    have value : ∀ T : ImportTable, T.resolveList refs ('$' :: rest) =
        (if (T.qualifierOf ref).isEmpty then [] else (T.qualifierOf ref).toList ++ ['.']) ++
          T.resolveList refs ((afterDigits rest).drop 1) := fun T => by
      unfold ImportTable.resolveList
      rw [resolveChars_placeholder refs _ placeholder found]
      rfl
    rw [resolveChars_placeholder refs _ placeholder found]
    refine (((qualify_qualifies ref).bind fun q => tail.bind fun rest' =>
      Qualifies.pure ((if q.isEmpty then [] else q.toList ++ ['.']) ++ rest')).value_of
        fun T => (value T).symm).uses_of ?_
    intro T q nonempty ⟨s, used, occurs⟩
    refine ⟨_, List.mem_singleton_self _, ?_⟩
    rw [value]
    simp only [List.mem_append, List.mem_singleton, List.not_mem_nil, or_false] at used
    rcases used with rfl | rfl
    · exact occurs_placeholder nonempty _ occurs
    · exact occurs.append_left _
  | case3 c rest dollar digits after placeholder unknown tail =>
    obtain rfl : c = '$' := by simpa using dollar
    have value : ∀ T : ImportTable, T.resolveList refs ('$' :: rest) =
        '$' :: digitsOf rest ++ '.' :: T.resolveList refs ((afterDigits rest).drop 1) := fun T => by
      unfold ImportTable.resolveList
      rw [resolveChars_unknown refs _ placeholder unknown]
      rfl
    rw [resolveChars_unknown refs _ placeholder unknown]
    refine ((tail.bind fun rest' => Qualifies.pure ('$' :: digitsOf rest ++ '.' :: rest')).value_of
        fun T => (value T).symm).uses_of ?_
    intro T q _ ⟨s, used, occurs⟩
    refine ⟨_, List.mem_singleton_self _, ?_⟩
    rw [value]
    simp only [List.mem_append, List.mem_singleton, List.not_mem_nil, or_false] at used
    subst used
    exact (occurs.append_left ['.']).append_left ('$' :: digitsOf rest)
  | case4 c rest dollar digits after bare tail =>
    exact resolveChars_plain_qualifies refs (.inr (Bool.eq_false_iff.2 bare)) tail
  | case5 c rest other tail =>
    exact resolveChars_plain_qualifies refs (.inl (Bool.eq_false_iff.2 other)) tail

/-- Resolving a text while building the table gives the text resolved against the final table,
and every import it adds has its qualifier in that text. -/
theorem resolve_qualifies (text : String) (refs : List PackageRef) :
    Qualifies (ImportTable.resolve text refs) (fun T => T.resolveText text refs)
      (fun T => [(T.resolveText text refs).toList]) := by
  refine ((resolveChars_qualifies refs text.toList).map String.ofList).uses_of ?_
  intro T q _ found
  simpa only [ImportTable.resolveText, String.toList_ofList] using found

end StaticWrap.Render
