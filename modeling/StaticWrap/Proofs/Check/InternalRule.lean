import StaticWrap.Check.ImportPath
import StaticWrap.Proofs.Text.Splitting
/-!
**The internal-package rule, element by element.**

`importable` decides with three tests on the text of the path, in this order: does it end in
`/internal`, where does `/internal/` last occur, does it start with an `internal` element. Read
on the elements of the path (its pieces between slashes), this is: find the last element
`internal` after the first; if there is one, the importer must equal or lie below the path of
the elements before it; if there is none, the path must not start with `internal`.

* `occursAt_intercalate_iff`: in slash-joined pieces, `/w/` occurs exactly at the separators
  before the pieces `w` that are neither first nor last; `slash_piece_suffix_iff` and
  `prefix_intercalate_iff` read the suffix and prefix tests the same way.
* `InternalRule`, `importable_iff_below_last_internal`: the rule on the elements. Since the
  paths of the elements before each `internal` element are nested, lying below the last one is
  lying below them all; but a leading `internal` element is forgiven whenever another one
  follows (`leading_internal_forgiven`).
-/

namespace StaticWrap.Check

open StaticWrap.Text

/-! ### Occurrences -/

/-- `pat` occurs in `l` at the character offset `j`. -/
def OccursAt (pat l : List Char) (j : Nat) : Prop := ∃ u v, l = u ++ pat ++ v ∧ u.length = j

theorem occursAt_zero_iff {pat l : List Char} : OccursAt pat l 0 ↔ pat <+: l := by
  constructor
  · rintro ⟨u, v, rfl, empty⟩
    rw [List.length_eq_zero_iff.1 empty]
    exact ⟨v, by simp⟩
  · rintro ⟨v, rfl⟩
    exact ⟨[], v, by simp, rfl⟩

theorem occursAt_cons_succ {pat l : List Char} {c : Char} {j : Nat} :
    OccursAt pat (c :: l) (j + 1) ↔ OccursAt pat l j := by
  constructor
  · rintro ⟨u, v, split, length⟩
    cases u with
    | nil => cases length
    | cons d u =>
      obtain ⟨-, rest⟩ := List.cons.inj split
      exact ⟨u, v, rest, by simpa using length⟩
  · rintro ⟨u, v, rfl, rfl⟩
    exact ⟨c :: u, v, rfl, rfl⟩

theorem not_occursAt_nil {pat : List Char} (nonempty : pat ≠ []) (j : Nat) :
    ¬ OccursAt pat [] j := by
  rintro ⟨u, v, split, -⟩
  exact nonempty (List.append_eq_nil_iff.1 (List.append_eq_nil_iff.1 split.symm).1).2

/-- An occurrence fits in the text. -/
theorem OccursAt.fits {pat l : List Char} {j : Nat} (occurs : OccursAt pat l j) :
    j + pat.length ≤ l.length := by
  obtain ⟨u, v, rfl, rfl⟩ := occurs
  simp only [List.length_append]
  omega

/-- The search from offset `i` answers `i` plus the first occurrence. -/
theorem findList_eq_some_iff {pat : List Char} (nonempty : pat ≠ []) :
    ∀ (l : List Char) (i r : Nat), findList pat l i = some r ↔
      ∃ j, r = i + j ∧ OccursAt pat l j ∧ ∀ j' < j, ¬ OccursAt pat l j'
  | [], i, r => by
    simp only [findList, List.isEmpty_iff, nonempty, if_false, reduceCtorEq, false_iff, not_exists,
      not_and]
    exact fun j _ occurs => absurd occurs (not_occursAt_nil nonempty j)
  | c :: l, i, r => by
    unfold findList
    by_cases front : (dropPrefix? pat (c :: l)).isSome = true
    · -- the pattern stands at the front: the first occurrence is at 0
      have atFront : OccursAt pat (c :: l) 0 := by
        obtain ⟨rest, found⟩ := Option.isSome_iff_exists.1 front
        exact occursAt_zero_iff.2 ⟨rest, (dropPrefix?_eq_some_iff.1 found).symm⟩
      rw [if_pos front]
      constructor
      · rintro ⟨⟩
        exact ⟨0, rfl, atFront, fun _ below => absurd below (Nat.not_lt_zero _)⟩
      · rintro ⟨j, rfl, -, first⟩
        cases j with
        | zero => rfl
        | succ j => exact absurd atFront (first 0 (Nat.zero_lt_succ j))
    · have notFront : ¬ OccursAt pat (c :: l) 0 := by
        intro occurs
        obtain ⟨rest, whole⟩ := occursAt_zero_iff.1 occurs
        exact front (Option.isSome_iff_exists.2 ⟨rest, dropPrefix?_eq_some_iff.2 whole.symm⟩)
      rw [if_neg front, findList_eq_some_iff nonempty l (i + 1) r]
      constructor
      · rintro ⟨j, rfl, occurs, first⟩
        refine ⟨j + 1, by omega, occursAt_cons_succ.2 occurs, fun j' below => ?_⟩
        cases j' with
        | zero => exact notFront
        | succ j' =>
          exact fun occurs' => first j' (by omega) (occursAt_cons_succ.1 occurs')
      · rintro ⟨j, rfl, occurs, first⟩
        cases j with
        | zero => exact absurd occurs notFront
        | succ j =>
          refine ⟨j, by omega, occursAt_cons_succ.1 occurs, fun j' below occurs' => ?_⟩
          exact first (j' + 1) (by omega) (occursAt_cons_succ.2 occurs')

theorem findList_eq_none_iff {pat : List Char} (nonempty : pat ≠ []) :
    ∀ (l : List Char) (i : Nat), findList pat l i = none ↔ ∀ j, ¬ OccursAt pat l j
  | [], i => by
    simp only [findList, List.isEmpty_iff, nonempty, if_false, true_iff]
    exact not_occursAt_nil nonempty
  | c :: l, i => by
    unfold findList
    by_cases front : (dropPrefix? pat (c :: l)).isSome = true
    · rw [if_pos front]
      obtain ⟨rest, found⟩ := Option.isSome_iff_exists.1 front
      simp only [reduceCtorEq, false_iff]
      exact fun absent => absent 0 (occursAt_zero_iff.2 ⟨rest, (dropPrefix?_eq_some_iff.1 found).symm⟩)
    · rw [if_neg front, findList_eq_none_iff nonempty l (i + 1)]
      constructor
      · intro none j occurs
        cases j with
        | zero =>
          obtain ⟨rest, whole⟩ := occursAt_zero_iff.1 occurs
          exact front (Option.isSome_iff_exists.2 ⟨rest, dropPrefix?_eq_some_iff.2 whole.symm⟩)
        | succ j => exact none j (occursAt_cons_succ.1 occurs)
      · exact fun none j occurs => none (j + 1) (occursAt_cons_succ.2 occurs)

/-- An occurrence read from the back: a pattern occurs in a text where its reverse occurs in the
reversed text, counted from the other end. -/
theorem occursAt_reverse {pat l : List Char} {j : Nat} (occurs : OccursAt pat.reverse l.reverse j) :
    OccursAt pat l (l.length - pat.length - j) := by
  obtain ⟨u, v, split, rfl⟩ := occurs
  have whole : l = v.reverse ++ pat ++ u.reverse := by
    rw [← List.reverse_reverse l, split]
    simp
  refine ⟨v.reverse, u.reverse, whole, ?_⟩
  rw [whole]
  simp only [List.length_append, List.length_reverse]
  omega

theorem occursAt_of_reverse {pat l : List Char} {j : Nat} (occurs : OccursAt pat l j) :
    OccursAt pat.reverse l.reverse (l.length - pat.length - j) := by
  obtain ⟨u, v, rfl, rfl⟩ := occurs
  refine ⟨v.reverse, u.reverse, by simp, ?_⟩
  simp only [List.length_append, List.length_reverse]
  omega

/-- The backward search answers the last occurrence. -/
theorem lastIndexOf?_eq_some {s sub : String} (nonempty : sub.toList ≠ []) {i : Nat}
    (found : lastIndexOf? s sub = some i) :
    OccursAt sub.toList s.toList i ∧ ∀ i', OccursAt sub.toList s.toList i' → i' ≤ i := by
  have nonempty' : sub.toList.reverse ≠ [] := by simpa using nonempty
  unfold lastIndexOf? at found
  obtain ⟨r, search, rfl⟩ := Option.map_eq_some_iff.1 found
  -- the last occurrence is the first one of the reversed text
  obtain ⟨j, rfl, first, earliest⟩ := (findList_eq_some_iff nonempty' _ 0 r).1 search
  have back := occursAt_reverse first
  simp only [String.length_toList, Nat.zero_add] at back earliest ⊢
  refine ⟨back, fun i' occurs => ?_⟩
  have notBefore : j ≤ s.length - sub.length - i' :=
    Nat.le_of_not_lt fun later =>
      earliest _ later (by simpa only [String.length_toList] using occursAt_of_reverse occurs)
  have fits := occurs.fits
  simp only [String.length_toList] at fits
  omega

theorem lastIndexOf?_eq_none {s sub : String} (nonempty : sub.toList ≠ [])
    (absent : lastIndexOf? s sub = none) : ∀ i, ¬ OccursAt sub.toList s.toList i := by
  have nonempty' : sub.toList.reverse ≠ [] := by simpa using nonempty
  unfold lastIndexOf? at absent
  intro i occurs
  exact (findList_eq_none_iff nonempty' _ 0).1 (Option.map_eq_none_iff.1 absent) _
    (occursAt_of_reverse occurs)

/-! ### Slash-joined pieces -/

section Pieces

/-- The pieces carry no slash. -/
def SlashFree (L : List (List Char)) : Prop := ∀ x ∈ L, '/' ∉ x

theorem SlashFree.tail {x : List Char} {L : List (List Char)} (free : SlashFree (x :: L)) :
    SlashFree L :=
  fun y mem => free y (List.mem_cons_of_mem x mem)

theorem intercalate_cons_cons (x y : List Char) (L : List (List Char)) :
    ['/'].intercalate (x :: y :: L) = x ++ '/' :: ['/'].intercalate (y :: L) := by
  rw [List.intercalate_cons_cons, List.append_assoc, List.singleton_append]

/-- Joining two non-empty runs of pieces puts one slash between them. -/
theorem intercalate_append {A B : List (List Char)} (nonemptyA : A ≠ []) (nonemptyB : B ≠ []) :
    ['/'].intercalate (A ++ B) = ['/'].intercalate A ++ '/' :: ['/'].intercalate B := by
  induction A with
  | nil => exact absurd rfl nonemptyA
  | cons x A ih =>
    cases A with
    | nil =>
      obtain ⟨y, B, rfl⟩ := List.exists_cons_of_ne_nil nonemptyB
      simp
    | cons y A =>
      rw [List.cons_append, List.cons_append, intercalate_cons_cons, ← List.cons_append,
        ih (List.cons_ne_nil y A), intercalate_cons_cons]
      simp

/-- Read backwards, slash-joined pieces are the reversed pieces joined in reverse order. -/
theorem reverse_intercalate (L : List (List Char)) :
    (['/'].intercalate L).reverse = ['/'].intercalate (L.reverse.map List.reverse) := by
  induction L with
  | nil => rfl
  | cons x L ih =>
    cases L with
    | nil => simp
    | cons y L =>
      have split : (x :: y :: L).reverse.map List.reverse =
          (y :: L).reverse.map List.reverse ++ [x.reverse] := by simp
      rw [split, intercalate_append (by simp) (List.cons_ne_nil _ _), ← ih, intercalate_cons_cons]
      simp

theorem slashFree_reverse {L : List (List Char)} (free : SlashFree L) :
    SlashFree (L.reverse.map List.reverse) := by
  intro x mem
  obtain ⟨y, inL, rfl⟩ := List.mem_map.1 mem
  simpa using free y (List.mem_reverse.1 inL)

/-- Two slash-free pieces, each followed by a slash, start one another only when they are one
piece. -/
theorem piece_slash_prefix_iff {w x r t : List Char} (wFree : '/' ∉ w) (xFree : '/' ∉ x) :
    w ++ '/' :: r <+: x ++ '/' :: t ↔ w = x ∧ r <+: t := by
  induction w generalizing x with
  | nil =>
    cases x with
    | nil => simp [List.cons_prefix_cons]
    | cons b x =>
      have other : b ≠ '/' := fun same => xFree (same ▸ List.mem_cons_self)
      simp [List.cons_prefix_cons, Ne.symm other]
  | cons a w ih =>
    cases x with
    | nil =>
      have other : a ≠ '/' := fun same => wFree (same ▸ List.mem_cons_self)
      simp [List.cons_prefix_cons, other]
    | cons b x =>
      simp only [List.cons_append, List.cons_prefix_cons, List.cons.injEq]
      rw [ih (fun mem => wFree (List.mem_cons_of_mem a mem))
        (fun mem => xFree (List.mem_cons_of_mem b mem))]
      exact and_assoc.symm

/-- A slash-free piece and a slash start slash-joined pieces exactly when the piece is the
first of several. -/
theorem prefix_intercalate_iff {w : List Char} (wFree : '/' ∉ w) :
    ∀ {L : List (List Char)}, SlashFree L →
      (w ++ ['/'] <+: ['/'].intercalate L ↔ ∃ L', L = w :: L' ∧ L' ≠ [])
  | [], _ => by simp
  | [x], free => by
    rw [List.intercalate_singleton]
    constructor
    · rintro ⟨r, whole⟩
      exact absurd (by rw [← whole]; simp) (free x List.mem_cons_self)
    · rintro ⟨L', same, nonempty⟩
      exact absurd (List.cons.inj same).2.symm nonempty
  | x :: y :: L, free => by
    rw [intercalate_cons_cons, piece_slash_prefix_iff wFree (free x List.mem_cons_self)]
    constructor
    · rintro ⟨rfl, -⟩
      exact ⟨y :: L, rfl, List.cons_ne_nil y L⟩
    · rintro ⟨L', same, -⟩
      exact ⟨(List.cons.inj same).1.symm, List.nil_prefix⟩

/-- Slash-joined pieces and a slash start slash-joined pieces exactly when the first pieces
begin the second, and more follow. -/
theorem joined_prefix_iff : ∀ {G F : List (List Char)}, G ≠ [] → SlashFree G → SlashFree F →
      (['/'].intercalate G ++ ['/'] <+: ['/'].intercalate F ↔ ∃ F', F = G ++ F' ∧ F' ≠ [])
  | [], _, nonempty, _, _ => absurd rfl nonempty
  | [w], F, _, gFree, fFree => by
    simpa using prefix_intercalate_iff (gFree w List.mem_cons_self) fFree
  | _ :: _ :: _, [], _, _, _ => by simp
  | w :: v :: G, [x], _, _, fFree => by
    rw [List.intercalate_singleton]
    constructor
    · intro front
      exact absurd (front.subset (by simp)) (fFree x List.mem_cons_self)
    · rintro ⟨F', same, -⟩
      simp at same
  | w :: v :: G, x :: y :: F, _, gFree, fFree => by
    rw [intercalate_cons_cons, intercalate_cons_cons, List.append_assoc, List.cons_append,
      piece_slash_prefix_iff (gFree w List.mem_cons_self) (fFree x List.mem_cons_self),
      joined_prefix_iff (List.cons_ne_nil v G) gFree.tail fFree.tail]
    simp only [List.cons_append, List.cons.injEq]
    constructor
    · rintro ⟨rfl, F', ⟨rfl, rfl⟩, more⟩
      exact ⟨F', ⟨rfl, rfl, rfl⟩, more⟩
    · rintro ⟨F', ⟨rfl, rfl, rfl⟩, more⟩
      exact ⟨rfl, F', ⟨rfl, rfl⟩, more⟩

/-- A slash and a slash-free piece end slash-joined pieces exactly when the piece is the last of
several. -/
theorem slash_piece_suffix_iff {w : List Char} (wFree : '/' ∉ w) {L : List (List Char)}
    (free : SlashFree L) : '/' :: w <:+ ['/'].intercalate L ↔ ∃ L', L = L' ++ [w] ∧ L' ≠ [] := by
  -- read backwards, this is `prefix_intercalate_iff`
  rw [← List.reverse_prefix, reverse_intercalate, List.reverse_cons,
    prefix_intercalate_iff (by simpa using wFree) (slashFree_reverse free)]
  constructor
  · rintro ⟨L', same, more⟩
    refine ⟨(L'.map List.reverse).reverse, ?_, by simpa using more⟩
    simpa [Function.comp_def] using congrArg (fun M => (M.map List.reverse).reverse) same
  · rintro ⟨L', rfl, more⟩
    exact ⟨(L'.map List.reverse).reverse, by simp, by simpa using more⟩

/-- Slash-joined pieces form a slash-free text only as that one piece. -/
theorem intercalate_eq_piece_iff {w : List Char} (wFree : '/' ∉ w) :
    ∀ {L : List (List Char)}, L ≠ [] → SlashFree L → (['/'].intercalate L = w ↔ L = [w])
  | [], nonempty, _ => absurd rfl nonempty
  | [x], _, _ => by simp
  | x :: y :: L, _, _ => by
    rw [intercalate_cons_cons]
    refine ⟨fun whole => absurd (by rw [← whole]; simp) wFree, fun same => ?_⟩
    cases (List.cons.inj same).2

/-- An occurrence after a first piece of `n` characters. -/
theorem occursAt_append_left {pat r : List Char} :
    ∀ (x : List Char) (k : Nat), OccursAt pat (x ++ r) (x.length + k) ↔ OccursAt pat r k
  | [], k => by simp
  | c :: x, k => by
    rw [List.cons_append, List.length_cons, show x.length + 1 + k = (x.length + k) + 1 by omega,
      occursAt_cons_succ, occursAt_append_left x k]

/-- A pattern that starts with a slash does not start inside a slash-free piece. -/
theorem not_occursAt_in_piece {q x r : List Char} (xFree : '/' ∉ x) :
    ∀ {j : Nat}, j < x.length → ¬ OccursAt ('/' :: q) (x ++ r) j := by
  induction x with
  | nil => exact fun below => absurd below (Nat.not_lt_zero _)
  | cons c x ih =>
    intro j below occurs
    cases j with
    | zero =>
      obtain ⟨t, whole⟩ := occursAt_zero_iff.1 occurs
      exact xFree (by
        have first := (List.cons.inj (whole.trans (List.cons_append ..))).1
        rw [first]
        exact List.mem_cons_self)
    | succ j =>
      exact ih (fun mem => xFree (List.mem_cons_of_mem c mem)) (by simpa using below)
        (occursAt_cons_succ.1 occurs)

/-- A pattern starting with a slash occurs after a slash-free piece and a slash at that slash,
or further on. -/
theorem occursAt_piece_slash_iff {q x t : List Char} (xFree : '/' ∉ x) (j : Nat) :
    OccursAt ('/' :: q) (x ++ '/' :: t) j ↔
      (j = x.length ∧ q <+: t) ∨ ∃ j', j = x.length + 1 + j' ∧ OccursAt ('/' :: q) t j' := by
  rcases Nat.lt_trichotomy j x.length with below | rfl | above
  · refine ⟨fun occurs => absurd occurs (not_occursAt_in_piece xFree below), ?_⟩
    rintro (⟨same, -⟩ | ⟨j', same, -⟩) <;> omega
  · have atSlash := @occursAt_append_left ('/' :: q) ('/' :: t) x 0
    rw [Nat.add_zero, occursAt_zero_iff, List.cons_prefix_cons] at atSlash
    rw [atSlash]
    constructor
    · rintro ⟨-, front⟩
      exact .inl ⟨rfl, front⟩
    · rintro (⟨-, front⟩ | ⟨j', same, -⟩)
      · exact ⟨rfl, front⟩
      · omega
  · obtain ⟨j', rfl⟩ : ∃ j', j = x.length + 1 + j' := ⟨j - x.length - 1, by omega⟩
    rw [show x.length + 1 + j' = x.length + (j' + 1) by omega, occursAt_append_left,
      occursAt_cons_succ]
    constructor
    · exact fun occurs => .inr ⟨j', by omega, occurs⟩
    · rintro (⟨same, -⟩ | ⟨j'', same, occurs⟩)
      · omega
      · rwa [show j' = j'' by omega]

/-- **Where `/w/` occurs in slash-joined pieces:** at the slash before a piece `w` that is
neither the first nor the last, that is at the length of the pieces before it, joined. -/
theorem occursAt_intercalate_iff {w : List Char} (wFree : '/' ∉ w) :
    ∀ {L : List (List Char)}, SlashFree L → ∀ j,
      OccursAt ('/' :: (w ++ ['/'])) (['/'].intercalate L) j ↔
        ∃ m, 1 ≤ m ∧ m + 1 < L.length ∧ L[m]? = some w ∧
          j = (['/'].intercalate (L.take m)).length
  | [], _, j => by
    simp only [List.intercalate_nil, List.length_nil]
    exact ⟨fun occurs => absurd occurs (not_occursAt_nil (List.cons_ne_nil _ _) j),
      fun ⟨m, _, short, _⟩ => absurd short (by omega)⟩
  | [x], free, j => by
    rw [List.intercalate_singleton]
    refine ⟨fun occurs => ?_, fun ⟨m, _, short, _⟩ => absurd short (by simp)⟩
    obtain ⟨u, v, whole, -⟩ := occurs
    exact absurd (by rw [whole]; simp) (free x List.mem_cons_self)
  | x :: y :: L, free, j => by
    rw [intercalate_cons_cons, occursAt_piece_slash_iff (free x List.mem_cons_self),
      prefix_intercalate_iff wFree free.tail]
    constructor
    · rintro (⟨rfl, L', same, more⟩ | ⟨j', rfl, occurs⟩)
      · -- at the first slash: the second piece is `w`, and more follow
        obtain ⟨rfl, rfl⟩ := List.cons.inj same
        refine ⟨1, Nat.le_refl 1, ?_, rfl, by simp⟩
        have := List.length_pos_iff.2 more
        simp only [List.length_cons]
        omega
      · -- further on: a later piece, one further along
        obtain ⟨m, first, short, found, rfl⟩ := (occursAt_intercalate_iff wFree free.tail j').1 occurs
        obtain ⟨m', rfl⟩ : ∃ m', m = m' + 1 := ⟨m - 1, by omega⟩
        refine ⟨m' + 1 + 1, by omega, by simp only [List.length_cons] at short ⊢; omega,
          by simpa using found, ?_⟩
        simp only [List.take_succ_cons, intercalate_cons_cons, List.length_append, List.length_cons]
        omega
    · rintro ⟨m, first, short, found, rfl⟩
      cases m with
      | zero => omega
      | succ m =>
        cases m with
        | zero =>
          refine .inl ⟨by simp, L, ?_, ?_⟩
          · simpa using found
          · rintro rfl
            simp at short
        | succ m =>
          refine .inr ⟨(['/'].intercalate ((y :: L).take (m + 1))).length, ?_,
            (occursAt_intercalate_iff wFree free.tail _).2
              ⟨m + 1, by omega, by simp only [List.length_cons] at short ⊢; omega,
                by simpa using found, rfl⟩⟩
          simp only [List.take_succ_cons, intercalate_cons_cons, List.length_append,
            List.length_cons]
          omega

/-- Joining more of the pieces gives a longer text, strictly so past the first piece. -/
theorem length_intercalate_take_lt (L : List (List Char)) {m m' : Nat} (first : 1 ≤ m)
    (before : m < m') (within : m' ≤ L.length) :
    (['/'].intercalate (L.take m)).length < (['/'].intercalate (L.take m')).length := by
  have split : L.take m' = L.take m ++ (L.drop m).take (m' - m) := by
    rw [← List.take_append_drop m (L.take m'), List.take_take, List.drop_take,
      Nat.min_eq_left (Nat.le_of_lt before)]
  have nonempty : L.take m ≠ [] := by
    simp only [ne_eq, List.take_eq_nil_iff, not_or]
    exact ⟨by omega, by rintro rfl; simp at within; omega⟩
  have more : (L.drop m).take (m' - m) ≠ [] := by
    simp only [ne_eq, List.take_eq_nil_iff, List.drop_eq_nil_iff, not_or]
    omega
  rw [split, intercalate_append nonempty more]
  simp only [List.length_append, List.length_cons]
  omega

end Pieces

/-! ### Paths read as their elements -/

section Elements

theorem map_toList_splitOn (s : String) :
    (splitOn s "/").map String.toList = splitList ['/'] [] s.toList := by
  simp [splitOn_slash, Function.comp_def, String.toList_ofList]

/-- A path is its elements joined by slashes. -/
theorem toList_eq_intercalate (s : String) :
    s.toList = ['/'].intercalate ((splitOn s "/").map String.toList) := by
  rw [map_toList_splitOn, intercalate_splitList (by simp)]
  rfl

theorem slashFree_splitOn (s : String) : SlashFree ((splitOn s "/").map String.toList) := by
  intro x mem
  obtain ⟨e, element, rfl⟩ := List.mem_map.1 mem
  exact splitOn_slash_no_slash s e element

theorem splitOn_ne_nil (s : String) : (splitOn s "/").map String.toList ≠ [] := by
  rw [map_toList_splitOn]
  exact splitList_ne_nil [] s.toList

theorem getElem?_eq_some_iff_toList {E : List String} {k : Nat} {e : String} :
    E[k]? = some e ↔ (E.map String.toList)[k]? = some e.toList := by
  simp [String.toList_inj]

theorem SlashFree.take {L : List (List Char)} (free : SlashFree L) (k : Nat) :
    SlashFree (L.take k) :=
  fun x mem => free x (List.mem_of_mem_take mem)

/-- An importer is the joined pieces `G` or starts with them and a slash exactly when its
elements start with `G`. -/
theorem below_iff_starts {G : List (List Char)} (nonempty : G ≠ []) (free : SlashFree G)
    (importer : String) :
    (importer == String.ofList (['/'].intercalate G) ||
        hasPrefix importer (String.ofList (['/'].intercalate G) ++ "/")) = true ↔
      G <+: (splitOn importer "/").map String.toList := by
  have whole := toList_eq_intercalate importer
  have fFree := slashFree_splitOn importer
  have fNonempty := splitOn_ne_nil importer
  generalize (splitOn importer "/").map String.toList = F at whole fFree fNonempty ⊢
  have same : importer = String.ofList (['/'].intercalate G) ↔ F = G := by
    rw [← String.toList_inj, String.toList_ofList, whole]
    constructor
    · intro joined
      rw [← splitList_slash_intercalate F fNonempty fFree, joined,
        splitList_slash_intercalate G nonempty free]
    · rintro rfl
      rfl
  have below : hasPrefix importer (String.ofList (['/'].intercalate G) ++ "/") = true ↔
      ∃ F', F = G ++ F' ∧ F' ≠ [] := by
    rw [hasPrefix_iff_starts, String.toList_append, String.toList_ofList, whole]
    exact joined_prefix_iff nonempty free fFree
  rw [Bool.or_eq_true, beq_iff_eq, same, below]
  constructor
  · rintro (rfl | ⟨F', rfl, -⟩)
    · exact List.prefix_refl F
    · exact List.prefix_append G F'
  · rintro ⟨F', rfl⟩
    by_cases empty : F' = []
    · exact .inl (by rw [empty, List.append_nil])
    · exact .inr ⟨F', rfl, empty⟩

/-- The importer lies at or below the path of the first `k` elements. -/
theorem below_take_iff {E : List String} (free : SlashFree (E.map String.toList)) {k : Nat}
    (first : 1 ≤ k) (within : k ≤ E.length) (importer : String) :
    (importer == String.ofList (['/'].intercalate ((E.map String.toList).take k)) ||
        hasPrefix importer
          (String.ofList (['/'].intercalate ((E.map String.toList).take k)) ++ "/")) = true ↔
      E.take k <+: splitOn importer "/" := by
  have nonempty : (E.map String.toList).take k ≠ [] := by
    rw [ne_eq, List.take_eq_nil_iff, not_or, List.map_eq_nil_iff]
    refine ⟨by omega, ?_⟩
    rintro rfl
    simp at within
    omega
  rw [below_iff_starts nonempty (free.take k), ← List.map_take,
    List.prefix_map_iff_of_injective (fun _ _ => String.toList_injective)]

/-- Cutting a path at the slash after its first pieces leaves those pieces. -/
theorem takeChars_intercalate {s : String} {A B : List (List Char)} (nonemptyA : A ≠ [])
    (nonemptyB : B ≠ []) (whole : s.toList = ['/'].intercalate (A ++ B)) :
    takeChars s (['/'].intercalate A).length = String.ofList (['/'].intercalate A) := by
  rw [takeChars, whole, intercalate_append nonemptyA nonemptyB, List.take_left]

end Elements

/-! ### The rule -/

section Rule

/-- The rule the three text tests implement, read on the elements `E` of the path and `F` of the
importer: a leading `internal` element needs another one after it, and the importer lies at or
below the elements before every later `internal` element. -/
def InternalRule (E F : List String) : Prop :=
  (E[0]? = some "internal" → ∃ k, 1 ≤ k ∧ E[k]? = some "internal") ∧
    ∀ k, 1 ≤ k → E[k]? = some "internal" → E.take k <+: F

/-- Below the last `internal` element is below them all: the paths before them are nested. -/
theorem internalRule_of_last {E F : List String} {k : Nat} (first : 1 ≤ k)
    (found : E[k]? = some "internal") (last : ∀ k', E[k']? = some "internal" → k' ≤ k) :
    InternalRule E F ↔ E.take k <+: F := by
  constructor
  · rintro ⟨-, below⟩
    exact below k first found
  · intro below
    exact ⟨fun _ => ⟨k, first, found⟩,
      fun k' _ found' => (List.take_prefix_take_left (last k' found')).trans below⟩

theorem internalRule_of_none {E F : List String}
    (none : ∀ k, 1 ≤ k → E[k]? ≠ some "internal") :
    InternalRule E F ↔ E[0]? ≠ some "internal" := by
  constructor
  · rintro ⟨leading, -⟩ atZero
    obtain ⟨k, first, found⟩ := leading atZero
    exact none k first found
  · intro notLeading
    exact ⟨fun atZero => absurd atZero notLeading, fun k first found => absurd found (none k first)⟩

theorem internal_slashFree : '/' ∉ "internal".toList := by decide

theorem toList_slash_internal : "/internal".toList = '/' :: "internal".toList := by decide

theorem toList_slash_internal_slash :
    "/internal/".toList = '/' :: ("internal".toList ++ ['/']) := by decide

theorem toList_internal_slash : "internal/".toList = "internal".toList ++ ['/'] := by decide

/-- A path whose last element, not its first, is `internal` ends in `/internal`. -/
theorem ends_of_last_internal {path : String} {k : Nat} (first : 1 ≤ k)
    (last : k + 1 = (splitOn path "/").length) (found : (splitOn path "/")[k]? = some "internal") :
    hasSuffix path "/internal" = true := by
  have atK := getElem?_eq_some_iff_toList.1 found
  generalize hP : (splitOn path "/").map String.toList = P at atK
  have length : P.length = k + 1 := by rw [← hP, List.length_map, last]
  have drop : P.drop k = ["internal".toList] := by
    obtain ⟨within, atK'⟩ := List.getElem?_eq_some_iff.1 atK
    rw [List.drop_eq_getElem_cons within, atK', List.drop_eq_nil_of_le (by omega)]
  have split : P = P.take k ++ ["internal".toList] := by
    rw [← drop, List.take_append_drop]
  rw [hasSuffix_iff_ends, toList_slash_internal, toList_eq_intercalate path, hP]
  refine (slash_piece_suffix_iff internal_slashFree (hP ▸ slashFree_splitOn path)).2
    ⟨P.take k, split, ?_⟩
  rw [ne_eq, List.take_eq_nil_iff, not_or]
  exact ⟨by omega, fun empty => by simp [empty] at length⟩

/-- A leading `internal` element is what the final test looks for. -/
theorem leading_internal_iff (path : String) :
    (path == "internal" || hasPrefix path "internal/") = true ↔
      (splitOn path "/")[0]? = some "internal" := by
  have whole := toList_eq_intercalate path
  have free := slashFree_splitOn path
  have nonempty := splitOn_ne_nil path
  rw [getElem?_eq_some_iff_toList]
  generalize (splitOn path "/").map String.toList = P at whole free nonempty ⊢
  have alone : path = "internal" ↔ P = ["internal".toList] := by
    rw [← String.toList_inj, whole]
    exact intercalate_eq_piece_iff internal_slashFree nonempty free
  have leads : hasPrefix path "internal/" = true ↔ ∃ P', P = "internal".toList :: P' ∧ P' ≠ [] := by
    rw [hasPrefix_iff_starts, toList_internal_slash, whole]
    exact prefix_intercalate_iff internal_slashFree free
  rw [Bool.or_eq_true, beq_iff_eq, alone, leads]
  constructor
  · rintro (rfl | ⟨P', rfl, -⟩) <;> rfl
  · intro atZero
    obtain ⟨P', rfl⟩ : ∃ P', P = "internal".toList :: P' := by
      cases P with
      | nil => simp at atZero
      | cons x P' => exact ⟨P', by simpa using atZero⟩
    by_cases empty : P' = []
    · exact .inl (by rw [empty])
    · exact .inr ⟨P', rfl, empty⟩

variable (importer : String) {path : String}

/-- Ending in `/internal`, the parent is the path without it: the last element is the last
`internal` one. -/
theorem importable_of_suffix (ends : hasSuffix path "/internal" = true) :
    importable path importer = true ↔ InternalRule (splitOn path "/") (splitOn importer "/") := by
  have free := slashFree_splitOn path
  have whole := toList_eq_intercalate path
  obtain ⟨P', pieces, more⟩ := (slash_piece_suffix_iff internal_slashFree free).1
    (by rw [← whole, ← toList_slash_internal]; exact hasSuffix_iff_ends.1 ends)
  rw [pieces] at whole
  have length : (splitOn path "/").length = P'.length + 1 := by
    simpa using congrArg List.length pieces
  have first : 1 ≤ P'.length := List.length_pos_iff.2 more
  have found : (splitOn path "/")[P'.length]? = some "internal" := by
    rw [getElem?_eq_some_iff_toList, pieces]
    simp
  have front : ((splitOn path "/").map String.toList).take P'.length = P' := by
    rw [pieces, List.take_left]
  have cut : path.length - "/internal".length = (['/'].intercalate P').length := by
    have total := congrArg List.length whole
    rw [intercalate_append more (List.cons_ne_nil _ _), List.intercalate_singleton] at total
    simp only [String.length_toList, List.length_append, List.length_cons] at total
    rw [total, show "/internal".length = 1 + "internal".length by decide]
    omega
  have parent : takeChars path (path.length - "/internal".length) =
      String.ofList (['/'].intercalate P') := by
    rw [cut]
    exact takeChars_intercalate more (List.cons_ne_nil _ _) whole
  unfold importable
  simp only [ends, ↓reduceIte]
  rw [parent, ← front, below_take_iff free first (by omega),
    internalRule_of_last first found fun k' found' => ?_]
  have within := (List.getElem?_eq_some_iff.1 found').1
  omega

/-- Otherwise the last `/internal/` marks the last `internal` element, when there is one. -/
theorem importable_of_last_occurrence (notEnds : hasSuffix path "/internal" = false) {i : Nat}
    (found : lastIndexOf? path "/internal/" = some i) :
    importable path importer = true ↔ InternalRule (splitOn path "/") (splitOn importer "/") := by
  have free := slashFree_splitOn path
  have whole := toList_eq_intercalate path
  obtain ⟨occurs, last⟩ := lastIndexOf?_eq_some (by decide) found
  rw [toList_slash_internal_slash, whole] at occurs last
  obtain ⟨m, first, short, atM, rfl⟩ := (occursAt_intercalate_iff internal_slashFree free i).1 occurs
  simp only [List.length_map] at short
  -- every `internal` element is at or before `m`
  have lastM : ∀ k, (splitOn path "/")[k]? = some "internal" → k ≤ m := by
    intro k atK
    have within := (List.getElem?_eq_some_iff.1 atK).1
    rcases Nat.lt_or_ge k 1 with zero | pos
    · omega
    by_cases inner : k + 1 < (splitOn path "/").length
    · -- an inner element: `/internal/` occurs before it, no later than at `m`
      have occursK := (occursAt_intercalate_iff internal_slashFree free _).2
        ⟨k, pos, by simpa using inner, getElem?_eq_some_iff_toList.1 atK, rfl⟩
      have notAfter := last _ occursK
      exact Nat.le_of_not_lt fun later =>
        Nat.lt_irrefl _ (Nat.lt_of_lt_of_le
          (length_intercalate_take_lt _ first later (by simp; omega)) notAfter)
    · -- the last element: then the path would end in `/internal`
      have ends := ends_of_last_internal pos (by omega) atK
      rw [notEnds] at ends
      cases ends
  have parent : takeChars path (['/'].intercalate
        (((splitOn path "/").map String.toList).take m)).length =
      String.ofList (['/'].intercalate (((splitOn path "/").map String.toList).take m)) := by
    refine @takeChars_intercalate _ _ (((splitOn path "/").map String.toList).drop m) ?_ ?_ ?_
    · rw [ne_eq, List.take_eq_nil_iff, not_or]
      exact ⟨by omega, splitOn_ne_nil path⟩
    · simp [List.drop_eq_nil_iff]
      omega
    · rw [List.take_append_drop]
      exact whole
  unfold importable
  simp only [notEnds, found, Bool.false_eq_true, ↓reduceIte]
  rw [parent, below_take_iff free first (by omega),
    internalRule_of_last first (getElem?_eq_some_iff_toList.2 atM) lastM]

/-- With no `/internal/` and no final `/internal`, only a leading `internal` element counts. -/
theorem importable_of_no_occurrence (notEnds : hasSuffix path "/internal" = false)
    (absent : lastIndexOf? path "/internal/" = none) :
    importable path importer = true ↔ InternalRule (splitOn path "/") (splitOn importer "/") := by
  have free := slashFree_splitOn path
  have whole := toList_eq_intercalate path
  have none : ∀ k, 1 ≤ k → (splitOn path "/")[k]? ≠ some "internal" := by
    intro k first atK
    have within := (List.getElem?_eq_some_iff.1 atK).1
    by_cases inner : k + 1 < (splitOn path "/").length
    · -- an inner element would put `/internal/` before it
      apply lastIndexOf?_eq_none (by decide) absent
      rw [toList_slash_internal_slash, whole]
      exact (occursAt_intercalate_iff internal_slashFree free _).2
        ⟨k, first, by simpa using inner, getElem?_eq_some_iff_toList.1 atK, rfl⟩
    · -- the last element would make the path end in `/internal`
      have ends := ends_of_last_internal first (by omega) atK
      rw [notEnds] at ends
      cases ends
  rw [internalRule_of_none none, ne_eq, ← leading_internal_iff]
  unfold importable
  simp only [notEnds, absent, Bool.false_eq_true, ↓reduceIte]
  by_cases leads : (path == "internal" || hasPrefix path "internal/") = true <;> simp [leads]

/-- **The internal-package rule, element by element.** A path with an `internal` element after
its first may be imported only from at or below the elements before the last such element, and
then from at or below those before every such element; a leading `internal` element keeps every
importer out only when no other `internal` element follows it. -/
theorem importable_iff_below_last_internal (path importer : String) :
    importable path importer = true ↔ InternalRule (splitOn path "/") (splitOn importer "/") := by
  cases ends : hasSuffix path "/internal"
  · cases found : lastIndexOf? path "/internal/" with
    | none => exact importable_of_no_occurrence importer ends found
    | some i => exact importable_of_last_occurrence importer ends found
  · exact importable_of_suffix importer ends

/-- A leading `internal` element does not keep out an importer below a later one. -/
theorem leading_internal_forgiven :
    importable "internal/a/internal/b" "internal/a/c" = true ∧
      (splitOn "internal/a/internal/b" "/")[0]? = some "internal" := by
  decide +kernel

end Rule

end StaticWrap.Check
