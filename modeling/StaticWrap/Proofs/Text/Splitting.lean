import Mathlib.Data.List.DropRight
import StaticWrap.Proofs.Text.Paths
/-!
**Cutting a text at a separator, and trimming it.**

`splitList` reads a text once, character by character, and cuts it where the separator starts.
`StartsClear` is what holds of the piece read so far: no occurrence of the separator has started
in it. From it:

* `intercalate_splitList`, `splitOn_pieces`: the pieces joined with the separator give the text
  back; each lies inside the text and none holds the separator;
* `splitOn_eq_singleton`: a text without the separator is one piece.

Trimming keeps a part of the text (`infix_of_trimSpace`), leaves no white space at its end
(`getLast?_trimSpace`), and gives back a text that was already trimmed (`trimSpace_append`).
-/

namespace StaticWrap.Text

section Separator

variable {sep : List Char}

theorem splitList_ne_nil (acc l : List Char) : splitList sep acc l ≠ [] := by
  fun_induction splitList sep acc l <;> simp_all

/-- Joining the pieces with the separator gives the text back. -/
theorem intercalate_splitList (nonempty : sep ≠ []) (acc l : List Char) :
    sep.intercalate (splitList sep acc l) = acc.reverse ++ l := by
  fun_induction splitList sep acc l with
  | case1 acc => simp
  | case2 acc c rest empty => exact absurd empty nonempty
  | case3 acc c rest _ after found _ ih =>
    rw [List.intercalate_cons_of_ne_nil (splitList_ne_nil _ _), ih,
      dropPrefix?_eq_some_iff.1 found]
    simp
  | case4 acc c rest _ _ ih => simp [ih]

/-- No occurrence of the separator has started in the piece read so far: every non-empty tail
of the piece, followed by what is left, does not start with the separator. -/
def StartsClear (sep acc l : List Char) : Prop :=
  ∀ v, v <:+ acc.reverse → v ≠ [] → ¬ sep <+: v ++ l

theorem StartsClear.nil (sep l : List Char) : StartsClear sep [] l := by
  intro v suffix nonempty
  simp [List.suffix_nil.1 suffix] at nonempty

/-- The piece read so far does not hold the separator. -/
theorem StartsClear.absent (nonempty : sep ≠ []) {acc l : List Char}
    (clear : StartsClear sep acc l) : ¬ sep <:+: acc.reverse := by
  rintro ⟨u, w, whole⟩
  refine clear (sep ++ w) ⟨u, by rw [← whole, List.append_assoc]⟩ (by simp [nonempty]) ?_
  exact ⟨w ++ l, by simp⟩

/-- A character that does not start the separator joins the piece. -/
theorem StartsClear.cons {acc : List Char} {c : Char} {rest : List Char}
    (clear : StartsClear sep acc (c :: rest)) (noStart : ¬ sep <+: c :: rest) :
    StartsClear sep (c :: acc) rest := by
  intro v suffix nonempty
  rw [List.reverse_cons, List.suffix_concat_iff] at suffix
  rcases suffix with empty | ⟨t, rfl, suffix⟩
  · exact absurd empty nonempty
  · by_cases emptyT : t = []
    · subst emptyT
      simpa using noStart
    · simpa using clear t suffix emptyT

/-- **No piece holds the separator.** -/
theorem splitList_pieces_clear (nonempty : sep ≠ []) (acc l : List Char)
    (clear : StartsClear sep acc l) : ∀ p ∈ splitList sep acc l, ¬ sep <:+: p := by
  fun_induction splitList sep acc l with
  | case1 acc =>
    intro p mem
    rw [List.mem_singleton.1 mem]
    exact clear.absent nonempty
  | case2 acc c rest empty => exact absurd empty nonempty
  | case3 acc c rest _ after found _ ih =>
    intro p mem
    rcases List.mem_cons.1 mem with rfl | later
    · exact clear.absent nonempty
    · exact ih (StartsClear.nil sep after) p later
  | case4 acc c rest _ missing ih =>
    have noStart : ¬ sep <+: c :: rest := by
      rintro ⟨after, whole⟩
      rw [dropPrefix?_eq_some_iff.2 whole.symm] at missing
      cases missing
    exact ih (clear.cons noStart)

/-- A text that does not hold the separator is one piece. -/
theorem splitList_eq_singleton (nonempty : sep ≠ []) (acc l : List Char) (absent : ¬ sep <:+: l) :
    splitList sep acc l = [acc.reverse ++ l] := by
  fun_induction splitList sep acc l with
  | case1 acc => simp
  | case2 acc c rest empty => exact absurd empty nonempty
  | case3 acc c rest _ after found _ ih =>
    exact absurd ⟨[], after, by simp [dropPrefix?_eq_some_iff.1 found]⟩ absent
  | case4 acc c rest _ _ ih =>
    rw [ih (fun inside => absent (inside.trans (List.suffix_cons c rest).isInfix))]
    simp

/-- A member of a joined list lies inside the joined list. -/
theorem infix_intercalate_of_mem {L : List (List Char)} {p : List Char} (mem : p ∈ L) :
    p <:+: sep.intercalate L := by
  induction L with
  | nil => cases mem
  | cons x L ih =>
    cases L with
    | nil =>
      rw [List.mem_singleton.1 mem]
      simp
    | cons y L =>
      rw [List.intercalate_cons_cons]
      rcases List.mem_cons.1 mem with rfl | later
      · exact ⟨[], sep ++ sep.intercalate (y :: L), by simp⟩
      · obtain ⟨u, w, whole⟩ := ih later
        exact ⟨x ++ sep ++ u, w, by rw [← whole]; simp⟩

end Separator

/-- The pieces of a text cut at a separator: each lies inside the text and does not hold the
separator, and joined with the separator they give the text back. -/
theorem splitOn_pieces {s sep : String} (nonempty : sep ≠ "") :
    sep.intercalate (splitOn s sep) = s ∧
      ∀ p ∈ splitOn s sep, p.toList <:+: s.toList ∧ ¬ sep.toList <:+: p.toList := by
  have nonempty' : sep.toList ≠ [] := by simpa using nonempty
  have joined := intercalate_splitList nonempty' [] s.toList
  refine ⟨?_, fun p mem => ?_⟩
  · apply String.toList_injective
    rw [String.toList_intercalate, splitOn, List.map_map]
    simpa using joined
  · obtain ⟨l, piece, rfl⟩ := List.mem_map.1 mem
    rw [String.toList_ofList]
    refine ⟨?_, splitList_pieces_clear nonempty' [] s.toList (StartsClear.nil _ _) l piece⟩
    simpa [joined] using @infix_intercalate_of_mem sep.toList _ _ piece

theorem splitOn_pieces_ne_nil (s sep : String) : splitOn s sep ≠ [] := by
  simp [splitOn, splitList_ne_nil]

/-- A text that does not hold the separator is one piece. -/
theorem splitOn_eq_singleton {s sep : String} (nonempty : sep ≠ "")
    (absent : ¬ sep.toList <:+: s.toList) : splitOn s sep = [s] := by
  rw [splitOn, splitList_eq_singleton (by simpa using nonempty) [] s.toList absent]
  simp

/-! ### Trimming -/

section Trim

variable (p : Char → Bool)

/-- Dropping from the front leaves no dropped character in front. -/
theorem head?_dropWhile (l : List Char) : ∀ c ∈ (l.dropWhile p).head?, p c = false := by
  intro c first
  have kept := List.head?_dropWhile_not p l
  rw [Option.mem_def.1 first] at kept
  exact kept

/-- Dropping from the end leaves no dropped character at the end. -/
theorem getLast?_rdropWhile (l : List Char) : ∀ c ∈ (l.rdropWhile p).getLast?, p c = false := by
  intro c last
  rw [List.rdropWhile, List.getLast?_reverse] at last
  exact head?_dropWhile p _ c last

theorem dropWhile_of_head? {l : List Char} (clear : ∀ c ∈ l.head?, p c = false) :
    l.dropWhile p = l := by
  cases l with
  | nil => rfl
  | cons c rest => simp [List.dropWhile_cons_of_neg, clear c rfl]

theorem rdropWhile_of_getLast? {l : List Char} (clear : ∀ c ∈ l.getLast?, p c = false) :
    l.rdropWhile p = l := by
  rw [List.rdropWhile, dropWhile_of_head? p (by simpa [List.head?_reverse] using clear)]
  simp

theorem toList_trimLeftBy (s : String) : (trimLeftBy p s).toList = s.toList.dropWhile p := by
  rw [trimLeftBy, String.toList_ofList]

theorem toList_trimRightBy (s : String) : (trimRightBy p s).toList = s.toList.rdropWhile p := by
  rw [trimRightBy, String.toList_ofList]
  rfl

/-- Trimming from the end a text that does not end in a trimmed character leaves it as it is. -/
theorem trimRightBy_of_getLast? {s : String} (clear : ∀ c ∈ s.toList.getLast?, p c = false) :
    trimRightBy p s = s :=
  String.toList_injective (by rw [toList_trimRightBy, rdropWhile_of_getLast? p clear])

end Trim

/-- Trimming keeps a part of the text. -/
theorem infix_of_trimSpace (s : String) : (trimSpace s).toList <:+: s.toList := by
  rw [trimSpace, toList_trimRightBy, toList_trimLeftBy]
  have front : s.toList.dropWhile isSpace <:+ s.toList := List.dropWhile_suffix isSpace
  have back := List.rdropWhile_prefix isSpace (s.toList.dropWhile isSpace)
  exact back.isInfix.trans front.isInfix

/-- A trimmed text does not end in white space. -/
theorem getLast?_trimSpace (s : String) : ∀ c ∈ (trimSpace s).toList.getLast?, isSpace c = false := by
  rw [trimSpace, toList_trimRightBy]
  exact getLast?_rdropWhile isSpace _

/-- Trimming a text that neither starts nor ends in white space, followed by white space, gives
the text back. -/
theorem trimSpace_append {d w : String} (nonempty : d ≠ "")
    (headClear : ∀ c ∈ d.toList.head?, isSpace c = false)
    (lastClear : ∀ c ∈ d.toList.getLast?, isSpace c = false)
    (spaces : ∀ c ∈ w.toList, isSpace c = true) : trimSpace (d ++ w) = d := by
  have nonempty' : d.toList.isEmpty = false := by simpa using nonempty
  have front : (d.toList ++ w.toList).dropWhile isSpace = d.toList ++ w.toList := by
    rw [List.dropWhile_append, dropWhile_of_head? isSpace headClear, nonempty']
    rfl
  have back : (d.toList ++ w.toList).rdropWhile isSpace = d.toList := by
    rw [List.rdropWhile, List.reverse_append, List.dropWhile_append_of_pos (by simpa using spaces)]
    exact rdropWhile_of_getLast? isSpace lastClear
  apply String.toList_injective
  rw [trimSpace, toList_trimRightBy, toList_trimLeftBy, String.toList_append, front, back]

end StaticWrap.Text
