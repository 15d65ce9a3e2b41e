import Mathlib.Data.List.Chain
import Mathlib.Data.List.Infix
import StaticWrap.Proofs.Text.Decoding
import StaticWrap.Proofs.Text.Splitting
import StaticWrap.Walk.Facts
import StaticWrap.Render.Signature
/-!
**Deprecation notices read back.**

The walker reads a deprecation notice from a doc comment as the first paragraph of the comment
group's text that starts with `Deprecated:`, trimmed; the generator writes the notice of a fact
above the wrapper as line comments. The notice survives the trip.

The reader only ever gives a `CleanNotice`: it starts with the mark, no blank stands before a line
break in it (so no line is empty or ends in a blank), and it does not end in white space. This is
the whole of what the writer needs:

* `deprecationNotice_clean`: the group's text is clean lines joined by breaks (`groupText?_lines`),
  so a trimmed paragraph of it is a clean notice;
* `deprecationLines_of_clean`: a clean notice is written as its lines, each after `// `;
* `deprecationNotice?_rendered`: those comments read back as the notice;
* `deprecation_notice_round_trip`: so for every comment group whose notice is not empty, the
  comments written for a fact that carries it read back as the same notice.
-/

namespace StaticWrap.Walk

open StaticWrap.Text StaticWrap.GoSource

/-! ### Lines of a comment group -/

/-- A line as the comment reader gives it: no line break in it, and no blank at its end. -/
def CleanLine (l : String) : Prop :=
  '\n' ∉ l.toList ∧ ∀ c ∈ l.toList.getLast?, isBlankChar c = false

/-- Where a line break follows a character of a comment group's text, the character is a line
break too or is not blank. -/
def NoBlankBeforeBreak (a b : Char) : Prop := b = '\n' → a = '\n' ∨ isBlankChar a = false

theorem not_mem_of_piece {t p : String} (piece : p ∈ splitOn t "\n") : '\n' ∉ p.toList := by
  intro inside
  exact ((splitOn_pieces (by decide)).2 p piece).2 ((List.singleton_infix_iff _ _).2 inside)

/-- A piece of a line, cut at line breaks and trimmed of blanks, is a clean line. -/
theorem cleanLine_of_piece {t p : String} (piece : p ∈ splitOn t "\n") :
    CleanLine (trimRightBy isBlankChar p) := by
  refine ⟨fun inside => not_mem_of_piece piece ?_, ?_⟩
  · rw [toList_trimRightBy] at inside
    have kept := List.rdropWhile_prefix isBlankChar p.toList
    exact kept.subset inside
  · rw [toList_trimRightBy]
    exact getLast?_rdropWhile isBlankChar _

/-- Every line a comment gives is a piece of some text, cut at line breaks and trimmed. -/
theorem commentLines?_pieces {raw : String} {r : Option (List String)}
    (read : commentLines? raw = .ok r) :
    ∀ ls ∈ r, ∃ t, ls = (splitOn t "\n").map (trimRightBy isBlankChar) := by
  intro ls mem
  rw [Option.mem_def] at mem
  subst mem
  unfold commentLines? at read
  dsimp only at read
  split at read
  · simp [throw, throwThe, MonadExceptOf.throw, bind, Except.bind] at read
  split at read
  · -- a line comment: the body is what follows the marker, less one space
    split at read <;> simp [pure, Except.pure, bind, Except.bind] at read
    · exact ⟨_, read.symm⟩
    · exact ⟨_, read.symm⟩
    · exact ⟨_, read.2.symm⟩
  split at read
  · split at read <;>
      simp [throw, throwThe, MonadExceptOf.throw, pure, Except.pure, bind, Except.bind] at read
    exact ⟨_, read.symm⟩
  · simp [pure, Except.pure, bind, Except.bind] at read
    exact ⟨_, read.symm⟩

theorem cleanLine_empty : CleanLine "" := by
  simp [CleanLine]

/-- Merging blank lines keeps lines of the list. -/
theorem mem_of_mem_squeezeBlank {ls : List String} {prevBlank : Bool} :
    ∀ l ∈ squeezeBlank ls prevBlank, l ∈ ls := by
  induction ls generalizing prevBlank with
  | nil => simp [squeezeBlank]
  | cons l ls ih =>
    intro x mem
    rw [squeezeBlank] at mem
    split at mem
    · exact List.mem_cons_of_mem l (ih x mem)
    · rcases List.mem_cons.1 mem with rfl | later
      · exact List.mem_cons_self
      · exact List.mem_cons_of_mem l (ih x later)

/-- Without blank lines there is nothing to merge. -/
theorem squeezeBlank_of_ne_empty {ls : List String} (full : ∀ l ∈ ls, l ≠ "") (prevBlank : Bool) :
    squeezeBlank ls prevBlank = ls := by
  induction ls generalizing prevBlank with
  | nil => rfl
  | cons l ls ih =>
    have kept : ¬ (l.isEmpty && prevBlank) = true := by
      simp [full l List.mem_cons_self]
    rw [squeezeBlank, if_neg kept, ih (fun x mem => full x (List.mem_cons_of_mem l mem))]

/-- The text of a comment group is clean lines joined by line breaks. -/
theorem groupText?_lines {comments : List String} {t : String} (read : groupText? comments = .ok t) :
    ∃ lines : List String, (∀ l ∈ lines, CleanLine l) ∧ t = "\n".intercalate lines := by
  unfold groupText? at read
  cases mapped : comments.mapM commentLines? with
  | error e => simp [mapped, bind, Except.bind] at read
  | ok parts =>
    simp only [mapped, bind, Except.bind, pure, Except.pure, Except.ok.injEq] at read
    have clean : ∀ l ∈ squeezeBlank (parts.filterMap id).flatten true, CleanLine l := by
      intro l mem
      obtain ⟨ls, found, inside⟩ := List.mem_flatten.1 (mem_of_mem_squeezeBlank l mem)
      obtain ⟨part, kept, some⟩ := List.mem_filterMap.1 found
      rw [id] at some
      subst some
      obtain ⟨raw, _, ok⟩ := mapM_ok_mem mapped _ kept
      obtain ⟨t, rfl⟩ := commentLines?_pieces ok ls rfl
      obtain ⟨p, piece, rfl⟩ := List.mem_map.1 inside
      exact cleanLine_of_piece piece
    refine ⟨_, ?_, read.symm⟩
    split
    · split
      · exact clean
      · intro l mem
        rcases List.mem_append.1 mem with old | closing
        · exact clean l old
        · rw [List.mem_singleton.1 closing]
          exact cleanLine_empty
    · exact clean

/-! ### Clean notices -/

theorem isChain_of_not_mem {l : List Char} (noBreak : '\n' ∉ l) : l.IsChain NoBlankBeforeBreak := by
  rw [List.isChain_iff_forall_rel_of_append_cons_cons]
  rintro a b l₁ l₂ rfl isBreak
  subst isBreak
  simp at noBreak

/-- Clean lines joined by line breaks have no blank before a break, except a break. -/
theorem isChain_intercalate {lines : List String} (clean : ∀ l ∈ lines, CleanLine l) :
    ("\n".intercalate lines).toList.IsChain NoBlankBeforeBreak := by
  induction lines with
  | nil => simp
  | cons x rest ih =>
    have cx := clean x List.mem_cons_self
    cases rest with
    | nil => simpa using isChain_of_not_mem cx.1
    | cons y rest =>
      rw [String.intercalate_cons_cons, String.toList_append, String.toList_append]
      refine List.IsChain.append (List.IsChain.append (isChain_of_not_mem cx.1) (by simp) ?_)
        (ih fun l mem => clean l (List.mem_cons_of_mem x mem)) ?_
      · exact fun a last _ _ _ => Or.inr (cx.2 a last)
      · intro a last _ _ _
        -- what comes after the break
        exact Or.inl (by simpa using last.symm)

/-- In a notice no blank stands before a line break. -/
def InkBeforeBreak (a b : Char) : Prop := b = '\n' → isBlankChar a = false

/-- Where no blank stands before a line break, no two breaks stand in a row. -/
theorem not_double_break {l : List Char} (chain : l.IsChain InkBeforeBreak) :
    ¬ ['\n', '\n'] <:+: l := by
  rintro ⟨u, w, rfl⟩
  rw [List.isChain_iff_forall_rel_of_append_cons_cons] at chain
  have ink : InkBeforeBreak '\n' '\n' := chain (by simp : u ++ ['\n', '\n'] ++ w = u ++ '\n' :: '\n' :: w)
  exact absurd (ink rfl) (by decide)

/-- Text with no blank before a break except a break, and no two breaks in a row, has no blank
before a break at all. -/
theorem isChain_ink {l : List Char} (chain : l.IsChain NoBlankBeforeBreak)
    (single : ¬ ['\n', '\n'] <:+: l) : l.IsChain InkBeforeBreak := by
  rw [List.isChain_iff_forall_rel_of_append_cons_cons] at chain ⊢
  rintro a b l₁ l₂ rfl isBreak
  rcases chain rfl isBreak with double | ink
  · subst double isBreak
    exact absurd ⟨l₁, l₂, by simp⟩ single
  · exact ink

theorem isSpace_of_isBlankChar {c : Char} (blank : isBlankChar c = true) : isSpace c = true := by
  simp only [isBlankChar, Bool.or_eq_true, beq_iff_eq] at blank
  rcases blank with ((rfl | rfl) | rfl) | rfl <;> decide

/-- A deprecation notice as the reader gives it: it starts with the mark, no blank stands before
a line break in it, and it does not end in white space. -/
structure CleanNotice (d : String) : Prop where
  marked : deprecatedMark.toList <+: d.toList
  ink : d.toList.IsChain InkBeforeBreak
  lastClear : ∀ c ∈ d.toList.getLast?, isSpace c = false

namespace CleanNotice

variable {d : String} (clean : CleanNotice d)
include clean

theorem head? : d.toList.head? = some 'D' := by
  obtain ⟨r, whole⟩ := clean.marked
  rw [← whole]
  rfl

theorem ne_empty : d ≠ "" := by
  intro empty
  simpa [empty] using clean.head?

theorem lastInk : ∀ c ∈ d.toList.getLast?, isBlankChar c = false := by
  intro c last
  cases blank : isBlankChar c with
  | false => rfl
  | true => simpa [isSpace_of_isBlankChar blank] using clean.lastClear c last

/-- Set between a line break before it and one after it, no line of the notice is empty or ends
in a blank. -/
theorem framed : ('\n' :: (d.toList ++ ['\n'])).IsChain InkBeforeBreak := by
  have full : d.toList ≠ [] := by simpa using clean.ne_empty
  rw [List.isChain_cons, List.head?_append_of_ne_nil _ full, clean.head?]
  refine ⟨?_, clean.ink.append (List.isChain_singleton _) fun a last _ _ _ => clean.lastInk a last⟩
  intro b first isBreak
  simp_all

end CleanNotice

/-- Where a notice is found, it is a trimmed paragraph of the group's text that starts with the
mark. -/
theorem deprecationNotice?_found {comments : List String} {d : String}
    (read : deprecationNotice? (some comments) = .ok d) (found : d ≠ "") :
    ∃ t, groupText? comments = .ok t ∧
      ∃ p ∈ splitOn t "\n\n", d = trimSpace p ∧ hasPrefix d deprecatedMark = true := by
  unfold deprecationNotice? at read
  cases text : groupText? comments with
  | error e => simp [text, bind, Except.bind] at read
  | ok t =>
    simp only [text, bind, Except.bind, pure, Except.pure, Except.ok.injEq] at read
    cases first : ((splitOn t "\n\n").map trimSpace).find? (fun p => hasPrefix p deprecatedMark) with
    | none =>
      rw [first, Option.getD_none] at read
      exact absurd read.symm found
    | some q =>
      rw [first, Option.getD_some] at read
      subst read
      obtain ⟨p, piece, trimmed⟩ := List.mem_map.1 (List.mem_of_find?_eq_some first)
      have marked := List.find?_some first
      exact ⟨t, rfl, p, piece, trimmed.symm, marked⟩

/-- **The notice read from any comment group is clean.** -/
theorem deprecationNotice_clean {doc : Option (List String)} (found : deprecationNotice doc ≠ "") :
    CleanNotice (deprecationNotice doc) := by
  cases doc with
  | none => exact absurd rfl found
  | some comments =>
    unfold deprecationNotice at found ⊢
    cases read : deprecationNotice? (some comments) with
    | error e => simp [read] at found
    | ok d =>
      simp only [read] at found ⊢
      obtain ⟨t, text, p, piece, rfl, marked⟩ := deprecationNotice?_found read found
      obtain ⟨lines, clean, rfl⟩ := groupText?_lines text
      have pieceFacts := (splitOn_pieces (by decide)).2 p piece
      have inside : (trimSpace p).toList <:+: ("\n".intercalate lines).toList :=
        (infix_of_trimSpace p).trans pieceFacts.1
      have single : ¬ ['\n', '\n'] <:+: (trimSpace p).toList :=
        fun double => pieceFacts.2 (double.trans (infix_of_trimSpace p))
      have chain := List.IsChain.infix (isChain_intercalate clean) inside
      exact ⟨hasPrefix_iff_starts.1 marked, isChain_ink chain single, getLast?_trimSpace p⟩

/-! ### Writing a clean notice and reading it back -/

/-- A line of a joined text, set between the breaks around it, lies inside the joined text set
between two breaks. -/
theorem infix_framed_line {L : List (List Char)} {x : List Char} (mem : x ∈ L) :
    '\n' :: (x ++ ['\n']) <:+: '\n' :: (['\n'].intercalate L ++ ['\n']) := by
  induction L with
  | nil => cases mem
  | cons a rest ih =>
    cases rest with
    | nil =>
      rw [List.mem_singleton.1 mem]
      simp
    | cons b rest =>
      rw [List.intercalate_cons_cons]
      rcases List.mem_cons.1 mem with rfl | later
      · exact ⟨[], ['\n'].intercalate (b :: rest) ++ ['\n'], by simp⟩
      · exact (ih later).trans ⟨'\n' :: a, [], by simp⟩

/-- A line set between two breaks with no blank before a break is not empty and does not end in
a blank. -/
theorem line_of_framed {x : List Char} (framed : ('\n' :: (x ++ ['\n'])).IsChain InkBeforeBreak) :
    x ≠ [] ∧ ∀ c ∈ x.getLast?, isBlankChar c = false := by
  constructor
  · rintro rfl
    exact absurd (List.isChain_pair.1 framed rfl) (by decide)
  · intro c last
    exact (List.isChain_append.1 framed.tail).2.2 c last '\n' rfl rfl

/-- The lines of a clean notice are clean and not empty. -/
theorem CleanNotice.lines {d : String} (clean : CleanNotice d) :
    ∀ l ∈ splitOn d "\n", l ≠ "" ∧ CleanLine l := by
  intro l piece
  have joined : d.toList = ['\n'].intercalate ((splitOn d "\n").map String.toList) := by
    conv => lhs; rw [← (@splitOn_pieces d "\n" (by decide)).1]
    rw [String.toList_intercalate]
    rfl
  have framedLine := List.IsChain.infix clean.framed
    (joined ▸ infix_framed_line (List.mem_map_of_mem piece))
  obtain ⟨full, lastInk⟩ := line_of_framed framedLine
  exact ⟨by simpa using full, not_mem_of_piece piece, lastInk⟩

/-- A clean notice is written as its lines, each after the comment marker and a space. -/
theorem deprecationLines_of_clean {f : Model.Fact} (clean : CleanNotice f.deprecated) :
    Render.deprecationLines f = (splitOn f.deprecated "\n").map ("// " ++ ·) := by
  have deprecated : f.isDeprecated = true := by
    simp [Model.Fact.isDeprecated, clean.ne_empty]
  have keep : trimRightChars ['\n'] f.deprecated = f.deprecated := by
    refine trimRightBy_of_getLast? _ fun c last => ?_
    have ink := clean.lastInk c last
    simp only [isBlankChar, Bool.or_eq_false_iff, beq_eq_false_iff_ne] at ink
    simpa using ink.1.2
  unfold Render.deprecationLines
  rw [if_neg (by simp [deprecated]), keep]
  refine List.map_congr_left fun l piece => ?_
  obtain ⟨full, cleanLine⟩ := clean.lines l piece
  have kept : trimRightChars [' ', '\t'] l = l := by
    refine trimRightBy_of_getLast? _ fun c last => ?_
    have ink := cleanLine.2 c last
    simp only [isBlankChar, Bool.or_eq_false_iff, beq_eq_false_iff_ne] at ink
    simp [ink.1.1.1, ink.1.1.2]
  simp [kept, full]

/-- A clean line after the marker and a space reads back as itself. -/
theorem commentLines?_rendered {l : String} (clean : CleanLine l) :
    commentLines? ("// " ++ l) = .ok (some [l]) := by
  have bytes : Bytes.ofText ("// " ++ l) = 47 :: 47 :: 32 :: Bytes.ofText l := by
    have marker : Bytes.ofText "// " = [47, 47, 32] := by
      rw [ofText_eq_flatMap]
      decide
    rw [ofText_append, marker]
    rfl
  have one : splitOn l "\n" = [l] :=
    splitOn_eq_singleton (by decide) fun inside => clean.1 ((List.singleton_infix_iff _ _).1 inside)
  have kept : trimRightBy isBlankChar l = l := trimRightBy_of_getLast? _ clean.2
  have slash : (47 : UInt8) = '/'.toUInt8 := rfl
  have long : ¬ (Bytes.ofText l).length + 1 + 1 + 1 < 2 := by omega
  unfold commentLines?
  simp [bytes, toText_ofText, one, kept, pure, Except.pure, bind, Except.bind, ← slash, long]

theorem mapM_rendered {L : List String} (clean : ∀ l ∈ L, CleanLine l) :
    (L.map ("// " ++ ·)).mapM commentLines? = .ok (L.map fun l => some [l]) := by
  induction L with
  | nil => rfl
  | cons l L ih =>
    rw [List.map_cons, List.mapM_cons, commentLines?_rendered (clean l List.mem_cons_self),
      ih fun x mem => clean x (List.mem_cons_of_mem l mem)]
    rfl

/-- Clean lines that are not empty, written as line comments, read back as their text: the lines
joined by breaks, and a closing break. -/
theorem groupText?_rendered {L : List String} (full : ∀ l ∈ L, l ≠ "" ∧ CleanLine l)
    (nonempty : L ≠ []) :
    groupText? (L.map ("// " ++ ·)) = .ok ("\n".intercalate L ++ "\n") := by
  have flat : ((L.map fun l => some [l]).filterMap id).flatten = L := by
    simp [← List.flatMap_def]
  obtain ⟨z, last⟩ : ∃ z, L.getLast? = some z := Option.isSome_iff_exists.1 (by simpa using nonempty)
  have closing : ¬ z.isEmpty = true := by simpa using (full z (List.mem_of_getLast? last)).1
  unfold groupText?
  rw [mapM_rendered fun l mem => (full l mem).2]
  simp only [bind, Except.bind, pure, Except.pure, flat,
    squeezeBlank_of_ne_empty (fun l mem => (full l mem).1), last, if_neg closing]
  rw [String.intercalate_append_of_ne_nil nonempty (by simp)]
  simp

/-- A break is white space. -/
theorem isSpace_newline : ∀ c ∈ "\n".toList, isSpace c = true := by
  intro c mem
  rw [show "\n".toList = ['\n'] from rfl, List.mem_singleton] at mem
  rw [mem]
  decide

/-- A clean notice, written as line comments, reads back as itself. -/
theorem deprecationNotice?_rendered {d : String} (clean : CleanNotice d) :
    deprecationNotice? (some ((splitOn d "\n").map ("// " ++ ·))) = .ok d := by
  have joined := (@splitOn_pieces d "\n" (by decide)).1
  -- the closing break does not start a new paragraph, and trimming takes it off again
  have onePara : splitOn (d ++ "\n") "\n\n" = [d ++ "\n"] :=
    splitOn_eq_singleton (by decide) (by simpa using not_double_break clean.framed.tail)
  have headClear : ∀ c ∈ d.toList.head?, isSpace c = false := by
    rw [clean.head?]
    intro c first
    rw [← Option.mem_some_iff.1 first]
    decide
  have trimmed : trimSpace (d ++ "\n") = d :=
    trimSpace_append clean.ne_empty headClear clean.lastClear isSpace_newline
  have marked : hasPrefix d deprecatedMark = true := hasPrefix_iff_starts.2 clean.marked
  rw [deprecationNotice?, groupText?_rendered clean.lines (splitOn_pieces_ne_nil d "\n"), joined]
  simp only [bind, Except.bind, pure, Except.pure, onePara, List.map_cons, List.map_nil, trimmed,
    List.find?_cons, marked, Option.getD_some]

/-- **A deprecation notice survives being written above the wrapper and read again.** Whatever
comment group a notice is read from, a fact that carries it is written as comment lines that
read back as the same notice. -/
theorem deprecation_notice_round_trip (doc : Option (List String)) (f : Model.Fact)
    (found : deprecationNotice doc ≠ "") (carried : f.deprecated = deprecationNotice doc) :
    deprecationNotice (some (Render.deprecationLines f)) = deprecationNotice doc := by
  have clean := deprecationNotice_clean found
  rw [← carried] at clean ⊢
  rw [deprecationLines_of_clean clean, deprecationNotice, deprecationNotice?_rendered clean]

/-- A notice of two lines, after a summary paragraph and with trailing blanks, written and read
again. -/
theorem two_line_notice_round_trip :
    deprecationNotice (some ["// Users lists the users.", "//", "// Deprecated: use Query", "// instead.  "]) ≠ "" ∧
      deprecationNotice (some (Render.deprecationLines
        { name := "Users", deprecated := "Deprecated: use Query\ninstead." })) =
        deprecationNotice (some ["// Users lists the users.", "//", "// Deprecated: use Query", "// instead.  "]) :=
  ⟨by decide +kernel, deprecation_notice_round_trip _ _ (by decide +kernel) (by decide +kernel)⟩

end StaticWrap.Walk
