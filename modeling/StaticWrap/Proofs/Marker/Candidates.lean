import StaticWrap.Proofs.Marker.Acceptance
import StaticWrap.Proofs.Text.Paths
/-!
**Which read markers discovery looks at.**

Discovery reads only the comments that pass a quick test (`isMarker`): the trimmed comment
starts with `//` and, after white space, with `mockable::`. The reader is more lenient: blanks
may stand between any two tokens of a marker, also between `mockable` and `::`.

* `readMarker_lexed`: a comment any registry reads is cut into tokens and read by the grammar,
  so its trimmed text is a sentence of the marker grammar (`MarkerText`).
* `read_marker_is_candidate_iff_glued`: the trimmed text of a read comment is `//`, blanks,
  `mockable`, blanks, `::` and the rest; it passes the quick test exactly when no blank stands
  between `mockable` and `::`.
* `spaced_separator_read_but_not_candidate`: `//mockable ::static` is read, and not looked at.
-/

namespace StaticWrap.Marker

open StaticWrap.Text (dropPrefix?_eq_some_iff hasPrefix_iff_starts)

/-! ### Trimming -/

/-- A blank between tokens is white space. -/
theorem isSpace_of_isBlank {c : Char} (blank : isBlank c = true) : Text.isSpace c = true := by
  simp only [isBlank, Bool.or_eq_true, beq_iff_eq] at blank
  rcases blank with rfl | rfl <;> rfl

/-- Dropping from the left stops at the first character the test refuses. -/
theorem dropWhile_append_cons {p : Char → Bool} {c : Char} (stop : p c = false) :
    ∀ (l m : List Char), ∃ w, (l ++ c :: m).dropWhile p = w ++ c :: m
  | [], m => ⟨[], by simp [stop]⟩
  | a :: l, m => by
    by_cases dropped : p a = true
    · simpa [List.dropWhile_cons, dropped] using dropWhile_append_cons stop l m
    · exact ⟨a :: l, by simp [dropped]⟩

/-- Trimming from the right keeps a prefix. -/
theorem trimRightBy_prefix (p : Char → Bool) (s : String) :
    (Text.trimRightBy p s).toList <+: s.toList := by
  have reversed := List.reverse_prefix.2 (@List.dropWhile_suffix _ s.toList.reverse p)
  rw [List.reverse_reverse] at reversed
  simpa [Text.trimRightBy] using reversed

/-- Trimming from the right keeps everything up to a character the test refuses. -/
theorem prefix_trimRightBy {p : Char → Bool} {u v : List Char} {c : Char} (stop : p c = false) :
    u ++ [c] <+: (Text.trimRightBy p (String.ofList (u ++ c :: v))).toList := by
  obtain ⟨w, dropped⟩ := dropWhile_append_cons stop v.reverse u.reverse
  have reversed : (u ++ c :: v).reverse = v.reverse ++ c :: u.reverse := by simp
  refine ⟨w.reverse, ?_⟩
  simp only [Text.trimRightBy, String.toList_ofList, reversed, dropped, List.reverse_append,
    List.reverse_cons, List.reverse_reverse, List.append_assoc]

/-- A text and its trimming from the right start alike, up to a character the test refuses. -/
theorem prefix_trimRightBy_iff {p : Char → Bool} {pre u v : List Char} {c : Char}
    (stop : p c = false) (short : pre.length ≤ u.length + 1) :
    pre <+: (Text.trimRightBy p (String.ofList (u ++ c :: v))).toList ↔ pre <+: u ++ c :: v := by
  have whole := trimRightBy_prefix p (String.ofList (u ++ c :: v))
  rw [String.toList_ofList] at whole
  constructor
  · exact fun front => front.trans whole
  · intro front
    have upTo : pre <+: u ++ [c] :=
      List.prefix_of_prefix_length_le front ⟨v, by simp⟩ (by simpa using short)
    exact upTo.trans (prefix_trimRightBy stop)

/-- A trimmed text starts with no white space. -/
theorem trimSpace_head {s : String} {c : Char} {t : List Char}
    (starts : (Text.trimSpace s).toList = c :: t) : Text.isSpace c = false := by
  -- trimming the right end keeps a prefix of what trimming the left end left
  have kept := trimRightBy_prefix Text.isSpace (Text.trimLeftBy Text.isSpace s)
  rw [← Text.trimSpace, starts, Text.trimLeftBy, String.toList_ofList] at kept
  obtain ⟨r, whole⟩ := kept
  have head := List.head?_dropWhile_not Text.isSpace s.toList
  rw [← whole] at head
  exact head

/-! ### Read comments -/

/-- A comment any registry reads is cut into tokens, which the grammar reads. -/
theorem readMarker_lexed {registry : Registry} {comment : String} {loc : Location}
    {a : Annotation} (read : readMarker registry comment loc = .ok a) :
    ∃ ts w, lexMarker (Text.trimSpace comment) = .ok ts ∧ parseTokens ts = .ok w := by
  unfold readMarker at read
  cases lexed : lexMarker (Text.trimSpace comment) with
  | error f => simp [lexed, bind, Except.bind] at read
  | ok ts =>
    simp only [lexed, bind, Except.bind] at read
    cases parsed : parseTokens ts with
    | error g => simp [parsed] at read
    | ok w => exact ⟨ts, w, rfl, parsed⟩

/-- The quick test on a text `//`, blanks, `mockable`, blanks, `::` and more: it passes exactly
when the second blanks are none. -/
theorem isMarker_lead {comment : String} {b₁ b₂ rest : List Char}
    (blanks : ∀ c ∈ b₁ ++ b₂, isBlank c = true)
    (lead : (Text.trimSpace comment).toList =
      ['/', '/'] ++ b₁ ++ "mockable".toList ++ b₂ ++ [':', ':'] ++ rest) :
    isMarker comment = true ↔ b₂ = [] := by
  have spaced : ∀ d ∈ b₁, Text.isSpace d = true :=
    fun d mem => isSpace_of_isBlank (blanks d (List.mem_append_left b₂ mem))
  have spelled : "mockable".toList = 'm' :: "ockable".toList := by decide
  have cut : Text.cutPrefix? (Text.trimSpace comment) "//" =
      some (String.ofList (b₁ ++ 'm' :: ("ockable".toList ++ b₂ ++ [':', ':'] ++ rest))) := by
    simp only [Text.cutPrefix?, Option.map_eq_some_iff]
    exact ⟨_, dropPrefix?_eq_some_iff.2 (by rw [lead, spelled]; simp), rfl⟩
  -- after the slashes, trimming drops the first blanks and keeps `mockable`, its blanks and `::`
  have trimmed : Text.trimSpace (String.ofList (b₁ ++ 'm' :: ("ockable".toList ++ b₂ ++
      [':', ':'] ++ rest))) = Text.trimRightBy Text.isSpace
        (String.ofList (("mockable".toList ++ b₂ ++ [':']) ++ ':' :: rest)) := by
    have same : ("mockable".toList ++ b₂ ++ [':']) ++ ':' :: rest =
        'm' :: ("ockable".toList ++ b₂ ++ [':', ':'] ++ rest) := by
      rw [spelled]
      simp
    rw [same, Text.trimSpace, Text.trimLeftBy, String.toList_ofList,
      List.dropWhile_append_of_pos spaced, List.dropWhile_cons]
    rfl
  have lengths : ("mockable".toList ++ [':', ':']).length ≤
      ("mockable".toList ++ b₂ ++ [':']).length + 1 := by
    simp only [List.length_append, List.length_cons, List.length_nil]
    omega
  have glued : "mockable::".toList = "mockable".toList ++ [':', ':'] := by decide
  unfold isMarker
  rw [cut]
  dsimp only
  rw [trimmed, hasPrefix_iff_starts, glued, prefix_trimRightBy_iff rfl lengths]
  have regrouped : "mockable".toList ++ b₂ ++ [':'] ++ ':' :: rest =
      "mockable".toList ++ (b₂ ++ ':' :: ':' :: rest) := by simp
  rw [regrouped, List.prefix_append_right_inj]
  cases b₂ with
  | nil => exact iff_of_true ⟨rest, rfl⟩ rfl
  | cons d b₂ =>
    -- the character after `mockable` is a blank, not a colon
    have blank : isBlank d = true := blanks d (by simp)
    refine iff_of_false ?_ (List.cons_ne_nil d b₂)
    rintro ⟨r, colons⟩
    obtain ⟨rfl, -⟩ := List.cons.inj colons
    cases blank

/-- **Read comments the quick test lets through.** The trimmed text of a comment that some
registry reads is `//`, blanks, `mockable`, blanks, `::` and the rest of the marker; it passes
the quick test exactly when no blank stands between `mockable` and `::`. -/
theorem read_marker_is_candidate_iff_glued {registry : Registry} {comment : String}
    {loc : Location} {a : Annotation} (read : readMarker registry comment loc = .ok a) :
    ∃ b₁ b₂ rest, (∀ c ∈ b₁ ++ b₂, isBlank c = true) ∧
      (Text.trimSpace comment).toList =
        ['/', '/'] ++ b₁ ++ "mockable".toList ++ b₂ ++ [':', ':'] ++ rest ∧
      (isMarker comment = true ↔ b₂ = []) := by
  obtain ⟨ts, w, lexed, parsed⟩ := readMarker_lexed read
  obtain ⟨b₀, b₁, b₂, b₃, k, rest, blanks, -, shape, -, -⟩ := markerText_read lexed parsed
  -- the trimmed text starts with the slashes: a leading blank would be white space
  have lead : b₀ = [] := by
    cases b₀ with
    | nil => rfl
    | cons d b₀ =>
      have blank : isBlank d = true := blanks d (by simp)
      simp only [List.cons_append] at shape
      have head := trimSpace_head shape
      rw [isSpace_of_isBlank blank] at head
      cases head
  subst lead
  have blanks' : ∀ c ∈ b₁ ++ b₂, isBlank c = true :=
    fun c mem => blanks c (by
      rcases List.mem_append.1 mem with first | second
      · simp [first]
      · simp [second])
  have shape' : (Text.trimSpace comment).toList =
      ['/', '/'] ++ b₁ ++ "mockable".toList ++ b₂ ++ [':', ':'] ++ (b₃ ++ k ++ rest) := by
    rw [shape]
    simp only [List.append_assoc, List.nil_append]
  exact ⟨b₁, b₂, b₃ ++ k ++ rest, blanks', shape', isMarker_lead blanks' shape'⟩

/-- A `static` marker without parameters passes the checks. -/
theorem validate_static_nil (loc : Location) :
    validate Registry.builtin .static loc [] = .ok [] := by
  have valid := (@validate_static loc [] (staticParams []) List.nodup_nil).2
    ⟨⟨List.nodup_nil, by simp, by simp, by simp⟩, rfl⟩
  simpa [staticParams, Text.sortBy] using valid

/-- The comment `//mockable::static` is read, and its text has no blanks around `mockable`. -/
theorem glued_marker_is_candidate :
    readMarker Registry.builtin "//mockable::static" {} =
        .ok ⟨.static, [], {}, "//mockable::static"⟩ ∧
      ∃ b₁ b₂ rest, (∀ c ∈ b₁ ++ b₂, isBlank c = true) ∧
        (Text.trimSpace "//mockable::static").toList =
          ['/', '/'] ++ b₁ ++ "mockable".toList ++ b₂ ++ [':', ':'] ++ rest ∧
        (isMarker "//mockable::static" = true ↔ b₂ = []) := by
  have lexed : lexMarker (Text.trimSpace "//mockable::static") = .ok
      [⟨.comment, "//", 1⟩, ⟨.word, "mockable", 3⟩, ⟨.separator, "::", 11⟩, ⟨.word, "static", 13⟩,
        ⟨.stop, "", 19⟩] := by decide +kernel
  have read : readMarker Registry.builtin "//mockable::static" {} =
      .ok ⟨.static, [], {}, "//mockable::static"⟩ :=
    @readMarker_of _ _ _ ⟨"static", []⟩ [] [] lexed (by decide +kernel) rfl rfl
      (validate_static_nil {})
  exact ⟨read, read_marker_is_candidate_iff_glued read⟩

/-- **The quick test hides a marker the reader takes.** `//mockable ::static` is read as a
`static` marker, yet the quick test refuses it. -/
theorem spaced_separator_read_but_not_candidate :
    readMarker Registry.builtin "//mockable ::static" {} =
        .ok ⟨.static, [], {}, "//mockable ::static"⟩ ∧
      isMarker "//mockable ::static" = false := by
  have lexed : lexMarker (Text.trimSpace "//mockable ::static") = .ok
      [⟨.comment, "//", 1⟩, ⟨.word, "mockable", 3⟩, ⟨.separator, "::", 12⟩, ⟨.word, "static", 14⟩,
        ⟨.stop, "", 20⟩] := by decide +kernel
  exact ⟨@readMarker_of _ _ _ ⟨"static", []⟩ [] [] lexed (by decide +kernel) rfl rfl
    (validate_static_nil {}), by decide +kernel⟩

end StaticWrap.Marker
