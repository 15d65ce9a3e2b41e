import StaticWrap.Text.SlashPath
/-!
**Cleaning slash paths.**

What `cleanPath` does, read on the characters of a path:

* `splitOn_intercalate`: splitting slash-free pieces joined by slashes gives the pieces back.
* `cleanElements_clean`, `cleanElements_of_clean`: cleaning leaves `CleanElements` (no empty
  element, no `.`, every `..` in front and none at the root), and keeps clean elements as they
  are.
* `cleanPath_cleanPath`: cleaning is idempotent, so a cleaned path names itself.
* `EndsIn.baseName`, `endsIn_joinPath`: a directory joined with a plain element, then cleaned
  or read from another directory, still has that element as its base name.
-/

namespace StaticWrap.Text

/-! ### Prefixes -/

theorem dropPrefix?_eq_some_iff {p l r : List Char} : dropPrefix? p l = some r ↔ l = p ++ r := by
  induction p generalizing l with
  | nil => simp [dropPrefix?, eq_comm]
  | cons c p ih =>
    cases l with
    | nil => simp [dropPrefix?]
    | cons d l =>
      simp only [dropPrefix?, List.cons_append, List.cons.injEq]
      by_cases same : c = d
      · subst same; simp [ih]
      · simp [same, Ne.symm same]

theorem hasPrefix_iff {s pre : String} :
    hasPrefix s pre = true ↔ ∃ r, s.toList = pre.toList ++ r := by
  simp [hasPrefix, cutPrefix?, Option.isSome_iff_exists, dropPrefix?_eq_some_iff]

theorem hasPrefix_iff_starts {s pre : String} : hasPrefix s pre = true ↔ pre.toList <+: s.toList := by
  rw [hasPrefix_iff]
  exact ⟨fun ⟨r, whole⟩ => ⟨r, whole.symm⟩, fun ⟨r, whole⟩ => ⟨r, whole.symm⟩⟩

theorem hasSuffix_iff_ends {s suf : String} : hasSuffix s suf = true ↔ suf.toList <:+ s.toList := by
  rw [← List.reverse_prefix]
  simp only [hasSuffix, cutSuffix?, Option.isSome_map, Option.isSome_iff_exists,
    dropPrefix?_eq_some_iff]
  exact ⟨fun ⟨r, whole⟩ => ⟨r, whole.symm⟩, fun ⟨r, whole⟩ => ⟨r, whole.symm⟩⟩

/-! ### Splitting at slashes -/

section Split

theorem splitList_slash_cons (acc : List Char) (c : Char) (rest : List Char) :
    splitList ['/'] acc (c :: rest) =
      if c = '/' then acc.reverse :: splitList ['/'] [] rest
      else splitList ['/'] (c :: acc) rest := by
  rw [splitList]
  simp only [reduceCtorEq, ↓reduceDIte, dropPrefix?]
  -- the separator is one character, so it matches exactly when `c` is a slash
  split
  · rename_i after found
    split at found
    · rename_i slash
      subst slash
      simp only [Option.some.injEq] at found
      simp [found]
    · simp at found
  · rename_i missing
    split at missing
    · simp at missing
    · rename_i slash
      simp [Ne.symm slash]

theorem splitList_slash_nil (acc : List Char) : splitList ['/'] acc [] = [acc.reverse] := by
  rw [splitList]

theorem splitList_slash_append (acc l rest : List Char) (noSlash : '/' ∉ l) :
    splitList ['/'] acc (l ++ rest) = splitList ['/'] (l.reverse ++ acc) rest := by
  induction l generalizing acc with
  | nil => rfl
  | cons c l ih =>
    have notSlash : c ≠ '/' := fun h => noSlash (h ▸ List.mem_cons_self)
    rw [List.cons_append, splitList_slash_cons, if_neg notSlash,
      ih _ (fun h => noSlash (List.mem_cons_of_mem _ h))]
    simp

/-- A slash-free piece after the last slash is the last piece. -/
theorem splitList_slash_snoc (acc l m : List Char) (noSlash : '/' ∉ m) :
    splitList ['/'] acc (l ++ '/' :: m) = splitList ['/'] acc l ++ [m] := by
  induction l generalizing acc with
  | nil =>
    have last : splitList ['/'] [] m = [m] := by
      simpa [splitList_slash_nil] using splitList_slash_append [] m [] noSlash
    simp [splitList_slash_cons, splitList_slash_nil, last]
  | cons c l ih =>
    rw [List.cons_append, splitList_slash_cons, splitList_slash_cons]
    split
    · simp [ih]
    · exact ih _

theorem splitList_slash_pieces (acc l : List Char) (noSlash : '/' ∉ acc) :
    ∀ x ∈ splitList ['/'] acc l, '/' ∉ x := by
  induction l generalizing acc with
  | nil => simpa [splitList_slash_nil] using noSlash
  | cons c rest ih =>
    rw [splitList_slash_cons]
    split
    · intro x member
      rcases List.mem_cons.1 member with rfl | later
      · simpa using noSlash
      · exact ih [] (by simp) x later
    · rename_i slash
      exact ih (c :: acc) (by simp [noSlash, Ne.symm slash])

/-- Splitting joined slash-free pieces gives the pieces back. -/
theorem splitList_slash_intercalate (L : List (List Char)) (nonempty : L ≠ [])
    (noSlash : ∀ x ∈ L, '/' ∉ x) : splitList ['/'] [] (['/'].intercalate L) = L := by
  induction L with
  | nil => exact absurd rfl nonempty
  | cons x L ih =>
    have first : '/' ∉ x := noSlash x List.mem_cons_self
    cases L with
    | nil =>
      simpa [splitList_slash_nil] using splitList_slash_append [] x [] first
    | cons y L =>
      rw [List.intercalate_cons_cons, List.append_assoc, splitList_slash_append [] x _ first,
        List.singleton_append, splitList_slash_cons, if_pos rfl,
        ih (by simp) (fun z member => noSlash z (List.mem_cons_of_mem _ member))]
      simp

theorem splitOn_slash (s : String) :
    splitOn s "/" = (splitList ['/'] [] s.toList).map String.ofList := rfl

theorem splitOn_intercalate (E : List String) (nonempty : E ≠ [])
    (noSlash : ∀ e ∈ E, '/' ∉ e.toList) : splitOn ("/".intercalate E) "/" = E := by
  have pieces : ∀ x ∈ E.map String.toList, '/' ∉ x := by
    simpa using noSlash
  rw [splitOn_slash, String.toList_intercalate, show "/".toList = ['/'] from rfl,
    splitList_slash_intercalate _ (by simpa using nonempty) pieces]
  simp

theorem splitOn_slash_prepend (s : String) : splitOn ("/" ++ s) "/" = "" :: splitOn s "/" := by
  rw [splitOn_slash, splitOn_slash, String.toList_append, show "/".toList = ['/'] from rfl,
    List.singleton_append, splitList_slash_cons, if_pos rfl]
  simp

theorem splitOn_empty : splitOn "" "/" = [""] := by
  rw [splitOn_slash]
  simp [splitList_slash_nil]

theorem splitOn_slash_no_slash (s : String) : ∀ x ∈ splitOn s "/", '/' ∉ x.toList := by
  rw [splitOn_slash]
  intro x member
  obtain ⟨l, piece, rfl⟩ := List.mem_map.1 member
  simpa using splitList_slash_pieces [] s.toList (by simp) l piece

end Split

/-! ### Clean elements -/

section Elements

/-- A path element as cleaning keeps it: not empty, not `.`, without a slash. -/
def IsElement (e : String) : Prop := e ≠ "" ∧ e ≠ "." ∧ '/' ∉ e.toList

/-- Elements as cleaning leaves them: `..` only before every other element, and never in a
rooted path. -/
structure CleanElements (rooted : Bool) (E : List String) : Prop where
  elements : ∀ e ∈ E, IsElement e
  dotsFirst : E.Pairwise fun a b => a ≠ ".." → b ≠ ".."
  noDotsAtRoot : rooted = true → ".." ∉ E

theorem isElement_up : IsElement ".." := ⟨by decide, by decide, by decide⟩

theorem CleanElements.nil (rooted : Bool) : CleanElements rooted [] := ⟨by simp, .nil, by simp⟩

theorem CleanElements.of_append {rooted : Bool} {E F : List String}
    (clean : CleanElements rooted (E ++ F)) : CleanElements rooted E :=
  ⟨fun e member => clean.elements e (List.mem_append_left _ member),
    (List.pairwise_append.1 clean.dotsFirst).1,
    fun r up => clean.noDotsAtRoot r (List.mem_append_left _ up)⟩

/-- An element that is not `..` can follow clean elements. -/
theorem CleanElements.snoc {rooted : Bool} {E : List String} {e : String}
    (clean : CleanElements rooted E) (element : IsElement e) (notUp : e ≠ "..") :
    CleanElements rooted (E ++ [e]) := by
  refine ⟨?_, ?_, ?_⟩
  · intro x member
    rcases List.mem_append.1 member with old | new
    · exact clean.elements x old
    · simp only [List.mem_singleton] at new; exact new ▸ element
  · exact List.pairwise_append.2 ⟨clean.dotsFirst, by simp, fun _ _ b last _ => by
      simp only [List.mem_singleton] at last; exact last ▸ notUp⟩
  · intro r up
    rcases List.mem_append.1 up with old | new
    · exact clean.noDotsAtRoot r old
    · simp at new; exact notUp new.symm

theorem not_skipped {e : String} (element : IsElement e) : ¬ (e.isEmpty || e == ".") = true := by
  simp only [Bool.or_eq_true, beq_iff_eq, not_or, String.isEmpty_iff]
  exact ⟨element.1, element.2.1⟩

/-- **Cleaning leaves clean elements**, whatever it reads. The accumulator holds the kept
elements, last first. -/
theorem cleanElements_clean (rooted : Bool) (acc xs : List String)
    (noSlash : ∀ x ∈ xs, '/' ∉ x.toList) (clean : CleanElements rooted acc.reverse) :
    CleanElements rooted (cleanElements rooted acc xs) := by
  induction xs generalizing acc with
  | nil => simpa [cleanElements] using clean
  | cons e es ih =>
    have rest : ∀ x ∈ es, '/' ∉ x.toList := fun x member =>
      noSlash x (List.mem_cons_of_mem _ member)
    unfold cleanElements
    by_cases skip : (e.isEmpty || e == ".") = true
    · rw [if_pos skip]; exact ih acc rest clean
    rw [if_neg skip]
    have element : IsElement e := by
      simp only [Bool.or_eq_true, beq_iff_eq, not_or, String.isEmpty_iff] at skip
      exact ⟨skip.1, skip.2, noSlash e List.mem_cons_self⟩
    by_cases up : (e == "..") = true
    · rw [if_pos up]
      cases acc with
      | cons a before =>
        dsimp only
        by_cases aUp : (a == "..") = true
        · -- a `..` after `..`s is kept: everything kept so far is `..`
          rw [if_pos aUp]
          apply ih _ rest
          have allUp : ∀ x ∈ (a :: before).reverse, x = ".." := by
            intro x member
            simp only [beq_iff_eq] at aUp
            have pairs := clean.dotsFirst
            rw [List.reverse_cons, List.pairwise_append] at pairs
            rcases List.mem_append.1 (by simpa using member : x ∈ before.reverse ++ [a]) with
              older | last
            · exact Classical.byContradiction fun ne => pairs.2.2 x older a (by simp) ne aUp
            · simpa [aUp] using last
          refine ⟨?_, ?_, ?_⟩
          · intro x member
            rw [List.reverse_cons, List.mem_append] at member
            rcases member with old | new
            · exact clean.elements x old
            · simp only [List.mem_singleton] at new; exact new ▸ isElement_up
          · rw [List.reverse_cons, List.pairwise_append]
            exact ⟨clean.dotsFirst, by simp, fun x member _ _ ne => absurd (allUp x member) ne⟩
          · intro r _
            exact absurd (allUp a (by simp)) (fun eq => clean.noDotsAtRoot r (by simp [eq]))
        · -- a `..` after an ordinary element drops it
          rw [if_neg aUp]
          apply ih _ rest
          exact CleanElements.of_append (by simpa using clean)
      | nil =>
        dsimp only
        cases rooted
        · exact ih [".."] rest ⟨by simpa using isElement_up, by simp, by simp⟩
        · exact ih [] rest (CleanElements.nil _)
    · rw [if_neg up]
      apply ih _ rest
      simpa using clean.snoc element (by simpa using up)

/-- **Cleaning keeps clean elements.** -/
theorem cleanElements_of_clean (rooted : Bool) (acc E : List String)
    (clean : CleanElements rooted (acc.reverse ++ E)) :
    cleanElements rooted acc E = acc.reverse ++ E := by
  induction E generalizing acc with
  | nil => simp [cleanElements]
  | cons e E ih =>
    have element : IsElement e := clean.elements e (by simp)
    unfold cleanElements
    rw [if_neg (not_skipped element)]
    by_cases up : (e == "..") = true
    · simp only [beq_iff_eq] at up
      subst up
      rw [if_pos (beq_self_eq_true _)]
      have allUp : ∀ x ∈ acc.reverse, x = ".." := by
        intro x member
        exact Classical.byContradiction fun ne =>
          (List.pairwise_append.1 clean.dotsFirst).2.2 x member ".." (by simp) ne rfl
      cases acc with
      | cons a before =>
        dsimp only
        have aUp : a = ".." := allUp a (by simp)
        rw [if_pos (by simp [aUp]), ih]
        · simp [aUp]
        · simpa [aUp] using clean
      | nil =>
        dsimp only
        cases rooted
        · rw [if_neg (by decide), ih [".."] (by simpa using clean)]
          simp
        · exact absurd (by simp) (clean.noDotsAtRoot rfl)
    · rw [if_neg up, ih (e :: acc) (by simpa using clean)]
      simp

/-- Cleaning reads an element after the others, whatever came before. -/
theorem cleanElements_snoc (rooted : Bool) (acc xs : List String) (e : String)
    (element : IsElement e) (notUp : e ≠ "..") :
    cleanElements rooted acc (xs ++ [e]) = cleanElements rooted acc xs ++ [e] := by
  induction xs generalizing acc with
  | nil =>
    rw [List.nil_append]
    unfold cleanElements
    rw [if_neg (not_skipped element), if_neg (by simpa using notUp)]
    simp [cleanElements]
  | cons x xs ih =>
    -- both sides take the same branch on `x`; only the rest differs
    rw [List.cons_append]
    unfold cleanElements
    split
    · exact ih acc
    · split
      · cases acc with
        | cons a before =>
          dsimp only
          split <;> exact ih _
        | nil =>
          dsimp only
          split <;> exact ih _
      · exact ih _

end Elements

/-! ### Cleaning is idempotent -/

section Idempotent

/-- Clean elements written as a path, the way cleaning writes them. -/
def joinElements (rooted : Bool) (E : List String) : String :=
  if rooted then "/" ++ "/".intercalate E
  else if ("/".intercalate E).isEmpty then "." else "/".intercalate E

theorem isRooted_slash (s : String) : isRooted ("/" ++ s) = true := by
  simp [isRooted, String.toList_append, show "/".toList = ['/'] from rfl]

theorem intercalate_ne_empty {E : List String} (elements : ∀ e ∈ E, IsElement e)
    (nonempty : E ≠ []) : "/".intercalate E ≠ "" := by
  obtain ⟨e, F, rfl⟩ := List.exists_cons_of_ne_nil nonempty
  intro empty
  have chars := congrArg String.toList empty
  have first := (elements e List.mem_cons_self).1
  cases F with
  | nil => exact first (by simpa using empty)
  | cons f F =>
    rw [String.intercalate_cons_cons, String.toList_append, String.toList_append] at chars
    exact first (String.toList_inj.1 (by simp_all))

theorem isRooted_intercalate {E : List String} (elements : ∀ e ∈ E, IsElement e) :
    isRooted ("/".intercalate E) = false := by
  cases E with
  | nil => rfl
  | cons e F =>
    have element := elements e List.mem_cons_self
    obtain ⟨c, cs, chars⟩ :=
      List.exists_cons_of_ne_nil (by simpa using element.1 : e.toList ≠ [])
    have notSlash : c ≠ '/' := fun h => element.2.2 (by simp [chars, h])
    cases F with
    | nil => simp [isRooted, chars, notSlash]
    | cons f F => simp [isRooted, String.toList_append, chars, notSlash]

/-- Cleaning is the writing of clean elements. -/
theorem cleanPath_eq_joinElements (p : String) :
    ∃ rooted E, CleanElements rooted E ∧ cleanPath p = joinElements rooted E := by
  by_cases empty : p.isEmpty
  · exact ⟨false, [], CleanElements.nil _, by simp [cleanPath, empty, joinElements]⟩
  · refine ⟨isRooted p, cleanElements (isRooted p) [] (splitOn p "/"),
      cleanElements_clean _ _ _ (splitOn_slash_no_slash p) (CleanElements.nil _), ?_⟩
    simp only [cleanPath, empty, joinElements]
    rfl

/-- Written clean elements are already clean. -/
theorem cleanPath_joinElements (rooted : Bool) (E : List String) (clean : CleanElements rooted E) :
    cleanPath (joinElements rooted E) = joinElements rooted E := by
  have noSlash : ∀ e ∈ E, '/' ∉ e.toList := fun e member => (clean.elements e member).2.2
  have keep : cleanElements rooted [] E = E := by
    simpa using cleanElements_of_clean rooted [] E (by simpa using clean)
  cases rooted with
  | true =>
    -- the leading slash splits off an empty piece, which cleaning drops
    have split : cleanElements true [] (splitOn ("/" ++ "/".intercalate E) "/") = E := by
      rw [splitOn_slash_prepend]
      by_cases nil : E = []
      · subst nil
        simp [splitOn_empty, cleanElements]
      · rw [splitOn_intercalate E nil noSlash]
        unfold cleanElements
        simpa using keep
    simp [cleanPath, joinElements, isRooted_slash, split]
  | false =>
    by_cases nil : E = []
    · subst nil
      have dot : splitOn "." "/" = ["."] := by
        simpa using splitOn_intercalate ["."] (by simp) (by simp)
      have relative : isRooted "." = false := by decide
      simp [cleanPath, joinElements, dot, cleanElements, relative]
    · have body := intercalate_ne_empty clean.elements nil
      simp [cleanPath, joinElements, String.isEmpty_iff, body, isRooted_intercalate clean.elements,
        splitOn_intercalate E nil noSlash, keep]

/-- **Cleaning twice is cleaning once.** -/
@[simp] theorem cleanPath_cleanPath (p : String) : cleanPath (cleanPath p) = cleanPath p := by
  obtain ⟨rooted, E, clean, eq⟩ := cleanPath_eq_joinElements p
  rw [eq, cleanPath_joinElements rooted E clean]

/-- Cleaning never gives the empty path. -/
theorem cleanPath_ne_empty (p : String) : cleanPath p ≠ "" := by
  obtain ⟨rooted, E, -, eq⟩ := cleanPath_eq_joinElements p
  rw [eq, joinElements]
  split
  · intro empty
    have := congrArg String.length empty
    simp [String.length_append] at this
  · split
    · decide
    · simp_all [String.isEmpty_iff]

theorem cleanPath_element {name : String} (element : IsElement name) : cleanPath name = name := by
  have clean : CleanElements false [name] := ⟨by simpa using element, by simp, by simp⟩
  have joined : joinElements false [name] = name := by
    simp [joinElements, String.isEmpty_iff, element.1]
  simpa [joined] using cleanPath_joinElements false [name] clean

end Idempotent

/-! ### The last element -/

section Last

theorem findList_slash_none (l : List Char) (i : Nat) (noSlash : '/' ∉ l) :
    findList ['/'] l i = none := by
  induction l generalizing i with
  | nil => rfl
  | cons c l ih =>
    have notSlash : c ≠ '/' := fun h => noSlash (h ▸ List.mem_cons_self)
    simp [findList, dropPrefix?, Ne.symm notSlash,
      ih _ (fun h => noSlash (List.mem_cons_of_mem _ h))]

theorem findList_slash_some (l m : List Char) (i : Nat) (noSlash : '/' ∉ l) :
    findList ['/'] (l ++ '/' :: m) i = some (i + l.length) := by
  induction l generalizing i with
  | nil => simp [findList, dropPrefix?]
  | cons c l ih =>
    have notSlash : c ≠ '/' := fun h => noSlash (h ▸ List.mem_cons_self)
    simp only [List.cons_append, findList, dropPrefix?, Ne.symm notSlash, Option.isSome_none,
      Bool.false_eq_true, ↓reduceIte, ih _ (fun h => noSlash (List.mem_cons_of_mem _ h)),
      List.length_cons]
    congr 1
    omega

/-- The path is an element after a slash, or the element alone. -/
def EndsIn (p name : String) : Prop := ∃ y, p = y ++ name ∧ (y = "" ∨ ∃ z, y = z ++ "/")

/-- **A path that ends in an element has it as its base name.** -/
theorem EndsIn.baseName {p name : String} (ends : EndsIn p name) (element : IsElement name) :
    baseName p = name := by
  obtain ⟨y, rfl, last⟩ := ends
  obtain ⟨c, cs, reversed⟩ := List.exists_cons_of_ne_nil
    (by simpa using element.1 : name.toList.reverse ≠ [])
  have notSlash : c ≠ '/' := fun h => element.2.2 (by
    rw [← List.mem_reverse, reversed, h]; exact List.mem_cons_self)
  -- no trailing slash to trim, since the element is last
  have trimmed : trimRightChars ['/'] (y ++ name) = y ++ name := by
    have rev : (y ++ name).toList.reverse = c :: (cs ++ y.toList.reverse) := by
      simp [String.toList_append, reversed]
    rw [trimRightChars, trimRightBy, rev, List.dropWhile_cons_of_neg (by simpa using notSlash),
      ← rev, List.reverse_reverse, String.ofList_toList]
  have nonempty : (y ++ name).isEmpty = false := by
    simpa [String.isEmpty_iff] using fun h => element.1 (String.append_eq_empty_iff.1 h).2
  simp only [Text.baseName, nonempty, Bool.false_eq_true, ↓reduceIte, trimmed]
  rcases last with rfl | ⟨z, rfl⟩
  · have none : lastIndexOf? name "/" = none := by
      have missing : findList ['/'] name.toList.reverse 0 = none :=
        findList_slash_none _ 0 (by simpa using element.2.2)
      simp [lastIndexOf?, show "/".toList = ['/'] from rfl, missing]
    rw [String.empty_append, none]
  · have some : lastIndexOf? (z ++ "/" ++ name) "/" = some z.length := by
      simp only [lastIndexOf?, show "/".toList = ['/'] from rfl, String.toList_append,
        List.reverse_append, List.reverse_cons, List.reverse_nil, List.nil_append,
        List.singleton_append, List.append_assoc]
      rw [findList_slash_some _ _ 0 (by simpa using element.2.2)]
      simp [← String.length_toList]
    rw [some]
    simp only [dropChars, String.toList_append, show "/".toList = ['/'] from rfl]
    rw [show z.toList ++ ['/'] ++ name.toList = (z.toList ++ ['/']) ++ name.toList from rfl,
      show z.length + 1 = (z.toList ++ ['/']).length by simp [String.length_toList],
      List.drop_left, String.ofList_toList]

/-- An element after a slash splits off as the last piece. -/
theorem splitOn_append_element (x name : String) (element : IsElement name) :
    splitOn (x ++ "/" ++ name) "/" = splitOn x "/" ++ [name] := by
  rw [splitOn_slash, splitOn_slash, String.toList_append, String.toList_append,
    show "/".toList = ['/'] from rfl, List.append_assoc, List.singleton_append,
    splitList_slash_snoc _ _ _ element.2.2]
  simp

/-- **Cleaning a path that ends in an element after a slash keeps that element last.** -/
theorem endsIn_cleanPath_append (x name : String) (element : IsElement name)
    (notUp : name ≠ "..") : EndsIn (cleanPath (x ++ "/" ++ name)) name := by
  have nonempty : (x ++ "/" ++ name).isEmpty = false := by
    simp [String.append_eq_empty_iff, element.1]
  have body : ∀ E : List String,
      "/".intercalate (E ++ [name]) =
        (if E = [] then "" else "/".intercalate E ++ "/") ++ name := by
    intro E
    by_cases nil : E = []
    · simp [nil]
    · rw [String.intercalate_append_of_ne_nil nil (by simp)]
      simp [nil, String.append_assoc]
  simp only [cleanPath, nonempty, Bool.false_eq_true, ↓reduceIte,
    splitOn_append_element x name element, cleanElements_snoc _ _ _ name element notUp, body]
  generalize cleanElements (isRooted (x ++ "/" ++ name)) [] (splitOn x "/") = E
  split
  · refine ⟨"/" ++ (if E = [] then "" else "/".intercalate E ++ "/"),
      by rw [String.append_assoc], ?_⟩
    right
    by_cases nil : E = []
    · exact ⟨"", by simp [nil]⟩
    · exact ⟨"/" ++ "/".intercalate E, by simp [nil, String.append_assoc]⟩
  · rw [if_neg (by simp [String.isEmpty_iff, String.append_eq_empty_iff, element.1])]
    refine ⟨_, rfl, ?_⟩
    by_cases nil : E = []
    · simp [nil]
    · exact .inr ⟨"/".intercalate E, by simp [nil]⟩

theorem EndsIn.cleanPath {p name : String} (ends : EndsIn p name) (element : IsElement name)
    (notUp : name ≠ "..") : EndsIn (Text.cleanPath p) name := by
  obtain ⟨y, rfl, last⟩ := ends
  rcases last with rfl | ⟨z, rfl⟩
  · exact ⟨"", by simp [cleanPath_element element], .inl rfl⟩
  · exact endsIn_cleanPath_append z name element notUp

/-- Reading a path that ends in an element from another directory keeps the element last. -/
theorem EndsIn.below {p name : String} (cwd : String) (ends : EndsIn p name)
    (element : IsElement name) (notUp : name ≠ "..") :
    EndsIn (Text.cleanPath (cwd ++ "/" ++ p)) name := by
  obtain ⟨y, rfl, last⟩ := ends
  rcases last with rfl | ⟨z, rfl⟩
  · rw [String.empty_append]
    exact endsIn_cleanPath_append cwd name element notUp
  · have ends := endsIn_cleanPath_append (cwd ++ "/" ++ z) name element notUp
    simp only [String.append_assoc] at ends ⊢
    exact ends

/-- **A directory joined with an element ends in the element.** -/
theorem endsIn_joinPath (d name : String) (element : IsElement name) (notUp : name ≠ "..") :
    EndsIn (joinPath [d, name]) name := by
  by_cases empty : d = ""
  · subst empty
    have only : [("" : String), name].filter (!·.isEmpty) = [name] := by
      simp [element.1]
    simp only [joinPath, only, String.intercalate_singleton, cleanPath_element element]
    exact ⟨"", by simp, .inl rfl⟩
  · have both : [d, name].filter (!·.isEmpty) = [d, name] := by
      simp [element.1, empty]
    simp only [joinPath, both, String.intercalate_cons_cons, String.intercalate_singleton]
    exact endsIn_cleanPath_append d name element notUp

end Last

end StaticWrap.Text

namespace StaticWrap

/-- What a run over a list gives, when no step fails, comes each from one element. -/
theorem mapM_ok_mem {α β ε : Type} {f : α → Except ε β} :
    ∀ {l : List α} {r : List β}, l.mapM f = .ok r → ∀ y ∈ r, ∃ x ∈ l, f x = .ok y
  | [], _, ok => by
    cases ok
    simp
  | x :: l, r, ok => by
    rw [List.mapM_cons] at ok
    rcases first : f x with e | y
    · rw [first] at ok
      cases ok
    rcases rest : l.mapM f with e | ys
    · rw [first, rest] at ok
      cases ok
    rw [first, rest] at ok
    cases ok
    intro z mem
    rcases List.mem_cons.1 mem with rfl | later
    · exact ⟨x, List.mem_cons_self, first⟩
    · obtain ⟨w, found, eq⟩ := mapM_ok_mem rest z later
      exact ⟨w, List.mem_cons_of_mem _ found, eq⟩

end StaticWrap
