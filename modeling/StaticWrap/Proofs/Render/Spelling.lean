import StaticWrap.Proofs.Render.ImportTable
import StaticWrap.Go.Ident
/-!
**How the qualifiers of a generated file are spelled.**

A package new to a file's import table gets the first available of three kinds of candidate:
its name (declared, or guessed from its path), the identifier characters of its parent path
element followed by the name (`crypto/rand` gives `cryptorand`), and the name followed by a
number from 2 up. Only the second is built to be an identifier, and no stage looks at keywords:

* `identifierChars_spelling`: the joined candidate, when not empty, is spelled as an
  identifier: letters, digits and `_`, no digit first;
* `numbered_spelling`, `numbered_not_keyword`: a numbered candidate is spelled as an identifier
  when the name is, and is never a keyword, since no keyword has a digit;
* `new_qualifier_spelling`: a new qualifier is one of the three candidates; it is spelled as an
  identifier whenever the name is, a keyword only when it is the name or the joined candidate,
  and so an identifier whenever the name is one and the joined candidate is no keyword;
* `addImport_hands_out_non_identifiers`: the name alone can be a keyword (`example.com/func`)
  or start with a digit (`example.com/123`), and the joined candidate can be a keyword
  (`x/ty/pe` after `a/pe` gives `type`).
-/

namespace StaticWrap.Render

open StaticWrap.Model

/-! ### Spelling of the candidates -/

theorem isIdentSpelling_cons {c : Char} {rest : List Char} :
    Go.isIdentSpelling (c :: rest) = true ↔ Go.isIdentStart c = true ∧ ∀ d ∈ rest, Go.isIdentChar d = true := by
  simp [Go.isIdentSpelling]

/-- Once a character is kept, every kept character may continue an identifier. -/
theorem identifierChars_identChar :
    ∀ (l : List Char) (started : Bool), ∀ c ∈ identifierChars l started, Go.isIdentChar c = true
  | [], _, _, mem => absurd mem List.not_mem_nil
  | c :: rest, started, d, mem => by
    unfold identifierChars at mem
    split at mem
    · rename_i kept
      rcases List.mem_cons.1 mem with rfl | later
      · simp only [Bool.or_eq_true, beq_iff_eq, Bool.and_eq_true] at kept
        simp only [Go.isIdentChar, Bool.or_eq_true, beq_iff_eq]
        tauto
      · exact identifierChars_identChar rest true d later
    · exact identifierChars_identChar rest started d mem

/-- **The joined candidate is spelled as an identifier**, unless it is empty: its first kept
character is a letter or `_`, since a digit is kept only after another character. -/
theorem identifierChars_spelling :
    ∀ l : List Char, identifierChars l false = [] ∨ Go.isIdentSpelling (identifierChars l false) = true
  | [] => .inl rfl
  | c :: rest => by
    unfold identifierChars
    split
    · rename_i kept
      refine .inr (isIdentSpelling_cons.2 ⟨?_, identifierChars_identChar rest true⟩)
      simp only [Bool.or_eq_true, beq_iff_eq, Bool.and_eq_true, Bool.false_eq_true,
        and_false, or_false] at kept
      simp only [Go.isIdentStart, Bool.or_eq_true, beq_iff_eq]
      tauto
    · exact identifierChars_spelling rest

theorem isDigit_of_mem_toDigits {n : Nat} {c : Char} (mem : c ∈ Nat.toDigits 10 n) :
    Text.isDigit c = true := by
  have digit := Nat.isDigit_of_mem_toDigits (by decide) (by decide) mem
  simp only [Char.isDigit, Bool.and_eq_true, decide_eq_true_eq] at digit
  have low : c.toNat < 0x80 := by
    change c.val.toNat < 128
    have := digit.2
    change c.val.toNat ≤ 57 at this
    omega
  simp only [Text.isDigit, low, if_true, Bool.and_eq_true, decide_eq_true_eq]
  exact digit

theorem toList_numbered (name : String) (n : Nat) :
    (name ++ toString n).toList = name.toList ++ Nat.toDigits 10 n := by
  rw [String.toList_append, Nat.toString_eq_repr, Nat.toList_repr]

/-- A name followed by a number is spelled as an identifier when the name is. -/
theorem numbered_spelling {name : String} (spelled : Go.isIdentSpelling name.toList = true)
    (n : Nat) : Go.isIdentSpelling (name ++ toString n).toList = true := by
  rw [toList_numbered]
  cases chars : name.toList with
  | nil => rw [chars] at spelled; cases spelled
  | cons c rest =>
    rw [chars, isIdentSpelling_cons] at spelled
    refine isIdentSpelling_cons.2 ⟨spelled.1, fun d mem => ?_⟩
    rcases List.mem_append.1 mem with early | digit
    · exact spelled.2 d early
    · simp [Go.isIdentChar, isDigit_of_mem_toDigits digit]

/-- No keyword has a digit. -/
theorem keywords_without_digits :
    Go.keywords.all (fun k => k.toList.all fun c => !Text.isDigit c) = true := by
  decide

/-- **A numbered candidate is never a keyword**: it ends in a digit. -/
theorem numbered_not_keyword (name : String) (n : Nat) : Go.isKeyword (name ++ toString n) = false := by
  rw [Bool.eq_false_iff]
  intro keyword
  have member : name ++ toString n ∈ Go.keywords := by simpa [Go.isKeyword] using keyword
  obtain ⟨d, last⟩ := List.exists_mem_of_ne_nil _ (Nat.toDigits_ne_nil (n := n))
  have inName : d ∈ (name ++ toString n).toList := by
    rw [toList_numbered]
    exact List.mem_append_right _ last
  have noDigit := List.all_eq_true.1 (List.all_eq_true.1 keywords_without_digits _ member) d inName
  simp [isDigit_of_mem_toDigits last] at noDigit

/-! ### A new qualifier -/

/-- The name a new package starts from: the declared one, else the one guessed from the path. -/
def startName (ref : PackageRef) : String :=
  if ref.name.isEmpty then guessPackageName ref.path else ref.name

/-- The second candidate: the identifier characters of the parent path element and the name. -/
def joinedAlias (path name : String) : String :=
  let elems := Text.splitOn path "/"
  String.ofList (identifierChars ((elems.getD (elems.length - 2) "") ++ name).toList false)

/-- A new qualifier is the name, the joined candidate, or the name numbered from 2 up. -/
theorem pickAlias_cases (t : ImportTable) (path name : String) :
    t.pickAlias path name = name ∨ t.pickAlias path name = joinedAlias path name ∨
      ∃ i, 2 ≤ i ∧ t.pickAlias path name = name ++ toString i := by
  unfold ImportTable.pickAlias
  split
  · exact .inl rfl
  · dsimp only
    split
    · exact .inr (.inl rfl)
    · obtain ⟨i, low, found, -⟩ := numberedAlias_first_free t name
      exact .inr (.inr ⟨i, low, found⟩)

/-- Qualifying a package new to the table hands out the alias picked for its starting name. -/
theorem qualify_new {t : ImportTable} {ref : PackageRef}
    (outside : (ref.path.isEmpty || ref.path == t.self) = false)
    (fresh : t.entries.find? (·.path == ref.path) = none) :
    (ImportTable.qualify ref t).1 = t.pickAlias ref.path (startName ref) := by
  unfold ImportTable.qualify
  rw [outside, if_neg Bool.false_ne_true, fresh]
  rfl

/-- **How a new qualifier is spelled.** For a package not yet imported (its path neither empty
nor the file's own), the qualifier is its starting name, the joined candidate, or the name
numbered from 2 up. It is spelled as an identifier whenever the name is; it is a keyword only
when it is the name or the joined candidate; so it is an identifier whenever the name is one
and the joined candidate is no keyword. -/
theorem new_qualifier_spelling (t : ImportTable) (ref : PackageRef)
    (outside : (ref.path.isEmpty || ref.path == t.self) = false)
    (fresh : t.entries.find? (·.path == ref.path) = none) :
    let q := (ImportTable.qualify ref t).1
    (q = startName ref ∨ q = joinedAlias ref.path (startName ref) ∨
      ∃ i, 2 ≤ i ∧ q = startName ref ++ toString i) ∧
    (Go.isIdentSpelling (startName ref).toList = true → Go.isIdentSpelling q.toList = true) ∧
    (Go.isKeyword q = true → q = startName ref ∨ q = joinedAlias ref.path (startName ref)) ∧
    (Go.isIdentifier (startName ref) = true →
      Go.isKeyword (joinedAlias ref.path (startName ref)) = false → Go.isIdentifier q = true) := by
  intro q
  have picked : q = t.pickAlias ref.path (startName ref) := qualify_new outside fresh
  have available := available_pickAlias t ref.path (startName ref)
  rw [← picked, ImportTable.available_iff] at available
  have cases := picked ▸ pickAlias_cases t ref.path (startName ref)
  -- the joined candidate, once handed out, is not empty, so it is spelled as an identifier
  have joinedSpelled : q = joinedAlias ref.path (startName ref) → Go.isIdentSpelling q.toList = true := by
    intro joined
    rcases identifierChars_spelling ((Text.splitOn ref.path "/").getD
        ((Text.splitOn ref.path "/").length - 2) "" ++ startName ref).toList with empty | spelled
    · refine absurd ?_ available.1
      rw [joined, joinedAlias, empty]
    · rw [joined, joinedAlias]
      simpa using spelled
  have spelling : Go.isIdentSpelling (startName ref).toList = true → Go.isIdentSpelling q.toList = true := by
    intro spelled
    rcases cases with named | joined | ⟨i, _, numbered⟩
    · rwa [named]
    · exact joinedSpelled joined
    · rw [numbered]
      exact numbered_spelling spelled i
  have keyword : Go.isKeyword q = true → q = startName ref ∨ q = joinedAlias ref.path (startName ref) := by
    intro isKeyword
    rcases cases with named | joined | ⟨i, _, numbered⟩
    · exact .inl named
    · exact .inr joined
    · rw [numbered, numbered_not_keyword] at isKeyword
      cases isKeyword
  refine ⟨cases, spelling, keyword, fun identifier notKeyword => ?_⟩
  simp only [Go.isIdentifier, Bool.and_eq_true, Bool.not_eq_true'] at identifier ⊢
  refine ⟨spelling identifier.1, Bool.eq_false_iff.2 fun isKeyword => ?_⟩
  rcases keyword isKeyword with named | joined
  · rw [named, identifier.2] at isKeyword
    cases isKeyword
  · rw [joined, notKeyword] at isKeyword
    cases isKeyword

/-- A file of `example.com/app` that already imports `math/rand` imports `crypto/rand` as
`cryptorand`, an identifier. -/
theorem new_qualifier_spelling_of_crypto_rand :
    let t : ImportTable := { self := "example.com/app", entries := [⟨"math/rand", "rand", "rand"⟩] }
    let ref : PackageRef := { path := "crypto/rand" }
    ((ref.path.isEmpty || ref.path == t.self) = false ∧ t.entries.find? (·.path == ref.path) = none) ∧
    let q := (ImportTable.qualify ref t).1
    (q = startName ref ∨ q = joinedAlias ref.path (startName ref) ∨
      ∃ i, 2 ≤ i ∧ q = startName ref ++ toString i) ∧
    (Go.isIdentSpelling (startName ref).toList = true → Go.isIdentSpelling q.toList = true) ∧
    (Go.isKeyword q = true → q = startName ref ∨ q = joinedAlias ref.path (startName ref)) ∧
    (Go.isIdentifier (startName ref) = true →
      Go.isKeyword (joinedAlias ref.path (startName ref)) = false → Go.isIdentifier q = true) :=
  ⟨⟨by decide, by decide⟩, new_qualifier_spelling _ _ (by decide) (by decide)⟩

/-- Qualifiers that are no identifiers: a keyword guessed from the path, a guessed name that
starts with a digit, and a joined candidate that is a keyword. -/
theorem addImport_hands_out_non_identifiers :
    let ops := [ImportOp.addImport "example.com/func", .addImport "example.com/123",
      .addImport "a/pe", .addImport "x/ty/pe"]
    ((ops.mapM ImportOp.run).run { self := "example.com/app" }).1 =
      [.qualifier "func", .qualifier "123", .qualifier "pe", .qualifier "type"] ∧
    Go.isKeyword "func" = true ∧ Go.isIdentifier "123" = false ∧ Go.isKeyword "type" = true := by
  decide +kernel

end StaticWrap.Render
