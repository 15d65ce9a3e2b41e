import StaticWrap.Text.Unicode
/-!
**Operations on text: trimming, splitting, searching and replacing.**

Every operation works on the characters of the text (`String.toList`) and builds the result
with `String.ofList`, so each is a plain recursion on a list.

* `trimSpace` drops white space (`isSpace`) from both ends.
* `splitOn s sep` cuts `s` at every occurrence of a non-empty `sep`, keeping empty pieces;
  an empty text gives one empty piece.
* `cutPrefix?`, `cutSuffix?` remove a prefix or suffix when it is there.
* `indexOf?`, `lastIndexOf?` find the first and last occurrence of a piece.
* `replaceAll` replaces every occurrence of a non-empty piece, left to right.
* `sortTexts`, `sortBy`: stable sorts by code point, where a proper prefix comes first; this is
  also the order of the texts' UTF-8 bytes.
-/

namespace StaticWrap.Text

/-- Drops the leading characters that satisfy `p`. -/
def trimLeftBy (p : Char → Bool) (s : String) : String :=
  String.ofList (s.toList.dropWhile p)

/-- Drops the trailing characters that satisfy `p`. -/
def trimRightBy (p : Char → Bool) (s : String) : String :=
  String.ofList (s.toList.reverse.dropWhile p).reverse

/-- Drops white space from both ends. -/
def trimSpace (s : String) : String :=
  trimRightBy isSpace (trimLeftBy isSpace s)

/-- Drops the given characters from the end. -/
def trimRightChars (chars : List Char) (s : String) : String :=
  trimRightBy (chars.contains ·) s

/-- The rest of `l` after the prefix `p`, when `l` starts with `p`. -/
def dropPrefix? : List Char → List Char → Option (List Char)
  | [], l => some l
  | _ :: _, [] => none
  | c :: p, d :: l => if c = d then dropPrefix? p l else none

/-- The text after the prefix, when the text starts with it. -/
def cutPrefix? (s pre : String) : Option String :=
  (dropPrefix? pre.toList s.toList).map String.ofList

/-- The text before the suffix, when the text ends with it. -/
def cutSuffix? (s suf : String) : Option String :=
  (dropPrefix? suf.toList.reverse s.toList.reverse).map fun r => String.ofList r.reverse

/-- The text starts with the prefix. -/
def hasPrefix (s pre : String) : Bool := (cutPrefix? s pre).isSome

/-- The text ends with the suffix. -/
def hasSuffix (s suf : String) : Bool := (cutSuffix? s suf).isSome

/-- The text without the prefix, or the text itself. -/
def trimPrefix (s pre : String) : String := (cutPrefix? s pre).getD s

/-- The text without the suffix, or the text itself. -/
def trimSuffix (s suf : String) : String := (cutSuffix? s suf).getD s

/-- What is left after a prefix is as much shorter as the prefix is long. -/
theorem length_of_dropPrefix? {p l r : List Char} (h : dropPrefix? p l = some r) :
    r.length + p.length = l.length := by
  induction p generalizing l with
  | nil => simp [dropPrefix?] at h; simp [h]
  | cons c p ih =>
    cases l with
    | nil => simp [dropPrefix?] at h
    | cons d l =>
      simp only [dropPrefix?] at h
      split at h
      · have := ih h; simp; omega
      · simp at h

/-- Dropping from a list never makes it longer. -/
theorem length_drop_le {α : Type} (n : Nat) (l : List α) : (l.drop n).length ≤ l.length := by
  simp only [List.length_drop]
  omega

/-- Splits a list at every occurrence of a non-empty separator. The current piece is kept
reversed in `acc`. -/
def splitList (sep : List Char) (acc : List Char) : List Char → List (List Char)
  | [] => [acc.reverse]
  | c :: rest =>
    if hs : sep = [] then [acc.reverse ++ c :: rest]
    else
      match h : dropPrefix? sep (c :: rest) with
      | some after =>
        -- the separator is not empty, so what follows it is shorter
        have : after.length < (c :: rest).length := by
          have dropped := length_of_dropPrefix? h
          have : sep.length ≠ 0 := by simpa using hs
          omega
        acc.reverse :: splitList sep [] after
      | none => splitList sep (c :: acc) rest
  termination_by l => l.length
  decreasing_by all_goals simp only [List.length_cons] at *; omega

/-- Cuts the text at every occurrence of the separator, keeping empty pieces. -/
def splitOn (s sep : String) : List String :=
  (splitList sep.toList [] s.toList).map String.ofList

/-- The character offset of the first occurrence of a piece in a list. -/
def findList (sub : List Char) : List Char → Nat → Option Nat
  | [], i => if sub.isEmpty then some i else none
  | c :: rest, i =>
    if (dropPrefix? sub (c :: rest)).isSome then some i else findList sub rest (i + 1)

/-- The character offset of the first occurrence of a piece. -/
def indexOf? (s sub : String) : Option Nat := findList sub.toList s.toList 0

/-- The character offset of the last occurrence of a piece. -/
def lastIndexOf? (s sub : String) : Option Nat :=
  (findList sub.toList.reverse s.toList.reverse 0).map fun i => s.length - sub.length - i

/-- The piece occurs in the text. -/
def containsText (s sub : String) : Bool := (indexOf? s sub).isSome

/-- The first `n` characters. -/
def takeChars (s : String) (n : Nat) : String := String.ofList (s.toList.take n)

/-- All but the first `n` characters. -/
def dropChars (s : String) (n : Nat) : String := String.ofList (s.toList.drop n)

/-- Replaces every occurrence of a non-empty piece, left to right. -/
def replaceAll (s old new : String) : String :=
  String.intercalate new (splitOn s old)

/-- Lower-cases every character. -/
def lower (s : String) : String := String.ofList (s.toList.map toLower)

/-- Upper-cases every character. -/
def upper (s : String) : String := String.ofList (s.toList.map toUpper)

/-- Splits a list at runs of characters satisfying `p`, dropping empty pieces. -/
def fieldsBy (p : Char → Bool) (l : List Char) : List (List Char) :=
  let step : Char → List Char × List (List Char) → List Char × List (List Char) :=
    fun c (cur, done) =>
      if p c then ([], if cur.isEmpty then done else cur :: done) else (c :: cur, done)
  let (cur, done) := l.foldr step ([], [])
  if cur.isEmpty then done else cur :: done

/-- The pieces of the text between runs of white space. -/
def fields (s : String) : List String := (fieldsBy isSpace s.toList).map String.ofList

/-- The text repeated `n` times. -/
def repeatText (s : String) : Nat → String
  | 0 => ""
  | n + 1 => s ++ repeatText s n

/-! ### Sorting -/

/-- The first text comes no later than the second. -/
def textLe (a b : String) : Bool := decide (a ≤ b)

/-- Sorts texts by code point. -/
def sortTexts (l : List String) : List String := l.mergeSort textLe

/-- Sorts items by a text key, keeping the order of items with equal keys. -/
def sortBy {α : Type} (key : α → String) (l : List α) : List α :=
  l.mergeSort fun a b => textLe (key a) (key b)

end StaticWrap.Text
