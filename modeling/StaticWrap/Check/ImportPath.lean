import StaticWrap.Text.Quote
/-!
**Well-formed import paths.**

An import path is a non-empty text that does not start with a dash, holds no double slash and
does not end with a slash. Each element between slashes is non-empty, is not made of dots only,
does not end with a dot, uses only ASCII letters, digits and `- . _ ~ +`, is not a reserved
device name of Windows (before its first dot, in any case), and does not end in a tilde
followed by digits.

* `PathFault`: the first rule a path breaks, in the order above.
* `checkImportPath`: the first fault of a path, element by element from the left.
* `PathFault.describe`: `malformed import path "p": <fault>`.

A package whose path has an element `internal` may be imported only from the tree rooted at
the parent of the last such element: from the parent itself or from a path below it. Packages
under a leading `internal` element belong to the standard library and are never importable.

* `importable path from`: the package at `path` may be imported by the package at `from`.
-/

namespace StaticWrap.Check

/-- The first rule an import path breaks. -/
inductive PathFault where
  | empty
  | leadingDash
  | doubleSlash
  | trailingSlash
  | emptyElement
  | dotsOnly (element : String)
  | trailingDot
  | invalidChar (c : Char)
  | reservedName (short : String)
  | tildeDigits
  deriving DecidableEq, Repr

/-- The text of a fault. -/
def PathFault.message : PathFault → String
  | .empty => "empty string"
  | .leadingDash => "leading dash"
  | .doubleSlash => "double slash"
  | .trailingSlash => "trailing slash"
  | .emptyElement => "empty path element"
  | .dotsOnly e => "invalid path element " ++ Text.quote e
  | .trailingDot => "trailing dot in path element"
  | .invalidChar c => "invalid char " ++ Text.quoteChar c
  | .reservedName short => Text.quote short ++ " disallowed as path element component on Windows"
  | .tildeDigits => "trailing tilde and digits in path element"

/-- The full text of a fault of the path `p`. -/
def PathFault.describe (p : String) (f : PathFault) : String :=
  "malformed import path " ++ Text.quote p ++ ": " ++ f.message

/-- A character allowed in an import path element. -/
def pathCharOk (c : Char) : Bool :=
  c == '-' || c == '.' || c == '_' || c == '~' || c == '+' ||
    ('0' ≤ c && c ≤ '9') || ('A' ≤ c && c ≤ 'Z') || ('a' ≤ c && c ≤ 'z')

/-- The device names that Windows reserves. -/
def reservedNames : List String :=
  ["CON", "PRN", "AUX", "NUL"] ++
    (List.range 9).map (fun i => "COM" ++ toString (i + 1)) ++
    (List.range 9).map (fun i => "LPT" ++ toString (i + 1))

/-- Upper-cases the ASCII letters of a text. -/
def asciiUpper (s : String) : String := String.ofList (s.toList.map Char.toUpper)

/-- The first fault of one path element. -/
def elementFault? (e : String) : Option PathFault :=
  let cs := e.toList
  if cs.isEmpty then some .emptyElement
  else if cs.all (· == '.') then some (.dotsOnly e)
  else if cs.getLast? == some '.' then some .trailingDot
  else
    match cs.find? (fun c => !pathCharOk c) with
    | some c => some (.invalidChar c)
    | none =>
      let short := String.ofList (cs.takeWhile (· != '.'))
      if reservedNames.contains (asciiUpper short) then some (.reservedName short)
      else
        let sc := short.toList
        match (sc.reverse.takeWhile (· != '~')).reverse, sc.contains '~' with
        | suffix, true =>
          if !suffix.isEmpty && suffix.all (fun c => '0' ≤ c && c ≤ '9') then some .tildeDigits
          else none
        | _, false => none

/-- The first fault of an import path, or none when it is well formed. -/
def checkImportPath (p : String) : Option PathFault :=
  let cs := p.toList
  if cs.isEmpty then some .empty
  else if cs.head? == some '-' then some .leadingDash
  else if Text.containsText p "//" then some .doubleSlash
  else if cs.getLast? == some '/' then some .trailingSlash
  else (Text.splitOn p "/").findSome? elementFault?

/-! ### The internal-package rule -/

/-- The package at `path` may be imported by the package at `from`. -/
def importable (path importer : String) : Bool :=
  let parent? : Option (Option String) :=
    if Text.hasSuffix path "/internal" then
      some (some (Text.takeChars path (path.length - "/internal".length)))
    else match Text.lastIndexOf? path "/internal/" with
      | some i => some (some (Text.takeChars path i))
      | none =>
        if path == "internal" || Text.hasPrefix path "internal/" then some none else none
  match parent? with
  | none => true
  | some none => false
  | some (some parent) => importer == parent || Text.hasPrefix importer (parent ++ "/")

end StaticWrap.Check
