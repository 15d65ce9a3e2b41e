import StaticWrap.Text.Unicode
/-!
**Go identifiers and keywords.**

An identifier is a non-empty word that is not a keyword, whose characters are letters or `_`,
and digits after the first. It is exported when its first character is an upper-case letter.

* `isKeyword`: the twenty-five keywords of the language.
* `isIdentifier`: the identifier rule above, for Unicode letters and digits.
* `isExported`: the first character is upper case.
-/

namespace StaticWrap.Go

/-- The keywords of the language. -/
def keywords : List String :=
  ["break", "case", "chan", "const", "continue", "default", "defer", "else", "fallthrough",
   "for", "func", "go", "goto", "if", "import", "interface", "map", "package", "range",
   "return", "select", "struct", "switch", "type", "var"]

/-- The word is a keyword. -/
def isKeyword (s : String) : Bool := keywords.contains s

/-- A character that may continue an identifier. -/
def isIdentChar (c : Char) : Bool := Text.isLetter c || c == '_' || Text.isDigit c

/-- A character that may start an identifier. -/
def isIdentStart (c : Char) : Bool := Text.isLetter c || c == '_'

/-- The characters form an identifier's spelling: a start character, then continuing ones. -/
def isIdentSpelling : List Char → Bool
  | [] => false
  | c :: rest => isIdentStart c && rest.all isIdentChar

/-- The word is an identifier: its spelling is right and it is not a keyword. -/
def isIdentifier (s : String) : Bool := isIdentSpelling s.toList && !isKeyword s

/-- The name is exported: its first character is an upper-case letter. -/
def isExported (s : String) : Bool :=
  match s.toList with
  | c :: _ => Text.isUpper c
  | [] => false

end StaticWrap.Go
