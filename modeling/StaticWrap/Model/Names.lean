import StaticWrap.Text.SlashPath
/-!
**Names derived from packages and types.**

* `pascalCase`: the separators `_ - .` are dropped and the character after each (and the first
  character) is upper-cased.
* `spliceWrapper`: `Wrapper` goes before the first `[` of a display name, or at its end.
* `guessPackageName`: the name a package most likely declares, from its import path: the last
  element (the one before it when the last is a major version `vN`), without a `.vN` suffix,
  without a `go-` prefix or `-go` suffix, without dashes and dots; when nothing is left, the
  path's base name.
-/

namespace StaticWrap.Model

/-- Upper-cases the first character and those after `_`, `-` and `.`, which are dropped. -/
def pascalCase (s : String) : String :=
  let step : Bool × List Char → Char → Bool × List Char := fun (up, acc) c =>
    if c == '_' || c == '-' || c == '.' then (true, acc)
    else if up then (false, Text.toUpper c :: acc)
    else (false, c :: acc)
  String.ofList (s.toList.foldl step (true, [])).2.reverse

/-- Inserts `Wrapper` before the first `[`, or appends it. -/
def spliceWrapper (display : String) : String :=
  match Text.indexOf? display "[" with
  | some i => Text.takeChars display i ++ "Wrapper" ++ Text.dropChars display i
  | none => display ++ "Wrapper"

/-- The text is a major version: `v` followed by one or more digits. -/
def isMajorVersion (s : String) : Bool :=
  match s.toList with
  | 'v' :: (d :: ds) => (d :: ds).all Char.isDigit
  | _ => false

/-- The package name most likely declared by the package at an import path. -/
def guessPackageName (importPath : String) : String :=
  let trimmed := Text.trimRightChars ['/'] (Text.trimLeftBy (· == '/') importPath)
  let elems := Text.splitOn trimmed "/"
  let last := elems.getLastD ""
  let name :=
    if isMajorVersion last && elems.length > 1 then elems.getD (elems.length - 2) "" else last
  let name :=
    match Text.lastIndexOf? name ".v" with
    | some i => if i > 0 && isMajorVersion (Text.dropChars name (i + 1)) then Text.takeChars name i
      else name
    | none => name
  let name := Text.trimSuffix (Text.trimPrefix name "go-") "-go"
  let name := Text.replaceAll (Text.replaceAll name "-" "") "." ""
  if name.isEmpty then Text.baseName importPath else name

end StaticWrap.Model
