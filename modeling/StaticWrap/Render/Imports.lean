import StaticWrap.Model.Package
import StaticWrap.Model.Names
import StaticWrap.Text.Quote
import StaticWrap.Text.SlashPath
import StaticWrap.Text.Basic
/-!
**The import table of a generated file.**

Every package the file refers to gets one qualifier. The table is built while type text is
resolved (`ImportTable.qualify`), so the qualifiers are handed out in the order of first use.

* The file's own package, and an empty path, need no qualifier.
* A new package gets, in order of preference, its name (declared, or guessed from the path),
  the parent path element joined with the name (`crypto/rand` gives `cryptorand`), or the name
  with a number from 2 up: the first one that is not empty, not `_`, not reserved and not
  taken.
* `ImportTable.specs`: the imports sorted by path; an alias is written only when the
  qualifier differs from the name the package declares (for a package without a declared
  name, the guessed name counts as declared when it is the last path element).
* `ImportTable.importsText`: one `import` line, or a parenthesised block for several.
-/

namespace StaticWrap.Render

open StaticWrap.Model

/-- One import: its path, qualifier and the name the package is known to declare. -/
structure ImportEntry where
  path : String
  qualifier : String
  declared : String
  deriving DecidableEq, Repr

/-- The imports of a file of the package at `self`. -/
structure ImportTable where
  self : String
  reserved : List String := []
  entries : List ImportEntry := []
  deriving Repr

/-- An import as written: its path and, when needed, its alias. -/
structure ImportSpec where
  localName : String
  path : String
  deriving DecidableEq, Repr

/-- The name is taken by an import of the file. -/
def ImportTable.isQualifier (t : ImportTable) (name : String) : Bool :=
  t.entries.any (·.qualifier == name)

/-- The name can be handed out as a new qualifier. -/
def ImportTable.available (t : ImportTable) (name : String) : Bool :=
  !name.isEmpty && name != "_" && !t.reserved.contains name && !t.isQualifier name

/-- The characters of a text that may stand in an identifier; a digit is kept only after
some character was kept. -/
def identifierChars : List Char → Bool → List Char
  | [], _ => []
  | c :: rest, started =>
    if c == '_' || Text.isLetter c || (Text.isDigit c && started) then
      c :: identifierChars rest true
    else identifierChars rest started

/-- The numbered variants `name2`, `name3`, ... tried in order; `fuel` bounds the tries. -/
def numberedAlias (t : ImportTable) (name : String) : Nat → Nat → String
  | 0, i => name ++ toString i
  | fuel + 1, i =>
    let candidate := name ++ toString i
    if t.available candidate then candidate else numberedAlias t name fuel (i + 1)

/-- The qualifier chosen for a new package. -/
def ImportTable.pickAlias (t : ImportTable) (path name : String) : String :=
  if t.available name then name
  else
    let elems := Text.splitOn path "/"
    let parent := elems.getD (elems.length - 2) ""
    let joined := String.ofList (identifierChars (parent ++ name).toList false)
    if elems.length > 1 && t.available joined then joined
    else numberedAlias t name (t.entries.length + t.reserved.length + 1) 2

/-- The qualifier of a package, adding an import on first use. -/
def ImportTable.qualify (ref : PackageRef) : StateM ImportTable String := fun t =>
  if ref.path.isEmpty || ref.path == t.self then ("", t)
  else
    match t.entries.find? (·.path == ref.path) with
    | some e => (e.qualifier, t)
    | none =>
      let name := if ref.name.isEmpty then guessPackageName ref.path else ref.name
      let chosen := t.pickAlias ref.path name
      let declared :=
        if ref.name.isEmpty && Text.baseName ref.path == name then name else ref.name
      (chosen, { t with entries := t.entries ++ [⟨ref.path, chosen, declared⟩] })

/-- The qualifier of an import path, adding the import on first use. -/
def ImportTable.addImport (path : String) : StateM ImportTable String :=
  ImportTable.qualify { path := path }

/-- Resolves the placeholders of a text against the table. -/
def ImportTable.resolve (text : String) (refs : List PackageRef) : StateM ImportTable String :=
  resolveQualifiers text refs ImportTable.qualify

/-- The imports sorted by path, with an alias where the qualifier is not the declared name. -/
def ImportTable.specs (t : ImportTable) : List ImportSpec :=
  (Text.sortBy (·.path) t.entries).map fun e =>
    { localName := if e.qualifier != e.declared then e.qualifier else "", path := e.path }

/-- The import section of the file. -/
def ImportTable.importsText (t : ImportTable) : String :=
  let lines := t.specs.map fun s =>
    if s.localName.isEmpty then Text.quote s.path else s.localName ++ " " ++ Text.quote s.path
  match lines with
  | [] => ""
  | [l] => "import " ++ l ++ "\n"
  | ls => "import (\n" ++ String.join (ls.map fun l => "\t" ++ l ++ "\n") ++ ")\n"

end StaticWrap.Render
