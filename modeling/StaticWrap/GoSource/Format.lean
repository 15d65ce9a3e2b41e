import StaticWrap.GoSource.PrintNodes
import StaticWrap.GoSource.ImportSort
/-!
**Formatting Go source text.**

* `formatSource` gives the canonical layout of a source text: parse, sort the imports, print.
  A text that is not a whole file (it lacks the package clause) is formatted as a list of
  declarations, or failing that as a list of statements, and put back between the white space
  it started and ended with.
* `formatCode` is `formatSource`, with a parse error reported as "invalid Go syntax".
* `groupImports` merges the import declarations into one, sorts the imports into groups
  (standard library first, then the others) with a blank line between groups, and formats the
  result; the file name prefixes the positions of parse errors.
-/

namespace StaticWrap.GoSource

/-- White space between a fragment and its surroundings. -/
def isEdgeSpace (c : Char) : Bool := c == ' ' || c == '\t' || c == '\n' || c == '\r'

/-- The parse of a text when it has no syntax error, or the message of its errors. -/
def parseClean (name text : String) : Except String Parsed :=
  let p := parseFile text
  match p.file with
  | some _ => if p.errors.isEmpty then .ok p else .error (errorListText name (p.sortedErrors name))
  | none => .error (errorListText name (p.sortedErrors name))

/-- How a text that is not a whole file was made one: by a package clause before it
(declarations) or also a function around it (statements). -/
inductive Wrapping where
  | decls
  | stmts
  deriving DecidableEq

/-- Formats a fragment that parsed once wrapped, and puts it back between the white space the
source started and ended with. The first code line's indentation (tabs, or one level for
spaces alone) indents the whole fragment. -/
def formatFragment (src : String) (p : Parsed) (w : Wrapping) : String :=
  let cs := src.toList
  let lead := cs.takeWhile isEdgeSpace
  let lastBreak := lead.length - (lead.reverse.takeWhile (· != '\n')).length
  let indentChars := lead.drop lastBreak
  let tabs := (indentChars.filter (· == '\t')).length
  let indent := if tabs == 0 && indentChars.contains ' ' then 1 else tabs
  let base : Int := if w == .stmts then (indent : Int) - 1 else indent
  let printed := printFileText p.lines p.fileOrEmpty true base
  let cut := base.toNat
  let body := match w with
    | .decls => Text.dropChars printed (cut + "package p\n".length)
    | .stmts =>
      let rest := Text.dropChars printed (2 * cut + "package p\n\nfunc _() \x7b".length)
      Text.takeChars rest (rest.length - 2)
  let out := Text.trimSpace body
  if out.isEmpty then src
  else
    let trail := cs.reverse.takeWhile isEdgeSpace
    String.ofList (cs.take lastBreak) ++ String.ofList (List.replicate indent '\t') ++ out ++
      String.ofList trail.reverse

/-- The canonical layout of a source text, or the message of its syntax errors. -/
def formatSource (src : String) : Except String String :=
  match parseClean "" src with
  | .ok p =>
    let (f, lines) := ImportSort.sortImportsPlain p.fileOrEmpty p.lines
    .ok (printFileText lines f true 0)
  | .error msg =>
    if !Text.containsText msg "expected 'package'" then .error msg
    else
      match parseClean "" ("package p;" ++ src) with
      | .ok p => .ok (formatFragment src p .decls)
      | .error msg =>
        if !Text.containsText msg "expected declaration" then .error msg
        else
          match parseClean "" ("package p; func _() \x7b" ++ src ++ "\n\n\x7d") with
          | .ok p => .ok (formatFragment src p .stmts)
          | .error msg => .error msg

/-- Formats Go source text; a text that does not parse is reported as invalid Go syntax,
with the formatter's own message after it. -/
def formatCode (src : String) : Except String String :=
  match formatSource src with
  | .ok out => .ok out
  | .error err =>
    match parseClean "" src with
    | .error parseErr => .error ("invalid Go syntax: " ++ parseErr ++ " (format error: " ++ err ++ ")")
    | .ok _ => .error err

/-- Groups and sorts the imports of a whole file and formats it. -/
def groupImports (fileName src : String) : Except String String :=
  match parseClean fileName src with
  | .error msg => .error msg
  | .ok p =>
    let f := ImportSort.mergeImports p.fileOrEmpty
    let (f, lines) := ImportSort.sortImportsGrouped f p.lines
    let breaks := ImportSort.groupBreaks (ImportSort.importSections f lines)
    let printed := printFileText lines f false 0
    let spaced := if breaks.isEmpty then printed else ImportSort.insertGroupBreaks printed breaks
    formatSource spaced

end StaticWrap.GoSource
