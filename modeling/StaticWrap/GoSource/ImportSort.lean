import StaticWrap.GoSource.Syntax
import StaticWrap.GoSource.Lines
import StaticWrap.GoSource.Comment
import StaticWrap.Text.Quote
import StaticWrap.Text.Basic
/-!
**Sorting import declarations.**

Imports are sorted in runs: specifications on successive lines form a run, and a blank line
separates runs. Within a run the specifications are sorted and exact duplicates dropped; the
sorted specifications take over the positions of the old ones, in order, so the layout of the
run is kept. Comments inside the run move with the specification they belong to, and lines
left empty by dropped duplicates are joined to their neighbours in the line table, so the
printer does not see them.

Two orders are in use:

* `sortImportsPlain`, the formatter's: by path, then name, then comment. A comment belongs to
  the specification on its line, or to the next one when it stands on its own line just before
  it.
* `groupImports`, the import grouper's: all import declarations are first merged into the
  first one; then specifications sort by group (standard library, then paths whose first
  element has a dot, then `appengine` paths), then as above. A comment belongs to the
  specification before it and is moved to the end of that specification's line.

`importSections` gives the specifications of each run after sorting, and `insertGroupBreaks`
puts a blank line before the first specification of each group in the printed text.
-/

namespace StaticWrap.GoSource

namespace ImportSort

/-- The path an import specification names, or empty when its literal is malformed. -/
def specPath : Spec → String
  | .importSpec _ _ _ path _ _ => (Text.unquote? path).getD ""
  | _ => ""

/-- The local name of an import specification, or empty. -/
def specName : Spec → String
  | .importSpec _ (some n) _ _ _ _ => n.name
  | _ => ""

/-- The text of the line comment of an import specification, or empty. -/
def specNote : Spec → String
  | .importSpec _ _ _ _ (some c) _ => groupText (c.list.map (·.text))
  | _ => ""

/-- Whether an import specification has a line comment. -/
def specHasNote : Spec → Bool
  | .importSpec _ _ _ _ (some _) _ => true
  | _ => false

/-- Whether the first of two neighbouring specifications can be dropped in favour of the
second: same path and name, and no comment on the first. -/
def collapse (prev next : Spec) : Bool :=
  specPath next == specPath prev && specName next == specName prev && !specHasNote prev

/-- The specification placed at new positions. -/
def specMove (s : Spec) (start stop : Nat) : Spec :=
  match s with
  | .importSpec doc name _ path comment _ =>
    .importSpec doc (name.map fun n => { n with pos := start }) start path comment stop
  | other => other

/-- Every comment of a group placed at one position. -/
def groupMove (g : CommentGroup) (p : Nat) : CommentGroup :=
  ⟨g.list.map fun c => { c with pos := p }⟩

/-- A comment group after the moves (old position, new group). -/
def retarget (moves : Array (Nat × CommentGroup)) (g : CommentGroup) : CommentGroup :=
  match moves.find? (·.1 == g.pos) with
  | some (_, g') => g'
  | none => g

/-- A specification whose comments follow the moves. -/
def specRetarget (moves : Array (Nat × CommentGroup)) (s : Spec) : Spec :=
  match s with
  | .importSpec doc name p path comment e =>
    .importSpec (doc.map (retarget moves)) name p path (comment.map (retarget moves)) e
  | other => other

/-- The comments from `lo` to `hi` (excluded) after the moves, ordered by position. -/
def applyMoves (comments : Array CommentGroup) (lo hi : Nat)
    (moves : Array (Nat × CommentGroup)) : Array CommentGroup :=
  let seg := (comments.extract lo hi).toList.map (retarget moves)
  let seg := seg.mergeSort fun a b => a.pos ≤ b.pos
  comments.extract 0 lo ++ seg.toArray ++ comments.extract hi comments.size

/-- The import group of a path: 2 for `appengine` paths, 1 when the first element has a dot,
0 otherwise. -/
def importGroup (path : String) : Nat :=
  if Text.hasPrefix path "appengine" then 2
  else if ((Text.splitOn path "/").headD "").toList.contains '.' then 1
  else 0

/-- The formatter's order: path, name, comment. -/
def plainBefore (a b : Spec) : Bool :=
  let pa := specPath a
  let pb := specPath b
  if pa != pb then decide (pa < pb)
  else
    let na := specName a
    let nb := specName b
    if na != nb then decide (na < nb) else decide (specNote a < specNote b)

/-- The grouper's order: group, then the formatter's order. -/
def groupedBefore (a b : Spec) : Bool :=
  let ga := importGroup (specPath a)
  let gb := importGroup (specPath b)
  if ga != gb then ga < gb else plainBefore a b

/-- The indices of the specifications in a stable order. -/
def sortedIndices (specs : Array Spec) (before : Spec → Spec → Bool) : List Nat :=
  (List.range specs.size).mergeSort fun i j =>
    !(before (specs.getD j default) (specs.getD i default))

/-- Drops a specification that collapses into the next one, joining its line with the next
line. -/
def dedup (specs : Array Spec) (order : List Nat) (lines : Lines) : Array Nat × Lines :=
  Id.run do
    let ord := order.toArray
    let mut kept : Array Nat := #[]
    let mut lines := lines
    for j in [0:ord.size] do
      let a := ord.getD j 0
      let s := specs.getD a default
      if j + 1 == ord.size || !collapse s (specs.getD (ord.getD (j + 1) 0) default) then
        kept := kept.push a
      else lines := lines.merge (lines.line s.pos)
    return (kept, lines)

/-- The formatter's sorting of one run. -/
def sortRunPlain (lines : Lines) (comments : Array CommentGroup) (specs : Array Spec) :
    Array Spec × Array CommentGroup × Lines := Id.run do
  if specs.size ≤ 1 then return (specs, comments, lines)
  let pos := specs.map fun s => (s.pos, s.end)
  let begSpecs := (pos.getD 0 (0, 0)).1
  let endSpecs := (pos.back?.getD (0, 0)).2
  let beg := lines.lineStart (lines.line begSpecs)
  let endLine := lines.line endSpecs
  let stop := if endLine == lines.count then endSpecs else lines.lineStart (endLine + 1)
  let mut first := comments.size
  let mut last : Option Nat := none
  for i in [0:comments.size] do
    let g := comments.getD i default
    if g.end ≥ stop then break
    if beg ≤ g.pos then
      if i < first then first := i
      last := some i
  let (lo, hi) := match last with
    | some l => (first, l + 1)
    | none => (0, 0)
  let mut owners : Array (Nat × Bool) := #[]
  let mut specIndex := 0
  for k in [lo:hi] do
    let g := comments.getD k default
    for _ in [0:specs.size] do
      if specIndex + 1 < specs.size && (pos.getD (specIndex + 1) (0, 0)).1 ≤ g.pos then
        specIndex := specIndex + 1
      else break
    let mut left := false
    if specIndex == 0 && (pos.getD 0 (0, 0)).1 > g.pos then left := true
    else if specIndex + 1 < specs.size &&
        lines.line (pos.getD specIndex (0, 0)).1 + 1 == lines.line g.pos then
      specIndex := specIndex + 1
      left := true
    owners := owners.push (specIndex, left)
  let (kept, lines) := dedup specs (sortedIndices specs plainBefore) lines
  let mut moves : Array (Nat × CommentGroup) := #[]
  let mut out : Array Spec := #[]
  for i in [0:kept.size] do
    let a := kept.getD i 0
    let (st, en) := pos.getD i (0, 0)
    out := out.push (specMove (specs.getD a default) st en)
    for k in [lo:hi] do
      let (owner, left) := owners.getD (k - lo) (0, false)
      if owner == a then
        let g := comments.getD k default
        moves := moves.push (g.pos, groupMove g (if left then st - 1 else en))
  return (out.map (specRetarget moves), applyMoves comments lo hi moves, lines)

/-- The grouper's sorting of one run. -/
def sortRunGrouped (lines : Lines) (comments : Array CommentGroup) (specs : Array Spec) :
    Array Spec × Array CommentGroup × Lines := Id.run do
  if specs.size ≤ 1 then return (specs, comments, lines)
  let mut pos := specs.map fun s => (s.pos, s.end)
  let start0 := (pos.getD 0 (0, 0)).1
  let lastLine := lines.line (pos.back?.getD (0, 0)).2
  let mut cstart := comments.size
  let mut cend := comments.size
  for i in [0:comments.size] do
    let g := comments.getD i default
    if g.pos < start0 then continue
    if i < cstart then cstart := i
    if lines.line g.end > lastLine then
      cend := i
      break
  let mut owners : Array Nat := #[]
  let mut specIndex := 0
  for k in [cstart:cend] do
    let g := comments.getD k default
    for _ in [0:specs.size] do
      if specIndex + 1 < specs.size && (pos.getD (specIndex + 1) (0, 0)).1 ≤ g.pos then
        specIndex := specIndex + 1
      else break
    owners := owners.push specIndex
  let (kept, lines) := dedup specs (sortedIndices specs groupedBefore) lines
  let mut moves : Array (Nat × CommentGroup) := #[]
  let mut out : Array Spec := #[]
  for i in [0:kept.size] do
    let a := kept.getD i 0
    let (st, en) := pos.getD i (0, 0)
    out := out.push (specMove (specs.getD a default) st en)
    let mut nextPos := en
    for k in [cstart:cend] do
      if owners.getD (k - cstart) 0 == a then
        let g := comments.getD k default
        let g' := groupMove g en
        moves := moves.push (g.pos, g')
        nextPos := g'.end
    if i + 1 < kept.size then pos := pos.set! (i + 1) (nextPos, nextPos)
  let sorted := out.map (specRetarget moves)
  let mut lines := lines
  let firstLine := lines.line (sorted.getD 0 default).pos
  for s in sorted.toList.drop 1 do
    let line := lines.line s.pos
    let mut prevLine := line - 1
    for _ in [0:line] do
      if line == 0 || prevLine < firstLine then break
      if prevLine > 0 && prevLine < lines.count then
        lines := lines.merge prevLine
        prevLine := prevLine - 1
      else break
  return (sorted, applyMoves comments cstart cend moves, lines)

/-- Sorts the runs of one parenthesised import declaration's specifications. -/
def sortRuns (sortRun : Lines → Array CommentGroup → Array Spec → Array Spec × Array CommentGroup × Lines)
    (lines : Lines) (comments : Array CommentGroup) (specs : List Spec) :
    List Spec × Array CommentGroup × Lines := Id.run do
  let orig := specs.toArray
  let mut acc : Array Spec := #[]
  let mut lines := lines
  let mut comments := comments
  let mut i := 0
  for j in [0:orig.size] do
    let s := orig.getD j default
    if j > i && lines.line s.pos > 1 + lines.line (orig.getD (j - 1) default).end then
      let (run, cs, ls) := sortRun lines comments (orig.extract i j)
      acc := acc ++ run
      comments := cs
      lines := ls
      i := j
  let (run, cs, ls) := sortRun lines comments (orig.extract i orig.size)
  return ((acc ++ run).toList, cs, ls)

/-- The formatter's import sorting: every parenthesised import declaration at the head of the
file has its runs sorted; blank lines left before the closing parenthesis are removed. -/
def sortImportsPlain (f : File) (lines : Lines) : File × Lines := Id.run do
  let mut lines := lines
  let mut comments := f.comments.toArray
  let mut decls : Array Decl := #[]
  let mut inHead := true
  for d in f.decls do
    if !inHead then
      decls := decls.push d
      continue
    match d with
    | .gen doc pos .kwImport lparen specs rparen =>
      if lparen == 0 then
        decls := decls.push d
        continue
      let (specs, cs, ls) := sortRuns sortRunPlain lines comments specs
      comments := cs
      lines := ls
      match specs.getLast? with
      | some lastSpec =>
        let lastLine := lines.line lastSpec.pos
        let mut rparenLine := lines.line rparen
        for _ in [0:rparenLine] do
          if rparenLine > lastLine + 1 then
            rparenLine := rparenLine - 1
            lines := lines.merge rparenLine
          else break
      | none => pure ()
      decls := decls.push (.gen doc pos .kwImport lparen specs rparen)
    | _ =>
      inHead := false
      decls := decls.push d
  return ({ f with decls := decls.toList, comments := comments.toList }, lines)

/-- Whether an import declaration imports a path. -/
def declImports (specs : List Spec) (path : String) : Bool :=
  specs.any fun s => specPath s == path

/-- Merges every import declaration (except those importing "C") into the first one, which
becomes parenthesised; the moved specifications take the position of its keyword. -/
def mergeImports (f : File) : File := Id.run do
  if f.decls.length ≤ 1 then return f
  let mut first : Option (Option CommentGroup × Nat × Nat × Array Spec × Nat) := none
  let mut firstIndex := 0
  let mut decls : Array Decl := #[]
  for d in f.decls do
    match d with
    | .gen doc pos .kwImport lparen specs rparen =>
      if declImports specs "C" then
        decls := decls.push d
        continue
      match first with
      | none =>
        first := some (doc, pos, lparen, specs.toArray, rparen)
        firstIndex := decls.size
        decls := decls.push d
      | some (fdoc, fpos, _, fspecs, frparen) =>
        let moved := specs.map fun s => match s with
          | .importSpec sdoc name _ path comment e => .importSpec sdoc name fpos path comment e
          | other => other
        first := some (fdoc, fpos, fpos, fspecs ++ moved.toArray, frparen)
    | _ => decls := decls.push d
  match first with
  | some (doc, pos, lparen, specs, rparen) =>
    return { f with decls := (decls.set! firstIndex (.gen doc pos .kwImport lparen specs.toList rparen)).toList }
  | none => return f

/-- The grouper's import sorting. An empty import declaration at the head is removed (and the
declaration after it is then passed over); at most one blank line before the closing
parenthesis is removed. -/
def sortImportsGrouped (f : File) (lines : Lines) : File × Lines := Id.run do
  let mut lines := lines
  let mut comments := f.comments.toArray
  let n := f.decls.length
  let mut slots : Array (Option Decl) := (f.decls.map some).toArray
  let mut live := n
  for i in [0:n] do
    match slots.getD i none with
    | some (.gen doc pos .kwImport lparen specs rparen) =>
      if specs.isEmpty then
        slots := (slots.eraseIdxIfInBounds i).push none
        live := live - 1
        continue
      if lparen == 0 then continue
      let (specs, cs, ls) := sortRuns sortRunGrouped lines comments specs
      comments := cs
      lines := ls
      match specs.getLast? with
      | some lastSpec =>
        let lastLine := lines.line lastSpec.pos
        let rparenLine := lines.line rparen
        if rparenLine > lastLine + 1 then lines := lines.merge (rparenLine - 1)
      | none => pure ()
      slots := slots.set! i (some (.gen doc pos .kwImport lparen specs rparen))
    | _ => break
  let decls := (slots.extract 0 live).toList.filterMap id
  return ({ f with decls, comments := comments.toList }, lines)

/-- The paths of the imports, by runs: specifications of one declaration are split where a
line is skipped. -/
def importSections (f : File) (lines : Lines) : List (List String) := Id.run do
  let mut groups : Array (List String) := #[]
  for d in f.decls do
    match d with
    | .gen _ _ .kwImport _ specs _ =>
      let mut group : Array String := #[]
      let mut lastLine := 0
      for s in specs do
        let p := match s with
          | .importSpec _ _ p _ _ _ => p
          | _ => 0
        let line := lines.line p
        if lastLine > 0 && p > 0 && line > lastLine + 1 then
          groups := groups.push group.toList
          group := #[]
        group := group.push (specPath s)
        lastLine := line
      groups := groups.push group.toList
    | _ => break
  return groups.toList

/-- The paths before which a blank line goes: where the group changes inside a section. -/
def groupBreaks (sections : List (List String)) : List String := Id.run do
  let mut out : Array String := #[]
  for sec in sections do
    let mut lastGroup : Option Nat := none
    for path in sec do
      let g := importGroup path
      if lastGroup.isSome && lastGroup != some g then out := out.push path
      lastGroup := some g
  return out.toList

/-- ASCII letters, digits and the underscore. -/
def isWordChar (c : Char) : Bool := c.isAlphanum || c == '_'

/-- White space as import lines are read: blank, tab, line feed, form feed, carriage return. -/
def isLineSpace (c : Char) : Bool :=
  c == ' ' || c == '\t' || c == '\n' || c == '\x0c' || c == '\r'

/-- The quoted path at the start of `l`: the text after the opening quote up to the first
quote that follows at least one character, on the same line. -/
def quotedPath? : List Char → Option String
  | '"' :: c :: rest =>
    if c == '\n' then none
    else
      let body := rest.takeWhile fun d => d != '"' && d != '\n'
      match rest.drop body.length with
      | '"' :: _ => some (String.ofList (c :: body))
      | _ => none
  | _ => none

/-- The path of an indented import line: white space, an optional name of word characters and
dots followed by white space, then a quoted path. -/
def importLinePath? (line : String) : Option String :=
  let l := line.toList
  let ws := l.takeWhile isLineSpace
  if ws.isEmpty then none
  else
    let rest := l.drop ws.length
    let word := rest.takeWhile fun c => isWordChar c || c == '.'
    let afterWord := rest.drop word.length
    let gap := afterWord.takeWhile isLineSpace
    let named := if !word.isEmpty && !gap.isEmpty then quotedPath? (afterWord.drop gap.length) else none
    match named with
    | some p => some p
    | none => quotedPath? rest

/-- Puts a blank line before the import line of each path of `breaks`, in order, between the
first line starting with `import` and the first line after it starting with `var`, `func`,
`const` or `type`. A last line without a line break is dropped. -/
def insertGroupBreaks (text : String) (breaks : List String) : String := Id.run do
  let pieces := Text.splitOn text "\n"
  let complete := pieces.take (pieces.length - 1)
  let mut out : Array String := #[]
  let mut inImports := false
  let mut done := false
  let mut breaks := breaks
  for piece in complete do
    let s := piece ++ "\n"
    if !inImports && !done && Text.hasPrefix s "import" then inImports := true
    if inImports && (Text.hasPrefix s "var" || Text.hasPrefix s "func" ||
        Text.hasPrefix s "const" || Text.hasPrefix s "type") then
      done := true
      inImports := false
    if inImports then
      match breaks, importLinePath? s with
      | b :: more, some p =>
        if p == b then
          out := out.push "\n"
          breaks := more
      | _, _ => pure ()
    out := out.push s
  return String.join out.toList

end ImportSort

end StaticWrap.GoSource
