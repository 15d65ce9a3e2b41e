import StaticWrap.GoSource.Tabwriter
import StaticWrap.Build.Render
/-!
**Putting build constraint lines in their place.**

After a file is printed, its `//go:build` and `// +build` comments (wherever they were, each
known by where its line starts in the output) are gathered into one block at the head of the
file: after the last blank line of the comments that open the file, or earlier where such a
comment already stands.

The block is written from one expression: the `//go:build` line's when there is exactly one,
otherwise the conjunction of the `// +build` lines' when there is no `//go:build` line. The
`//go:build` line is then written in canonical form, followed, when the file had `// +build`
lines, by the `// +build` lines of the same expression. Without such an expression (two
`//go:build` lines, or one that does not parse) the lines are moved as they are. The block
ends with a blank line; where the lines are taken out, no doubled blank line is left.

The output here is the printer's, before columns are aligned: a comment's text stands
between escape marks, and a form feed breaks a line as a line feed does.
-/

namespace StaticWrap.GoSource

/-- The glyph breaks a line. -/
def Glyph.isBreak (g : Glyph) : Bool := g == .ch '\n' || g == .ch '\x0c'

/-- The glyphs of a text. -/
def glyphsOf (s : String) : List Glyph := s.toList.map Glyph.ch

/-- The line of the output that starts at `start`, with its line break. -/
def lineAt (out : Array Glyph) (start : Nat) : List Glyph :=
  let rest := (out.extract start out.size).toList
  let body := rest.takeWhile (!·.isBreak)
  rest.take (body.length + 1)

/-- The text of the comment at `start`: up to its closing escape mark or the end of its line. -/
def commentTextAt (out : Array Glyph) (start : Nat) : String :=
  let start := if out[start]? == some .esc then start + 1 else start
  let rest := (out.extract start out.size).toList.takeWhile fun g => g != .esc && !g.isBreak
  String.ofList (rest.filterMap fun g => match g with
    | .ch c => some c
    | .esc => none)

/-- Where the block may go at the latest: after the last blank line among the lines that open
the output and hold nothing but white space or a line comment. `pos` is where the scan is,
`insert` the best place so far. -/
def latestInsert (out : Array Glyph) : Nat → Nat → Nat → Nat
  | 0, _, insert => insert
  | fuel + 1, pos, insert =>
    let pos := pos + ((out.extract pos out.size).toList.takeWhile
      (fun g => g == .ch ' ' || g == .ch '\t')).length
    let comment := pos + 3 < out.size && out[pos]? == some .esc && out[pos + 1]? == some (.ch '/') &&
      out[pos + 2]? == some (.ch '/')
    let pos := if comment then
        pos + ((out.extract pos out.size).toList.takeWhile (!·.isBreak)).length
      else pos
    match out[pos]? with
    | some g =>
      if g.isBreak then latestInsert out fuel (pos + 1) (if comment then insert else pos + 1)
      else insert
    | none => insert

/-- Appends lines to lines, dropping a leading blank line of the second when the first is
empty or ends in a blank line. -/
def appendLines (x y : List Glyph) : List Glyph :=
  let xEndsBlank := match x.reverse with
    | a :: b :: _ => a.isBreak && b.isBreak
    | _ => false
  match y with
  | g :: rest => if g.isBreak && (x.isEmpty || xEndsBlank) then x ++ rest else x ++ y
  | [] => x

/-- The block of constraint lines, with its blank line. -/
def constraintBlock (out : Array Glyph) (goBuild plusBuild : List Nat) : List Glyph :=
  let expr : Option Build.Expr :=
    match goBuild with
    | [] =>
      plusBuild.foldl (fun (acc : Option (Option Build.Expr)) pos =>
        match acc, Build.parseLine (commentTextAt out pos) with
        | some none, some y => some (some y)
        | some (some x), some y => some (some (.and x y))
        | _, _ => none) (some none) |>.bind id
    | [pos] => Build.parseLine (commentTextAt out pos)
    | _ => none
  let commentLine (s : String) : List Glyph := [.esc] ++ glyphsOf s ++ [.esc, .ch '\n']
  let lines := match expr with
    | none => (goBuild ++ plusBuild).flatMap (lineAt out)
    | some x =>
      commentLine ("//go:build " ++ x.text) ++
        (if plusBuild.isEmpty then []
         else match Build.plusBuildLines x with
           | .ok ls => ls.flatMap commentLine
           | .error e => commentLine ("// +build error: " ++ e))
  lines ++ [.ch '\n']

/-- The output with its constraint lines gathered at its head. -/
def fixBuildLines (out : Array Glyph) (goBuild plusBuild : List Nat) : Array Glyph :=
  if goBuild.isEmpty && plusBuild.isEmpty then out
  else
    let latest := latestInsert out (out.size + 1) 0 0
    let insert := match goBuild.head?.filter (· < latest) with
      | some g => g
      | none => (plusBuild.head?.filter (· < latest)).getD latest
    let block := constraintBlock out goBuild plusBuild
    let toDelete := (goBuild ++ plusBuild).mergeSort (· ≤ ·)
    let (after, start) := toDelete.foldl (fun (acc : List Glyph × Nat) stop =>
      let (after, start) := acc
      if stop < start then acc
      else (appendLines after (out.extract start stop).toList, stop + (lineAt out stop).length))
      ([], insert)
    let after := appendLines after (out.extract start out.size).toList
    let after := match after.reverse with
      | a :: b :: rest => if a.isBreak && b.isBreak then (b :: rest).reverse else after
      | _ => after
    (out.extract 0 insert) ++ (block ++ after).toArray

end StaticWrap.GoSource
