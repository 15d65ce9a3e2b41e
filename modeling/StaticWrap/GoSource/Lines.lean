import StaticWrap.Text.SlashPath
/-!
**The line table of a source file.**

Positions are byte offsets plus one (0 means no position). The table keeps the offset at which
each line starts, the first line starting at 0; a line break that ends the file starts no new
line. Line and column numbers count from one, columns in bytes.

A line directive (a comment `//line file:line` or `//line file:line:column`) renames the
positions after it: from the directive's offset on, the line it sets is the line on which the
offset falls, and later lines count on from it; the column it sets holds on that first line
only, after which columns are the plain ones, and a directive without a column makes every
column after it unknown (0).

* `Lines.line`, `Lines.column`: where a position falls in the text itself.
* `Lines.place`: where a position falls after the line directives: the file named by the
  directive in force (none for the file itself), the line and the column.
* `Lines.merge`: joins a line with the next one, so that positions on the next line count as
  being on the joined line (the sorting of imports uses this to drop blank lines it leaves).
-/

namespace StaticWrap.GoSource

/-- A line directive: from byte `offset` on, positions are in `file` (none for the file being
read), at `line` and `column` (0 when the directive gives none). -/
structure LineDirective where
  offset : Nat
  file : Option String
  line : Nat
  column : Nat
  deriving Inhabited, Repr

/-- The offsets at which lines start, the size of the file in bytes, and the line directives
in order. -/
structure Lines where
  starts : Array Nat
  size : Nat
  directives : Array LineDirective := #[]
  deriving Inhabited

/-- The line table of a text. -/
def Lines.ofText (s : String) : Lines :=
  let bytes := s.toUTF8
  let size := bytes.size
  let starts := (List.range size).foldl (fun (acc : Array Nat) i =>
    if bytes[i]! == 10 && i + 1 < size then acc.push (i + 1) else acc) #[0]
  { starts, size }

/-- The index of the last line start at or before an offset, searching between `lo` and `hi`. -/
def Lines.search (t : Lines) (off : Nat) (lo hi : Nat) : Nat :=
  if h : lo + 1 < hi then
    let mid := (lo + hi) / 2
    if t.starts[mid]?.getD 0 ≤ off then t.search off mid hi else t.search off lo mid
  else lo
  termination_by hi - lo

/-- The line of a position, 0 for no position. -/
def Lines.line (t : Lines) (pos : Nat) : Nat :=
  if pos == 0 then 0 else t.search (pos - 1) 0 t.starts.size + 1

/-- The column of a position, 0 for no position. -/
def Lines.column (t : Lines) (pos : Nat) : Nat :=
  if pos == 0 then 0
  else
    let i := t.search (pos - 1) 0 t.starts.size
    pos - t.starts[i]?.getD 0

/-- Where a position falls after the line directives: the directive's file (none for the
file itself), the line and the column (0 when unknown). -/
def Lines.place (t : Lines) (pos : Nat) : Option String × Nat × Nat :=
  if pos == 0 then (none, 0, 0)
  else
    let off := pos - 1
    let line := t.line pos
    let col := t.column pos
    match (t.directives.toList.filter (·.offset ≤ off)).getLast? with
    | none => (none, line, col)
    | some d =>
      let delta := line - t.line (d.offset + 1)
      let column := if d.column == 0 then 0
        else if delta == 0 then d.column + (off - d.offset)
        else col
      (d.file, d.line + delta, column)

/-- The line of a position after the line directives. -/
def Lines.fileLine (t : Lines) (pos : Nat) : Nat := (t.place pos).2.1

/-- The name of the file a directive names, for a file read at `path`: a relative name is
taken in the directory of `path`. -/
def directiveFileName (path : String) : Option String → String
  | none => path
  | some "" => ""
  | some f => if Text.isRooted f then f else Text.joinPath [Text.dirName path, f]

/-- A position after the line directives, as `file:line:column`: without the column when it is
unknown, and without the file when it has no name. -/
def Lines.placeText (t : Lines) (path : String) (pos : Nat) : String :=
  let (file, line, col) := t.place pos
  let name := directiveFileName path file
  let lc := if line == 0 then "" else
    toString line ++ (if col != 0 then ":" ++ toString col else "")
  if name.isEmpty then (if lc.isEmpty then "-" else lc)
  else if lc.isEmpty then name else name ++ ":" ++ lc

/-- The number of lines. -/
def Lines.count (t : Lines) : Nat := t.starts.size

/-- The position at which a line starts. -/
def Lines.lineStart (t : Lines) (line : Nat) : Nat := t.starts[line - 1]?.getD 0 + 1

/-- Joins a line with the next one. -/
def Lines.merge (t : Lines) (line : Nat) : Lines :=
  if line ≥ 1 && line < t.starts.size then { t with starts := t.starts.eraseIdxIfInBounds line }
  else t

end StaticWrap.GoSource
