/-!
**Aligning columns of formatted text.**

The source printer writes its text with two kinds of marks besides the characters: tab and
vertical tab end a cell of a column, and an escape mark brackets text (a literal or a comment)
that must pass unchanged. This module turns that stream into the final text in two steps.

* `alignColumns`: cells of consecutive lines that share a column are padded with spaces to the
  width of the widest cell plus one; a column whose cells are all empty and were ended by
  vertical tabs takes no room; leading empty cells (indentation) are written as tabs. A form
  feed, or a line with a single cell, ends a block of aligned lines. Widths count characters,
  and escaped text counts without its marks.
* `trimOutput`: drops the escape marks and the blanks and tabs at the end of each line, and
  writes tab for vertical tab and line feed for form feed.
-/

namespace StaticWrap.GoSource

/-- One unit of printer output: a character, or the mark that brackets escaped text. -/
inductive Glyph where
  | ch (c : Char)
  | esc
  deriving DecidableEq, Inhabited

/-- A cell of a line: its length in glyphs, its width in characters, and whether a tab ended
it. -/
structure Cell where
  size : Nat := 0
  width : Nat := 0
  htab : Bool := false
  deriving Inhabited

/-- The state of the column aligner. -/
structure Aligner where
  buf : Array Glyph := #[]
  pos : Nat := 0
  cell : Cell := {}
  inEscape : Bool := false
  lines : Array (Array Cell) := #[#[]]
  widths : Array Nat := #[]
  out : Array Glyph := #[]

namespace Aligner

/-- The width of a tab stop. -/
def tabwidth : Nat := 8

/-- Adds text to the current cell. -/
def append (b : Aligner) (text : Array Glyph) : Aligner :=
  { b with buf := b.buf ++ text, cell := { b.cell with size := b.cell.size + text.size } }

/-- Counts the glyphs added since the width was last brought up to date. -/
def updateWidth (b : Aligner) : Aligner :=
  { b with cell := { b.cell with width := b.cell.width + (b.buf.size - b.pos) }, pos := b.buf.size }

/-- Ends the current cell, giving the number of cells of the line. -/
def terminateCell (b : Aligner) (htab : Bool) : Aligner × Nat :=
  let c := { b.cell with htab }
  let last := (b.lines.back?.getD #[]).push c
  ({ b with lines := b.lines.pop.push last, cell := {} }, last.size)

/-- Writes padding for a cell of width `textw` in a column of width `cellw`. -/
def padding (b : Aligner) (textw cellw : Nat) (useTabs : Bool) : Aligner :=
  if useTabs then
    let cellw := (cellw + tabwidth - 1) / tabwidth * tabwidth
    let n := cellw - textw
    { b with out := b.out ++ Array.replicate ((n + tabwidth - 1) / tabwidth) (.ch '\t') }
  else { b with out := b.out ++ Array.replicate (cellw - textw) (.ch ' ') }

/-- Writes lines `line0` to `line1` (excluded), starting at buffer position `pos`. -/
def writeLines (b : Aligner) (pos line0 line1 : Nat) : Aligner × Nat := Id.run do
  let mut b := b
  let mut pos := pos
  for i in [line0:line1] do
    let row := b.lines[i]?.getD #[]
    let mut useTabs := true
    for j in [0:row.size] do
      let c := row[j]?.getD {}
      if c.size == 0 then
        if h : j < b.widths.size then b := b.padding c.width b.widths[j] useTabs
      else
        useTabs := false
        b := { b with out := b.out ++ b.buf.extract pos (pos + c.size) }
        pos := pos + c.size
        if h : j < b.widths.size then b := b.padding c.width b.widths[j] false
    if i + 1 == b.lines.size then
      b := { b with out := b.out ++ b.buf.extract pos (pos + b.cell.size) }
      pos := pos + b.cell.size
    else
      b := { b with out := b.out.push (.ch '\n') }
  return (b, pos)

/-- Formats lines `line0` to `line1` (excluded) whose columns left of the current one have
known widths: finds each block of lines that has a cell in the current column, sets the
column's width, and formats the columns to its right. -/
def format : Nat → Aligner → Nat → Nat → Nat → Aligner × Nat
  | 0, b, pos, line0, line1 => b.writeLines pos line0 line1
  | fuel + 1, b, pos, line0, line1 => Id.run do
    let mut b := b
    let mut pos := pos
    let mut line0 := line0
    let column := b.widths.size
    let mut this := line0
    for _ in [0:line1 - line0 + 1] do
      if this ≥ line1 then break
      let row := b.lines[this]?.getD #[]
      if column + 1 ≥ row.size then
        this := this + 1
        continue
      let (b1, p1) := b.writeLines pos line0 this
      b := b1
      pos := p1
      line0 := this
      let mut width := 0
      let mut discardable := true
      for _ in [0:line1 - this + 1] do
        if this ≥ line1 then break
        let row := b.lines[this]?.getD #[]
        if column + 1 ≥ row.size then break
        let c := row[column]?.getD {}
        if c.width + 1 > width then width := c.width + 1
        if c.width > 0 || c.htab then discardable := false
        this := this + 1
      if discardable then width := 0
      b := { b with widths := b.widths.push width }
      let (b2, p2) := format fuel b pos line0 this
      b := { b2 with widths := b2.widths.pop }
      pos := p2
      line0 := this
      this := this + 1
    return b.writeLines pos line0 line1

/-- Formats and writes everything buffered, then starts afresh. -/
def flush (b : Aligner) : Aligner :=
  let b := if b.cell.size > 0 then
      let b := if b.inEscape then
          let b := b.updateWidth
          { b with cell := { b.cell with width := b.cell.width - 2 }, pos := b.buf.size,
                   inEscape := false }
        else b
      (b.terminateCell false).1
    else b
  let cells := b.lines.foldl (fun acc l => acc + l.size) 0
  let (b, _) := format (cells + 2) b 0 0 b.lines.size
  { out := b.out }

/-- Feeds the printer output through the aligner. -/
def feed (b : Aligner) (data : Array Glyph) : Aligner := Id.run do
  let mut b := b
  let mut n := 0
  for i in [0:data.size] do
    let g := data[i]?.getD (.ch ' ')
    if !b.inEscape then
      match g with
      | .ch c =>
        if c == '\t' || c == '\x0b' || c == '\n' || c == '\x0c' then
          b := (b.append (data.extract n i)).updateWidth
          n := i + 1
          let (b1, ncells) := b.terminateCell (c == '\t')
          b := b1
          if c == '\n' || c == '\x0c' then
            b := { b with lines := b.lines.push #[] }
            if c == '\x0c' || ncells == 1 then b := b.flush
      | .esc =>
        b := (b.append (data.extract n i)).updateWidth
        n := i
        b := { b with inEscape := true }
    else
      if g == .esc then
        b := b.append (data.extract n (i + 1))
        n := i + 1
        b := b.updateWidth
        b := { b with cell := { b.cell with width := b.cell.width - 2 }, pos := b.buf.size,
                      inEscape := false }
  b := b.append (data.extract n data.size)
  return b

end Aligner

/-- Aligns the columns of printer output. -/
def alignColumns (data : Array Glyph) : Array Glyph :=
  ((Aligner.feed {} data).flush).out

/-- The state of the trimmer: between words (holding the blanks seen), in escaped text, or in
text. -/
inductive TrimMode where
  | space
  | escape
  | text
  deriving DecidableEq

/-- Drops escape marks and the blanks at the ends of lines; vertical tabs become tabs and form
feeds line feeds. -/
def trimOutput (data : Array Glyph) : String := Id.run do
  let mut out : Array Char := #[]
  let mut mode := TrimMode.space
  let mut space : Array Char := #[]
  let mut pending : Array Char := #[]
  for g in data do
    let g := if g == .ch '\x0b' then Glyph.ch '\t' else g
    match mode with
    | .space =>
      match g with
      | .ch c =>
        if c == '\t' || c == ' ' then space := space.push c
        else if c == '\n' || c == '\x0c' then
          space := #[]
          out := out.push '\n'
        else
          out := out ++ space
          space := #[]
          mode := .text
          pending := #[c]
      | .esc =>
        out := out ++ space
        space := #[]
        mode := .escape
        pending := #[]
    | .escape =>
      match g with
      | .esc =>
        out := out ++ pending
        pending := #[]
        mode := .space
      | .ch c => pending := pending.push c
    | .text =>
      match g with
      | .ch c =>
        if c == '\t' || c == ' ' then
          out := out ++ pending
          pending := #[]
          mode := .space
          space := #[c]
        else if c == '\n' || c == '\x0c' then
          out := (out ++ pending).push '\n'
          pending := #[]
          mode := .space
        else pending := pending.push c
      | .esc =>
        out := out ++ pending
        pending := #[]
        mode := .escape
  if mode != .space then out := out ++ pending
  return String.ofList out.toList

end StaticWrap.GoSource
