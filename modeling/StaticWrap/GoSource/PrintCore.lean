import StaticWrap.GoSource.Lines
import StaticWrap.GoSource.Tabwriter
import StaticWrap.GoSource.DocComment
import StaticWrap.Build.Constraint
/-!
**The printer's machinery: tokens, pending white space and comments.**

The source printer emits a stream of items: tokens, names, literals, white space and layout
marks. White space is held back in a buffer until the next token, so that the comments of the
source that come before that token can be placed first, using the held white space to decide
how they sit (on the same line after a tab, or on lines of their own). Line breaks present in
the source between tokens are kept, at most one blank line at a time.

The printer tracks two positions: where it is in the source (from the positions of the tokens
it printed) and where it is in the output. A comment is due when its offset in the source is
before the next token's.

* `Printer.print`: emits one item.
* `Printer.flush`: writes the comments due before a position, then the held white space.
* `Printer.linebreak`: writes as many line breaks as the source has before a line (at most
  two, at least `min`).
* Documentation comments of top-level declarations are rewritten into canonical form
  (`DocText.reformatDoc`) as they are written.
-/

namespace StaticWrap.GoSource

/-- A source or output position: byte offset, line and column (line 0 means none). -/
structure Posn where
  offset : Nat := 0
  line : Nat := 0
  column : Nat := 0
  deriving DecidableEq, Inhabited

/-- A position is known. -/
def Posn.valid (p : Posn) : Bool := p.line > 0

/-- A white space item: nothing, a blank, a vertical tab (a column break), a line break, a
form feed (a line break that also ends a block of aligned columns), or a change of
indentation. -/
inductive Space where
  | ignore
  | blank
  | vtab
  | newline
  | formfeed
  | indent
  | unindent
  deriving DecidableEq, Inhabited

/-- The character a white space item writes. -/
def Space.char : Space → Char
  | .blank => ' '
  | .vtab => '\x0b'
  | .newline => '\n'
  | .formfeed => '\x0c'
  | _ => ' '

/-- An item for the printer. A toggle flips the modes that suppress the extra blank and the
extra line break after a block comment. -/
inductive Item where
  | ws (s : Space)
  | tok (t : Tok)
  | ident (name : String)
  | lit (kind : Tok) (value : String)
  | text (s : String)
  | toggle (noBlank noBreak : Bool)
  deriving Inhabited

/-- A very large offset or line, past any source. -/
def farAway : Nat := 1073741824

/-- The state of the printer. -/
structure Printer where
  lines : Lines
  normalizeNumbers : Bool := false
  baseIndent : Int := 0
  output : Array Glyph := #[]
  indent : Nat := 0
  level : Nat := 0
  noExtraBlank : Bool := false
  noExtraLinebreak : Bool := false
  endAlignment : Bool := false
  impliedSemi : Bool := false
  lastTok : Tok := .illegal
  prevOpen : Tok := .illegal
  wsbuf : Array Space := #[]
  pos : Posn := ⟨0, 1, 1⟩
  out : Posn := ⟨0, 1, 1⟩
  last : Posn := {}
  linePtr : Option Nat := none
  slots : Array Nat := #[]
  comments : Array CommentGroup := #[]
  useNodeComments : Bool := false
  cindex : Nat := 0
  comment : Option CommentGroup := none
  commentOffset : Nat := farAway
  commentNewline : Bool := false
  /-- Where the `//go:build` comments start in the output. -/
  goBuild : Array Nat := #[]
  /-- Where the `// +build` comments start in the output. -/
  plusBuild : Array Nat := #[]

/-- The printer monad. -/
abbrev PM := StateM Printer

namespace Printer

/-- The position of a source position number (none past the end of the file). -/
def posFor (pos : Nat) : PM Posn := do
  let t := (← get).lines
  if pos == 0 || pos > t.size + 1 then return {}
  return ⟨pos - 1, t.line pos, t.column pos⟩

/-- The line of a source position number. -/
def lineFor (pos : Nat) : PM Nat := return (← posFor pos).line

/-- A fresh place to record an output line in. -/
def newSlot : PM Nat := do
  let p ← get
  set { p with slots := p.slots.push 0 }
  return p.slots.size

/-- The value of a recording place. -/
def slot (k : Nat) : PM Nat := return (← get).slots[k]?.getD 0

/-- Adds to the value of a recording place. -/
def bumpSlot (k : Nat) : PM Unit :=
  modify fun p => { p with slots := p.slots.modify k (· + 1) }

/-- Records the output line of the next token in a place. -/
def recordLine (k : Nat) : PM Unit := modify fun p => { p with linePtr := some k }

/-- The number of output lines since a recorded line. -/
def linesFrom (k : Nat) : PM Nat := return (← get).out.line - (← slot k)

/-- Whether a comment group spans more than one line or holds a line comment. -/
def commentsHaveNewline (list : List Comment) : PM Bool := do
  let line ← lineFor (list.headD default).pos
  let mut i := 0
  for c in list do
    if i > 0 && (← lineFor c.pos) != line then return true
    let t := c.text.toList
    if t.length ≥ 2 && (t[1]? == some '/' || t.contains '\n') then return true
    i := i + 1
  return false

/-- Moves to the next non-empty comment group. -/
def nextComment : PM Unit := do
  let p ← get
  for i in [p.cindex:p.comments.size] do
    let g := p.comments[i]?.getD ⟨[]⟩
    match g.list with
    | first :: _ =>
      let off := (← posFor first.pos).offset
      let nl ← commentsHaveNewline g.list
      modify fun p => { p with cindex := i + 1, comment := some g, commentOffset := off,
                               commentNewline := nl }
      return
    | [] => pure ()
  modify fun p => { p with cindex := p.comments.size, commentOffset := farAway }

/-- Whether the current comment comes before a position, without creating a semicolon. -/
def commentBefore (next : Posn) : PM Bool := do
  let p ← get
  return p.commentOffset < next.offset && (!p.impliedSemi || !p.commentNewline)

/-- The length of the comments before a position (the comment state is left as it was). -/
def commentSizeBefore (next : Posn) : PM Nat := do
  let saved ← get
  let mut size := 0
  for _ in [0:saved.comments.size + 1] do
    if !(← commentBefore next) then break
    match (← get).comment with
    | some g => size := size + (g.list.map (·.text.utf8ByteSize)).foldr (· + ·) 0
    | none => pure ()
    nextComment
  modify fun p => { p with cindex := saved.cindex, comment := saved.comment,
                           commentOffset := saved.commentOffset, commentNewline := saved.commentNewline }
  return size

def writeIndent : PM Unit := modify fun p =>
  let n := (p.baseIndent + p.indent).toNat
  { p with output := p.output ++ Array.replicate n (.ch '\t'),
           pos := { p.pos with offset := p.pos.offset + n, column := p.pos.column + n },
           out := { p.out with column := p.out.column + n } }

/-- Writes a white space character `n` times. -/
def writeByte (ch : Char) (n : Nat) : PM Unit := do
  let mut ch := ch
  let p ← get
  if p.endAlignment then
    if ch == '\t' || ch == '\x0b' then ch := ' '
    else if ch == '\n' || ch == '\x0c' then
      ch := '\x0c'
      set { p with endAlignment := false }
  if (← get).out.column == 1 then writeIndent
  modify fun p =>
    let p := { p with output := p.output ++ Array.replicate n (Glyph.ch ch),
                      pos := { p.pos with offset := p.pos.offset + n } }
    if ch == '\n' || ch == '\x0c' then
      { p with pos := { p.pos with line := p.pos.line + n, column := 1 },
               out := { p.out with line := p.out.line + n, column := 1 } }
    else
      { p with pos := { p.pos with column := p.pos.column + n },
               out := { p.out with column := p.out.column + n } }

/-- Writes a token, literal or comment text; `isLit` brackets it with escape marks. -/
def writeString (pos : Posn) (s : String) (isLit : Bool) : PM Unit := do
  if (← get).out.column == 1 then writeIndent
  modify fun p =>
    let p := if pos.valid then { p with pos := pos } else p
    let glyphs := (s.toList.map Glyph.ch).toArray
    let output := if isLit then (p.output.push .esc ++ glyphs).push .esc else p.output ++ glyphs
    let bytes := s.toUTF8
    let size := bytes.size
    let nls := (List.range size).filter fun i => bytes[i]! == 10 || bytes[i]! == 12
    let p := { p with output, pos := { p.pos with offset := p.pos.offset + size } }
    let p := match nls.getLast? with
      | some li =>
        let c := size - li
        { p with endAlignment := true,
                 pos := { p.pos with line := p.pos.line + nls.length, column := c },
                 out := { p.out with line := p.out.line + nls.length, column := c } }
      | none =>
        { p with pos := { p.pos with column := p.pos.column + size },
                 out := { p.out with column := p.out.column + size } }
    { p with last := p.pos }

/-- Writes the first `n` held white space items (applying indentation changes), keeping the
rest. A line break followed by an unindent is written after it. -/
def writeWhitespace (n : Nat) : PM Unit := do
  let mut i := 0
  for _ in [0:2 * n + 2] do
    if i ≥ n then break
    let buf := (← get).wsbuf
    let ch := buf[i]?.getD .ignore
    match ch with
    | .ignore => pure ()
    | .indent => modify fun p => { p with indent := p.indent + 1 }
    | .unindent => modify fun p => { p with indent := p.indent - 1 }
    | .newline | .formfeed =>
      if i + 1 < n && buf[i + 1]? == some .unindent then
        modify fun p => { p with wsbuf := (p.wsbuf.set! i .unindent).set! (i + 1) .formfeed }
        continue
      writeByte ch.char 1
    | _ => writeByte ch.char 1
    i := i + 1
  modify fun p => { p with wsbuf := p.wsbuf.extract n p.wsbuf.size }

/-- Whether a comment is a line comment. -/
def isLineComment (c : Comment) : Bool := c.text.toList[1]? == some '/'

/-- Writes the white space before a comment at `pos`: on the same line as the last token, a
tab (or a blank before a token on the same line); otherwise line breaks as in the source,
using up held white space as suits the comment. -/
def writeCommentPrefix (pos next : Posn) (prev : Option Comment) (tok : Tok) : PM Unit := do
  let p ← get
  if p.output.size == 0 then return
  let prevIsLine := match prev with
    | some c => isLineComment c
    | none => false
  if pos.line == p.last.line && !prevIsLine then
    let mut hasSep := false
    if prev.isNone then
      let buf := p.wsbuf
      let mut j := 0
      let mut newBuf := buf
      for i in [0:buf.size] do
        match buf[i]?.getD .ignore with
        | .blank =>
          newBuf := newBuf.set! i .ignore
          continue
        | .vtab =>
          hasSep := true
          continue
        | .indent => continue
        | _ =>
          j := i
          break
      modify fun p => { p with wsbuf := newBuf }
      writeWhitespace j
    if !hasSep then
      writeByte (if pos.line == next.line then ' ' else '\t') 1
  else
    let buf := p.wsbuf
    let mut droppedLinebreak := false
    let mut j := 0
    let mut newBuf := buf
    for i in [0:buf.size] do
      match buf[i]?.getD .ignore with
      | .blank | .vtab =>
        newBuf := newBuf.set! i .ignore
        continue
      | .indent => continue
      | .unindent =>
        if i + 1 < buf.size && buf[i + 1]? == some .unindent then continue
        if tok != .rbrace && pos.column == next.column then continue
        j := i
        break
      | .newline | .formfeed =>
        newBuf := newBuf.set! i .ignore
        droppedLinebreak := prev.isNone
        j := i
        break
      | _ =>
        j := i
        break
    modify fun p => { p with wsbuf := newBuf }
    writeWhitespace j
    let p ← get
    let mut n := 0
    if pos.valid && p.last.valid then n := pos.line - p.last.line
    if p.indent == 0 && droppedLinebreak then n := n + 1
    if n == 0 && prevIsLine then n := 1
    if n > 0 then writeByte '\x0c' (min n 2)

/-- The text without trailing white space. -/
def trimRight (s : String) : String := Text.trimRightBy Text.isSpace s

/-- Writes a comment; the lines of a block comment are re-indented. -/
def writeComment (c : Comment) : PM Unit := do
  let text := c.text
  let pos ← posFor c.pos
  let savedIndent := (← get).indent
  if text.startsWith "//line " && (!pos.valid || pos.column == 1) then
    modify fun p => { p with indent := 0 }
  if isLineComment c then
    let here := (← get).output.size
    if (Build.goBuildText? text).isSome then modify fun p => { p with goBuild := p.goBuild.push here }
    else if (Build.plusBuildText? text).isSome then
      modify fun p => { p with plusBuild := p.plusBuild.push here }
    writeString pos (trimRight text) true
  else
    let mut lines := Text.splitOn text "\n"
    if pos.valid && pos.column == 1 && (← get).indent > 0 then
      lines := lines.mapIdx fun i l => if i > 0 then "   " ++ l else l
    lines := DocText.stripCommonPrefix lines
    let mut pos := pos
    let mut i := 0
    for line in lines do
      if i > 0 then
        writeByte '\x0c' 1
        pos := (← get).pos
      if line != "" then writeString pos (trimRight line) true
      i := i + 1
  modify fun p => { p with indent := savedIndent }

/-- Writes the white space after a comment: held blanks are dropped, a line break is kept
(one, when one is needed), indentation changes are applied. Tells whether a line break was
written and whether a form feed was dropped. -/
def writeCommentSuffix (needsLinebreak : Bool) : PM (Bool × Bool) := do
  let buf := (← get).wsbuf
  let mut needs := needsLinebreak
  let mut wroteNewline := false
  let mut droppedFF := false
  let mut newBuf := buf
  for i in [0:buf.size] do
    match buf[i]?.getD .ignore with
    | .blank | .vtab => newBuf := newBuf.set! i .ignore
    | .newline | .formfeed =>
      if needs then
        needs := false
        wroteNewline := true
      else
        if buf[i]? == some .formfeed then droppedFF := true
        newBuf := newBuf.set! i .ignore
    | _ => pure ()
  modify fun p => { p with wsbuf := newBuf }
  writeWhitespace newBuf.size
  if needs then
    writeByte '\n' 1
    wroteNewline := true
  return (wroteNewline, droppedFF)

/-- Whether held white space holds a line break. -/
def containsLinebreak : PM Bool :=
  return (← get).wsbuf.any fun s => s == .newline || s == .formfeed

/-- The position just after a comment. -/
def Comment.stop (c : Comment) : Nat := c.pos + c.text.utf8ByteSize

/-- Writes the comments due before `next` (the position of the next token `tok`). -/
def intersperseComments (next : Posn) (tok : Tok) : PM (Bool × Bool) := do
  let mut last : Option Comment := none
  for _ in [0:(← get).comments.size + 1] do
    if !(← commentBefore next) then break
    let g := (← get).comment.getD ⟨[]⟩
    let mut list := g.list
    let mut changed := false
    let gpos ← posFor g.pos
    let after ← posFor (g.end + 1)
    if (← get).lastTok != .kwImport && gpos.column == 1 && after == next then
      list := DocText.reformatDoc list
      changed := true
      if !g.list.isEmpty && list.isEmpty then
        writeCommentPrefix gpos next last tok
        modify fun p => { p with pos := next, last := next }
        nextComment
        return (← writeCommentSuffix false)
    for c in list do
      writeCommentPrefix (← posFor c.pos) next last tok
      writeComment c
      last := some c
    if changed then
      match g.list.getLast? with
      | some l =>
        last := some l
        let e ← posFor (Comment.stop l)
        modify fun p => { p with pos := e, last := e }
      | none => pure ()
    nextComment
  match last with
  | some l =>
    let p ← get
    let mut needsLinebreak := false
    if !p.noExtraBlank && l.text.toList[1]? == some '*' && (← lineFor l.pos) == next.line &&
        tok != .comma && (tok != .rparen || p.prevOpen == .lparen) &&
        (tok != .rbrack || p.prevOpen == .lbrack) then
      if (← containsLinebreak) && !p.noExtraLinebreak && p.level == 0 then needsLinebreak := true
      else writeByte ' ' 1
    if isLineComment l || tok == .eof || (tok == .rbrace && !p.noExtraLinebreak) then
      needsLinebreak := true
    writeCommentSuffix needsLinebreak
  | none => return (false, false)

/-- Writes the comments due before `next`, or else the held white space. -/
def flush (next : Posn) (tok : Tok) : PM (Bool × Bool) := do
  if ← commentBefore next then intersperseComments next tok
  else
    writeWhitespace (← get).wsbuf.size
    return (false, false)

/-- Whether two tokens would run together without a blank between them. -/
def mayCombine (prev : Tok) (next : Char) : Bool :=
  match prev with
  | .int => next == '.'
  | .add => next == '+'
  | .sub => next == '-'
  | .quo => next == '*'
  | .lss => next == '-' || next == '<'
  | .and => next == '&' || next == '^'
  | _ => false

/-- The tokens after which a line break stands for a semicolon. -/
def impliesSemi : Tok → Bool
  | .kwBreak | .kwContinue | .kwFallthrough | .kwReturn | .inc | .dec | .rparen | .rbrack
  | .rbrace => true
  | _ => false

/-- Emits a token, name or literal: first the comments and white space due before it, then
the line breaks of the source before it (unless a line break there would end a statement). -/
def emitToken (data : String) (isLit implied : Bool) (tok : Tok) : PM Unit := do
  modify fun p => { p with lastTok := tok }
  let next := (← get).pos
  let (wroteNewline, droppedFF) ← flush next tok
  let mut implied := implied
  if !(← get).impliedSemi then
    let diff : Int := (next.line : Int) - ((← get).pos.line : Int)
    let mut n : Int := min diff 2
    if wroteNewline && n == 2 then n := 1
    if n > 0 then
      writeByte (if droppedFF then '\x0c' else '\n') n.toNat
      implied := false
  let p ← get
  match p.linePtr with
  | some k => set { p with slots := p.slots.set! k p.out.line, linePtr := none }
  | none => pure ()
  writeString next data isLit
  modify fun p => { p with impliedSemi := implied }

/-- Emits one item: white space is held until the next token; a toggle flips its modes. -/
def print (item : Item) : PM Unit := do
  modify fun p => match p.lastTok with
    | .illegal => p
    | .lparen | .lbrack => { p with prevOpen := p.lastTok }
    | _ => { p with prevOpen := .illegal }
  match item with
  | .toggle b l =>
    modify fun p => { p with noExtraBlank := p.noExtraBlank != b,
                             noExtraLinebreak := p.noExtraLinebreak != l }
  | .ws s =>
    if s != .ignore then
      modify fun p => { p with wsbuf := p.wsbuf.push s }
      if s == .newline || s == .formfeed then modify fun p => { p with impliedSemi := false }
      modify fun p => { p with lastTok := .illegal }
  | .ident name => emitToken name false true .ident
  | .lit kind value => emitToken value true true kind
  | .text s => emitToken s true true .string
  | .tok t =>
    let s := t.text
    if mayCombine (← get).lastTok (s.toList.headD ' ') then
      modify fun p => { p with wsbuf := #[.blank] }
    emitToken s false (impliesSemi t) t

/-- Emits items in order. -/
def prints (items : List Item) : PM Unit := items.forM print

/-- Emits a token. -/
def printTok (t : Tok) : PM Unit := print (.tok t)

/-- Emits a white space item. -/
def space (s : Space) : PM Unit := print (.ws s)

/-- Moves the source position to a token's position, when it is known. -/
def setPos (pos : Nat) : PM Unit := do
  if pos != 0 then
    let q ← posFor pos
    modify fun p => { p with pos := q }

/-- Writes line breaks up to a source line: as many as the source has (at most two), at least
`min`; `ws` goes before the first, which is a form feed when `newSection` is set. Gives 0 for
no break, 1 for one line break, more for a form feed or several. -/
def linebreak (line min : Nat) (ws : Space) (newSection : Bool) : PM Nat := do
  let diff : Int := (line : Int) - ((← get).pos.line : Int)
  let n : Int := max (Int.ofNat min) (Min.min diff 2)
  if n ≤ 0 then return 0
  let mut n := n.toNat
  let mut nbreaks := 0
  space ws
  if newSection then
    space .formfeed
    n := n - 1
    nbreaks := 2
  nbreaks := nbreaks + n
  for _ in [0:n] do space .newline
  return nbreaks

/-- Makes a node's own comment group the next comment, when the printer uses node comments
(when printing a node without the file's comment list). -/
def setComment (g : Option CommentGroup) : PM Unit := do
  match g with
  | none => return
  | some g =>
    if !(← get).useNodeComments then return
    let p ← get
    if p.comments.size > 0 && p.cindex < p.comments.size then
      discard <| flush (← posFor (g.list.headD default).pos) .illegal
      modify fun p => { p with comments := p.comments.extract 0 1 }
    modify fun p => { p with comments := if p.comments.isEmpty then #[g] else p.comments.set! 0 g,
                             cindex := 0 }
    if (← get).commentOffset == farAway then nextComment

/-- The distance in the output from a start column, when the source position is still on
the line of `startPos`; very large otherwise. -/
def distanceFrom (startPos : Nat) (startOutCol : Int) : PM Nat := do
  let p ← get
  let sp ← posFor startPos
  if startPos != 0 && p.pos.valid && sp.line == p.pos.line then
    return ((p.out.column : Int) - startOutCol).toNat
  return farAway

/-- Writes everything still held at the end of printing: comments and white space. -/
def finish : PM Unit := do
  modify fun p => { p with impliedSemi := false }
  discard <| flush ⟨farAway, farAway, 0⟩ .eof

end Printer

end StaticWrap.GoSource
