/-!
**The tokens of YAML documents, and the cursor that reads them.**

A document is read as a stream of tokens (indicators, scalars, and the starts and ends of
blocks the indentation implies), then as a stream of events, then as a tree of nodes. This
module holds what all the stages share:

* `Mark`: a place in the text (a character index, a line and a column, all from zero);
* `Token`: a token with where it starts and stops;
* `Problem`: a fault with the stage that found it, the place of its context and its own
  place. Its text names a line as each stage counts lines: a scanning fault one past the line
  index, a parsing fault the line index itself, and nothing on the first line;
* `Cursor`: the text as characters, with the place of the next one. A character past the end
  reads as NUL, which a document never holds, so the end reads as its own character.
-/

namespace StaticWrap.Settings.Yaml

/-- A place in a document: the index of a character, its line and its column. -/
structure Mark where
  index : Nat := 0
  line : Nat := 0
  column : Nat := 0
  deriving Repr, Inhabited, DecidableEq

/-- How a scalar is written. -/
inductive ScalarStyle where
  | plain
  | singleQuoted
  | doubleQuoted
  | literal
  | folded
  deriving Repr, Inhabited, DecidableEq

/-- What a token is. -/
inductive TokenKind where
  | streamStart
  | streamEnd
  | versionDirective (major minor : Nat)
  | tagDirective (handle pre : String)
  | documentStart
  | documentEnd
  | blockSequenceStart
  | blockMappingStart
  | blockEnd
  | flowSequenceStart
  | flowSequenceEnd
  | flowMappingStart
  | flowMappingEnd
  | blockEntry
  | flowEntry
  | key
  | value
  | alias (name : String)
  | anchor (name : String)
  | tag (handle suffix : String)
  | scalar (text : String) (style : ScalarStyle)
  deriving Repr, Inhabited

/-- A token and the places where it starts and stops. -/
structure Token where
  kind : TokenKind
  start : Mark
  stop : Mark
  deriving Repr, Inhabited

/-- The stage of reading that found a fault. -/
inductive Stage where
  | reading
  | scanning
  | parsing
  | composing
  deriving Repr, DecidableEq

/-- A fault: the stage that found it, the place of what was being read, its own place, and
what is wrong. -/
structure Problem where
  stage : Stage
  context : Mark := {}
  place : Mark := {}
  message : String
  deriving Repr

/-- The line a fault names: that of its context if not the first, else its own if not the
first; a scanning fault counts lines from one, a parsing fault from zero. -/
def Problem.line (p : Problem) : Nat :=
  let shift := if p.stage == .scanning then 1 else 0
  if p.context.line != 0 then p.context.line + shift
  else if p.place.line != 0 then p.place.line + shift
  else 0

/-- The text of a fault. -/
def Problem.text (p : Problem) : String :=
  let line := p.line
  if line == 0 then "yaml: " ++ p.message
  else "yaml: line " ++ toString line ++ ": " ++ p.message

/-- A scanning fault found at `place` while reading what starts at `context`. -/
def scanFault (context place : Mark) (message : String) : Problem :=
  { stage := .scanning, context, place, message }

/-- A blank: space or tab. -/
def isBlank (c : Char) : Bool := c == ' ' || c == '\t'

/-- A line break: line feed, carriage return, next line, line or paragraph separator. -/
def isBreak (c : Char) : Bool :=
  c == '\n' || c == '\r' || c.toNat == 0x85 || c.toNat == 0x2028 || c.toNat == 0x2029

/-- The end of the text. -/
def isEnd (c : Char) : Bool := c.toNat == 0

/-- A line break or the end. -/
def isBreakOrEnd (c : Char) : Bool := isBreak c || isEnd c

/-- A blank, a line break or the end. -/
def isBlankOrEnd (c : Char) : Bool := isBlank c || isBreakOrEnd c

/-- A letter, a digit, `_` or `-`. -/
def isWordChar (c : Char) : Bool :=
  ('0' ≤ c && c ≤ '9') || ('A' ≤ c && c ≤ 'Z') || ('a' ≤ c && c ≤ 'z') || c == '_' || c == '-'

/-- A decimal digit. -/
def isDigit (c : Char) : Bool := '0' ≤ c && c ≤ '9'

/-- The value of a hexadecimal digit. -/
def hexValue? (c : Char) : Option Nat :=
  if '0' ≤ c && c ≤ '9' then some (c.toNat - 48)
  else if 'a' ≤ c && c ≤ 'f' then some (c.toNat - 87)
  else if 'A' ≤ c && c ≤ 'F' then some (c.toNat - 55)
  else none

/-- The text being read and the place of the next character. `breaks` counts the line breaks
passed since the last character that is not blank. -/
structure Cursor where
  input : Array Char
  pos : Nat := 0
  mark : Mark := {}
  breaks : Nat := 0
  deriving Inhabited

namespace Cursor

/-- The character `k` places ahead; NUL past the end. -/
def ahead (c : Cursor) (k : Nat) : Char := c.input.getD (c.pos + k) (Char.ofNat 0)

/-- The next character. -/
def peek (c : Cursor) : Char := c.ahead 0

/-- The characters left. -/
def left (c : Cursor) : Nat := c.input.size - c.pos

/-- Passes one character that is not a line break. -/
def skip (c : Cursor) : Cursor :=
  { c with
    pos := c.pos + 1
    mark := { c.mark with index := c.mark.index + 1, column := c.mark.column + 1 }
    breaks := if isBlank c.peek then c.breaks else 0 }

/-- Passes `n` characters that are not line breaks. -/
def skipN (c : Cursor) : Nat → Cursor
  | 0 => c
  | n + 1 => (c.skip).skipN n

/-- Passes a line break, a carriage return and line feed counting as one. -/
def skipLine (c : Cursor) : Cursor :=
  if c.peek == '\r' && c.ahead 1 == '\n' then
    { c with
      pos := c.pos + 2
      mark := { index := c.mark.index + 2, line := c.mark.line + 1, column := 0 }
      breaks := c.breaks + 1 }
  else if isBreak c.peek then
    { c with
      pos := c.pos + 1
      mark := { index := c.mark.index + 1, line := c.mark.line + 1, column := 0 }
      breaks := c.breaks + 1 }
  else c

/-- Reads a line break as it stands in a scalar: a line feed, except that a line or paragraph
separator stays itself. -/
def readLine (c : Cursor) : String × Cursor :=
  let ch := c.peek
  if ch.toNat == 0x2028 || ch.toNat == 0x2029 then (String.singleton ch, c.skipLine)
  else if isBreak ch then ("\n", c.skipLine)
  else ("", c)

/-- Passes blanks. -/
def skipBlanks (c : Cursor) : Cursor :=
  let rec go : Nat → Cursor → Cursor
    | 0, c => c
    | fuel + 1, c => if isBlank c.peek then go fuel c.skip else c
  go (c.left + 1) c

/-- Passes characters up to a line break or the end. -/
def skipToBreak (c : Cursor) : Cursor :=
  let rec go : Nat → Cursor → Cursor
    | 0, c => c
    | fuel + 1, c => if isBreakOrEnd c.peek then c else go fuel c.skip
  go (c.left + 1) c

/-- The next three characters are `s` and a blank, a break or the end follows: a document
marker `---` or `...`. -/
def atMarker (c : Cursor) (ch : Char) : Bool :=
  c.mark.column == 0 && c.ahead 0 == ch && c.ahead 1 == ch && c.ahead 2 == ch &&
    isBlankOrEnd (c.ahead 3)

end Cursor

end StaticWrap.Settings.Yaml
