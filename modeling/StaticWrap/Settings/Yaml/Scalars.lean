import StaticWrap.Settings.Yaml.Token
/-!
**Reading the scalars, anchors, tags and directives of YAML documents.**

Each reader starts at the indicator or first character of its token and returns the token and
the cursor after it.

* A plain scalar runs over blanks and line breaks while its lines stay indented past the
  enclosing block (inside a flow collection, at any indentation). It stops at `: ` (a colon
  before a blank), at ` #`, at a document marker at the start of a line, and inside a flow
  collection at `,`, `?`, `[`, `]`, `{`, `}`. Line breaks fold: a single break becomes a space,
  a run of them keeps all but the first; the blanks around them go.
* A quoted scalar folds in the same way; in single quotes `''` is a quote, in double quotes
  the backslash escapes of YAML apply (`\x`, `\u` and `\U` with two, four or eight hexadecimal
  digits), and a backslash before a line break joins the lines.
* A literal (`|`) or folded (`>`) block scalar keeps the lines indented at least as far as its
  first non-empty line (or as its indentation indicator says), joined by line feeds, or in the
  folded style by spaces where neither line starts with a blank. Its final line breaks are
  clipped to one, stripped (`-`) or kept (`+`).
-/

namespace StaticWrap.Settings.Yaml

/-- The parts of a scalar being read: its text, the first line break of the last run of
breaks, the breaks after it, the blanks since the last character, and whether the last run of
blanks held a break. -/
structure Folding where
  text : String := ""
  leadingBreak : String := ""
  trailingBreaks : String := ""
  whitespaces : String := ""
  leadingBlanks : Bool := false
  deriving Inhabited

/-- Joins the blanks or line breaks passed to the text, as the folding rules say. -/
def Folding.join (f : Folding) : Folding :=
  if f.leadingBlanks then
    let text :=
      if f.leadingBreak.front == '\n' && !f.leadingBreak.isEmpty then
        if f.trailingBreaks.isEmpty then f.text.push ' ' else f.text ++ f.trailingBreaks
      else f.text ++ f.leadingBreak ++ f.trailingBreaks
    { f with text, leadingBreak := "", trailingBreaks := "", leadingBlanks := false }
  else { f with text := f.text ++ f.whitespaces, whitespaces := "" }

/-- Passes blanks and line breaks inside a scalar, keeping them in the folding state. In a
plain scalar (`tabLimit` given), a tab in the indentation of a continued line is a fault. -/
def foldBlanks (start : Mark) (tabLimit : Option Int) : Nat → Cursor → Folding →
    Except Problem (Cursor × Folding)
  | 0, c, f => .ok (c, f)
  | fuel + 1, c, f =>
    let ch := c.peek
    if isBlank ch then
      let tabFault := match tabLimit with
        | some indent => f.leadingBlanks && (c.mark.column : Int) < indent && ch == '\t'
        | none => false
      if tabFault then .error (scanFault start c.mark "found a tab character that violates indentation")
      else if !f.leadingBlanks then foldBlanks start tabLimit fuel c.skip { f with whitespaces := f.whitespaces.push ch }
      else foldBlanks start tabLimit fuel c.skip f
    else if isBreak ch then
      let (b, c') := c.readLine
      if !f.leadingBlanks then
        foldBlanks start tabLimit fuel c' { f with whitespaces := "", leadingBreak := b, leadingBlanks := true }
      else foldBlanks start tabLimit fuel c' { f with trailingBreaks := f.trailingBreaks ++ b }
    else .ok (c, f)

/-- A character that ends a plain scalar inside a flow collection. -/
def isFlowStop (c : Char) : Bool :=
  c == ',' || c == '?' || c == '[' || c == ']' || c == '{' || c == '}'

/-- Reads the characters of a plain scalar up to a blank or an indicator that ends it; the
place after its last character. -/
def plainRun (flow : Bool) : Nat → Cursor → Folding → Mark → Cursor × Folding × Mark
  | 0, c, f, stop => (c, f, stop)
  | fuel + 1, c, f, stop =>
    let ch := c.peek
    if isBlankOrEnd ch then (c, f, stop)
    else if (ch == ':' && isBlankOrEnd (c.ahead 1)) || (flow && isFlowStop ch) then (c, f, stop)
    else
      let f := f.join
      let c := c.skip
      plainRun flow fuel c { f with text := f.text.push ch } c.mark

/-- Reads the lines of a plain scalar. -/
def plainLines (start : Mark) (flow : Bool) (indent : Int) : Nat → Cursor → Folding → Mark →
    Except Problem (Cursor × Folding × Mark)
  | 0, c, f, stop => .ok (c, f, stop)
  | fuel + 1, c, f, stop =>
    if c.atMarker '-' || c.atMarker '.' || c.peek == '#' then .ok (c, f, stop)
    else
      let (c, f, stop) := plainRun flow (c.left + 1) c f stop
      if !(isBlank c.peek || isBreak c.peek) then .ok (c, f, stop)
      else do
        let (c, f) ← foldBlanks start (some indent) (c.left + 1) c f
        if !flow && (c.mark.column : Int) < indent then .ok (c, f, stop)
        else plainLines start flow indent fuel c f stop

/-- Reads a plain scalar inside blocks indented to `parentIndent`; also whether it ended
after a line break, where a key may start. -/
def plainScalar (c : Cursor) (flowLevel : Nat) (parentIndent : Int) :
    Except Problem (Token × Cursor × Bool) := do
  let start := c.mark
  let (c, f, stop) ← plainLines start (flowLevel > 0) (parentIndent + 1) (c.left + 1) c {} start
  pure (⟨.scalar f.text .plain, start, stop⟩, c, f.leadingBlanks)

/-- The character a one-letter escape stands for. -/
def simpleEscape? : Char → Option String
  | '0' => some (String.singleton (Char.ofNat 0))
  | 'a' => some (String.singleton (Char.ofNat 7))
  | 'b' => some (String.singleton (Char.ofNat 8))
  | 't' => some "\t"
  | '\t' => some "\t"
  | 'n' => some "\n"
  | 'v' => some (String.singleton (Char.ofNat 11))
  | 'f' => some (String.singleton (Char.ofNat 12))
  | 'r' => some "\r"
  | 'e' => some (String.singleton (Char.ofNat 27))
  | ' ' => some " "
  | '"' => some "\""
  | '/' => some "/"
  | '\'' => some "'"
  | '\\' => some "\\"
  | 'N' => some (String.singleton (Char.ofNat 0x85))
  | '_' => some (String.singleton (Char.ofNat 0xA0))
  | 'L' => some (String.singleton (Char.ofNat 0x2028))
  | 'P' => some (String.singleton (Char.ofNat 0x2029))
  | _ => none

/-- The number of hexadecimal digits a code escape takes. -/
def codeLength : Char → Nat
  | 'x' => 2
  | 'u' => 4
  | 'U' => 8
  | _ => 0

/-- Reads the hexadecimal digits of a code escape. -/
def hexDigits (start : Mark) (c : Cursor) (n : Nat) : Except Problem Nat :=
  (List.range n).foldlM (fun v k =>
    match hexValue? (c.ahead k) with
    | some d => .ok (v * 16 + d)
    | none => .error (scanFault start c.mark "did not find expected hexdecimal number")) 0

/-- Reads the characters of a quoted scalar up to a blank, a line break or its closing quote;
also whether it passed an escaped line break. -/
def quotedRun (start : Mark) (single : Bool) : Nat → Cursor → String →
    Except Problem (Cursor × String × Bool)
  | 0, c, s => .ok (c, s, false)
  | fuel + 1, c, s =>
    let ch := c.peek
    if isBlankOrEnd ch then .ok (c, s, false)
    else if single && ch == '\'' && c.ahead 1 == '\'' then quotedRun start single fuel (c.skipN 2) (s.push '\'')
    else if single && ch == '\'' then .ok (c, s, false)
    else if !single && ch == '"' then .ok (c, s, false)
    else if !single && ch == '\\' && isBreak (c.ahead 1) then .ok (c.skip.skipLine, s, true)
    else if !single && ch == '\\' then
      let e := c.ahead 1
      match simpleEscape? e with
      | some t => quotedRun start single fuel (c.skipN 2) (s ++ t)
      | none =>
        let n := codeLength e
        if n == 0 then .error (scanFault start c.mark "found unknown escape character")
        else
          let c := c.skipN 2
          match hexDigits start c n with
          | .error p => .error p
          | .ok v =>
            if (0xD800 ≤ v && v ≤ 0xDFFF) || v > 0x10FFFF then
              .error (scanFault start c.mark "found invalid Unicode character escape code")
            else quotedRun start single fuel (c.skipN n) (s.push (Char.ofNat v))
    else quotedRun start single fuel c.skip (s.push ch)

/-- Reads the lines of a quoted scalar up to its closing quote. -/
def quotedLines (start : Mark) (single : Bool) : Nat → Cursor → Folding →
    Except Problem (Cursor × Folding)
  | 0, c, f => .ok (c, f)
  | fuel + 1, c, f => do
    if c.atMarker '-' || c.atMarker '.' then
      throw (scanFault start c.mark "found unexpected document indicator")
    if isEnd c.peek then throw (scanFault start c.mark "found unexpected end of stream")
    let (c, text, escapedBreak) ← quotedRun start single (c.left + 1) c f.text
    let f := { f with text, leadingBlanks := escapedBreak }
    if (single && c.peek == '\'') || (!single && c.peek == '"') then return (c, f)
    let (c, f) ← foldBlanks start none (c.left + 1) c f
    quotedLines start single fuel c f.join

/-- Reads a single- or double-quoted scalar. -/
def quotedScalar (c : Cursor) (single : Bool) : Except Problem (Token × Cursor) := do
  let start := c.mark
  let (c, f) ← quotedLines start single (c.left + 1) c.skip {}
  let c := c.skip
  let style := if single then ScalarStyle.singleQuoted else .doubleQuoted
  pure (⟨.scalar f.text style, start, c.mark⟩, c)

/-- Passes the indentation and empty lines before a line of a block scalar, keeping the
breaks; the indentation once known, and the place after the last break. -/
def blockBreaks (start : Mark) (indent : Nat) : Nat → Cursor → String → Nat → Mark →
    Except Problem (Cursor × String × Nat × Mark)
  | 0, c, breaks, maxIndent, stop => .ok (c, breaks, maxIndent, stop)
  | fuel + 1, c, breaks, maxIndent, stop =>
    let rec spaces : Nat → Cursor → Cursor
      | 0, c => c
      | n + 1, c =>
        if (indent == 0 || c.mark.column < indent) && c.peek == ' ' then spaces n c.skip else c
    let c := spaces (c.left + 1) c
    let maxIndent := max maxIndent c.mark.column
    if (indent == 0 || c.mark.column < indent) && c.peek == '\t' then
      .error (scanFault start c.mark "found a tab character where an indentation space is expected")
    else if !isBreak c.peek then .ok (c, breaks, maxIndent, stop)
    else
      let (b, c) := c.readLine
      blockBreaks start indent fuel c (breaks ++ b) maxIndent c.mark

/-- Passes the indentation and empty lines before a line of a block scalar, fixing the
indentation from the first non-empty line when no indicator gave it. -/
def blockIndent (start : Mark) (parentIndent : Int) (indent : Nat) (c : Cursor) :
    Except Problem (Cursor × String × Nat × Mark) := do
  let (c, breaks, maxIndent, stop) ← blockBreaks start indent (c.left + 1) c "" 0 c.mark
  if indent != 0 then return (c, breaks, indent, stop)
  let floor := (parentIndent + 1).toNat
  pure (c, breaks, max 1 (max maxIndent floor), stop)

/-- The state of a block scalar's lines: the text, the break after the last line, the empty
lines after it, whether the last line started with a blank, and the place of the end. -/
structure BlockLines where
  text : String := ""
  leadingBreak : String := ""
  trailingBreaks : String := ""
  leadingBlank : Bool := false
  stop : Mark

/-- Reads the lines of a block scalar at its indentation. -/
def blockLines (start : Mark) (literal : Bool) (indent : Nat) : Nat → Cursor → BlockLines →
    Except Problem (Cursor × BlockLines)
  | 0, c, b => .ok (c, b)
  | fuel + 1, c, b =>
    if c.mark.column != indent || isEnd c.peek then .ok (c, b)
    else do
      let trailingBlank := isBlank c.peek
      let folds := !literal && !b.leadingBlank && !trailingBlank && b.leadingBreak.front == '\n' &&
        !b.leadingBreak.isEmpty
      let text :=
        if folds then (if b.trailingBreaks.isEmpty then b.text.push ' ' else b.text)
        else b.text ++ b.leadingBreak
      let text := text ++ b.trailingBreaks
      let leadingBlank := isBlank c.peek
      let rest := c.skipToBreak
      let text := text ++ String.ofList ((c.input.extract c.pos rest.pos).toList)
      let (leadingBreak, c) := rest.readLine
      let (c, trailingBreaks, _, stop) ← blockIndent start 0 indent c
      blockLines start literal indent fuel c { text, leadingBreak, trailingBreaks, leadingBlank, stop }

/-- Reads the header of a block scalar after its indicator: the chomping (`-1` strip, `0`
clip, `1` keep) and the indentation indicator (`0` when none). -/
def blockHeader (start : Mark) (c : Cursor) : Except Problem (Int × Nat × Cursor) := do
  let chompOf (ch : Char) : Int := if ch == '+' then 1 else -1
  let digit (c : Cursor) : Except Problem (Nat × Cursor) :=
    if !isDigit c.peek then .ok (0, c)
    else if c.peek == '0' then .error (scanFault start c.mark "found an indentation indicator equal to 0")
    else .ok (c.peek.toNat - 48, c.skip)
  if c.peek == '+' || c.peek == '-' then
    let chomp := chompOf c.peek
    let (n, c) ← digit c.skip
    pure (chomp, n, c)
  else
    let (n, c) ← digit c
    if c.peek == '+' || c.peek == '-' then pure (chompOf c.peek, n, c.skip)
    else pure (0, n, c)

/-- Reads a literal or folded block scalar inside blocks indented to `parentIndent`. -/
def blockScalar (c : Cursor) (literal : Bool) (parentIndent : Int) : Except Problem (Token × Cursor) := do
  let start := c.mark
  let (chomp, increment, c) ← blockHeader start c.skip
  let c := c.skipBlanks
  let c := if c.peek == '#' then c.skipToBreak else c
  if !isBreakOrEnd c.peek then throw (scanFault start c.mark "did not find expected comment or line break")
  let c := if isBreak c.peek then c.skipLine else c
  let indent : Nat :=
    if increment > 0 then (if parentIndent ≥ 0 then parentIndent.toNat + increment else increment) else 0
  let (c, trailingBreaks, indent, stop) ← blockIndent start parentIndent indent c
  let (c, b) ← blockLines start literal indent (c.left + 1) c { trailingBreaks, stop }
  let text := if chomp != -1 then b.text ++ b.leadingBreak else b.text
  let text := if chomp == 1 then text ++ b.trailingBreaks else text
  let style := if literal then ScalarStyle.literal else .folded
  pure (⟨.scalar text style, start, b.stop⟩, c)

/-- Reads the characters of a name while they are letters, digits, `_` or `-`. -/
def readWord (c : Cursor) : String × Cursor :=
  let rec go : Nat → Cursor → String → String × Cursor
    | 0, c, s => (s, c)
    | n + 1, c, s => if isWordChar c.peek then go n c.skip (s.push c.peek) else (s, c)
  go (c.left + 1) c ""

/-- Reads an anchor (`&name`) or an alias (`*name`). -/
def anchorToken (c : Cursor) (isAlias : Bool) : Except Problem (Token × Cursor) :=
  let start := c.mark
  let (name, c) := readWord c.skip
  let ch := c.peek
  let follows := isBlankOrEnd ch || ch == '?' || ch == ':' || ch == ',' || ch == ']' || ch == '}' ||
    ch == '%' || ch == '@' || ch == Char.ofNat 96
  if name.isEmpty || !follows then
    .error (scanFault start c.mark "did not find expected alphabetic or numeric character")
  else
    let kind := if isAlias then TokenKind.alias name else .anchor name
    .ok (⟨kind, start, c.mark⟩, c)

/-- Reads a tag handle `!`, `!!` or `!word!`; in a directive the handle must end in `!`. -/
def tagHandle (start : Mark) (directive : Bool) (c : Cursor) : Except Problem (String × Cursor) :=
  if c.peek != '!' then .error (scanFault start c.mark "did not find expected '!'")
  else
    let (word, c) := readWord c.skip
    let s := "!" ++ word
    if c.peek == '!' then .ok (s.push '!', c.skip)
    else if directive && s != "!" then .error (scanFault start c.mark "did not find expected '!'")
    else .ok (s, c)

/-- A character of a tag's name; inside `!<…>` also `,`, `[` and `]`. -/
def isTagChar (verbatim : Bool) (c : Char) : Bool :=
  isWordChar c || ";/?:@&=+$.%!~*'()".toList.contains c || (verbatim && ",[]".toList.contains c)

/-- Reads the name of a tag after its handle; `head` is what was read as a handle and turned
out to start the name. -/
def tagUri (start : Mark) (verbatim : Bool) (head : String) (c : Cursor) :
    Except Problem (String × Cursor) :=
  let rec go : Nat → Cursor → String → String × Cursor
    | 0, c, s => (s, c)
    | n + 1, c, s => if isTagChar verbatim c.peek then go n c.skip (s.push c.peek) else (s, c)
  let (s, c') := go (c.left + 1) c (String.ofList (head.toList.drop 1))
  if head.isEmpty && c'.pos == c.pos then .error (scanFault start c.mark "did not find expected tag URI")
  else .ok (s, c')

/-- Reads a tag: `!<name>`, `!name`, `!!name`, `!word!name` or `!` alone. -/
def tagToken (c : Cursor) (flowLevel : Nat) : Except Problem (Token × Cursor) := do
  let start := c.mark
  let (handle, suffix, c) ←
    if c.ahead 1 == '<' then do
      let (suffix, c) ← tagUri start true "" (c.skipN 2)
      if c.peek != '>' then throw (scanFault start c.mark "did not find the expected '>'")
      pure ("", suffix, c.skip)
    else do
      let (handle, c) ← tagHandle start false c
      if handle.length > 1 && handle.back == '!' then
        let (suffix, c) ← tagUri start false "" c
        pure (handle, suffix, c)
      else
        let (suffix, c) ← tagUri start false handle c
        if suffix.isEmpty then pure ("", "!", c) else pure ("!", suffix, c)
  if !isBlankOrEnd c.peek && (flowLevel == 0 || c.peek != ',') then
    throw (scanFault start c.mark "did not find expected whitespace or line break")
  pure (⟨.tag handle suffix, start, c.mark⟩, c)

/-- Reads a version number of at most two digits in a `%YAML` directive. -/
def versionNumber (start : Mark) (c : Cursor) : Except Problem (Nat × Cursor) :=
  let rec go : Nat → Cursor → Nat → Nat → Except Problem (Nat × Cursor)
    | 0, c, v, _ => .ok (v, c)
    | n + 1, c, v, len =>
      if !isDigit c.peek then
        if len == 0 then .error (scanFault start c.mark "did not find expected version number")
        else .ok (v, c)
      else if len + 1 > 2 then .error (scanFault start c.mark "found extremely long version number")
      else go n c.skip (v * 10 + (c.peek.toNat - 48)) (len + 1)
  go (c.left + 1) c 0 0

/-- Reads a `%YAML` or `%TAG` directive, up to and including its line break. -/
def directiveToken (c : Cursor) : Except Problem (Token × Cursor) := do
  let start := c.mark
  let (name, c) := readWord c.skip
  if name.isEmpty then throw (scanFault start c.mark "could not find expected directive name")
  if !isBlankOrEnd c.peek then throw (scanFault start c.mark "found unexpected non-alphabetical character")
  let (kind, c) ←
    if name == "YAML" then do
      let (major, c) ← versionNumber start c.skipBlanks
      if c.peek != '.' then throw (scanFault start c.mark "did not find expected digit or '.' character")
      let (minor, c) ← versionNumber start c.skip
      pure (TokenKind.versionDirective major minor, c)
    else if name == "TAG" then do
      let (handle, c) ← tagHandle start true c.skipBlanks
      if !isBlank c.peek then throw (scanFault start c.mark "did not find expected whitespace")
      let (pre, c) ← tagUri start true "" c.skipBlanks
      if !isBlankOrEnd c.peek then throw (scanFault start c.mark "did not find expected whitespace or line break")
      pure (TokenKind.tagDirective handle pre, c)
    else throw (scanFault start c.mark "found unknown directive name")
  let stop := c.mark
  let c := c.skipBlanks
  let c := if c.peek == '#' then c.skipToBreak else c
  if !isBreakOrEnd c.peek then throw (scanFault start c.mark "did not find expected comment or line break")
  let c := if isBreak c.peek then c.skipLine else c
  pure (⟨kind, start, stop⟩, c)

end StaticWrap.Settings.Yaml
