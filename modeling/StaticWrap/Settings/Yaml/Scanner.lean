import StaticWrap.Settings.Yaml.Scalars
/-!
**The token stream of a YAML document.**

The scanner turns the text into tokens on demand, keeping a queue of tokens not yet taken.
Indentation is tracked as a stack of columns: a line that starts a block entry or a key more
indented than the current block opens a block (a `blockSequenceStart` or `blockMappingStart`
token), and a line less indented closes blocks (`blockEnd` tokens) down to its column.

A key written without `?` is only known to be one when its `:` comes. Every token that may
start such a key (a scalar, an anchor, a tag, a flow collection) is remembered as a possible
key, and the `:` that follows it on the same line (and within 1024 characters) inserts the
`key` token, and perhaps a `blockMappingStart`, before it in the queue. The queue hands a token
out only when at least three are waiting and the first is no longer a possible key.

A possible key at the indentation of its block mapping must become a key: when its line ends
first, the fault is `could not find expected ':'`. The other faults are of indicators where
they may not stand (`mapping values are not allowed in this context`, `block sequence entries
are not allowed in this context`, `mapping keys are not allowed in this context`), of a
character that starts no token, and those of the scalar readers.
-/

namespace StaticWrap.Settings.Yaml

/-- A place where a key without `?` may start: whether it still may, whether it must (it
stands at the indentation of a block mapping), the number of its first token, and its place. -/
structure PossibleKey where
  possible : Bool := false
  required : Bool := false
  tokenNumber : Nat := 0
  mark : Mark := {}
  deriving Inhabited

/-- The scanner: the cursor, the tokens waiting and the number handed out, the flow depth,
the indentation and the indentations of the enclosing blocks, whether a key may start here,
the possible keys of each flow depth (the innermost last) and their token numbers. -/
structure Scanner where
  cursor : Cursor
  queue : List Token := []
  taken : Nat := 0
  available : Bool := false
  started : Bool := false
  flowLevel : Nat := 0
  indent : Int := -1
  indents : List Int := []
  keyAllowed : Bool := false
  keys : Array PossibleKey := #[]
  keysByToken : List (Nat × Nat) := []
  deriving Inhabited

namespace Scanner

/-- Puts a token in the queue: at a position, or at the end. -/
def insert (s : Scanner) (at? : Option Nat) (t : Token) : Scanner :=
  match at? with
  | none => { s with queue := s.queue ++ [t] }
  | some i => { s with queue := s.queue.take i ++ t :: s.queue.drop i }

/-- Adds a token at the end of the queue. -/
def push (s : Scanner) (kind : TokenKind) (start stop : Mark) : Scanner :=
  s.insert none ⟨kind, start, stop⟩

/-- The index of the innermost possible key. -/
def top (s : Scanner) : Nat := s.keys.size - 1

/-- Forgets the possible key of a token number. -/
def forget (s : Scanner) (n : Nat) : Scanner :=
  { s with keysByToken := s.keysByToken.filter (·.1 != n) }

/-- Drops the innermost possible key; a fault if it had to be a key. -/
def removeKey (s : Scanner) : Except Problem Scanner :=
  match s.keys[s.top]? with
  | some k =>
    if !k.possible then .ok s
    else if k.required then .error (scanFault k.mark s.cursor.mark "could not find expected ':'")
    else .ok ({ s with keys := s.keys.set! s.top { k with possible := false } }.forget k.tokenNumber)
  | none => .ok s

/-- Whether the possible key at an index still may be one: it may not once its line has
ended or 1024 characters have passed, and then it is a fault if it had to be a key. -/
def keyValid (s : Scanner) (i : Nat) : Except Problem (Bool × Scanner) :=
  match s.keys[i]? with
  | none => .ok (false, s)
  | some k =>
    if !k.possible then .ok (false, s)
    else if k.mark.line < s.cursor.mark.line || k.mark.index + 1024 < s.cursor.mark.index then
      if k.required then .error (scanFault k.mark s.cursor.mark "could not find expected ':'")
      else .ok (false, { s with keys := s.keys.set! i { k with possible := false } })
    else .ok (true, s)

/-- Remembers the place of the next token as a possible key, if a key may start here. -/
def saveKey (s : Scanner) : Except Problem Scanner := do
  if !s.keyAllowed then return s
  let k : PossibleKey :=
    { possible := true
      required := s.flowLevel == 0 && s.indent == (s.cursor.mark.column : Int)
      tokenNumber := s.taken + s.queue.length
      mark := s.cursor.mark }
  let s ← s.removeKey
  let s := s.forget k.tokenNumber
  pure { s with keys := s.keys.set! s.top k, keysByToken := (k.tokenNumber, s.top) :: s.keysByToken }

/-- Enters a flow collection. -/
def increaseFlowLevel (s : Scanner) : Except Problem Scanner :=
  let s := { s with keys := s.keys.push { mark := s.cursor.mark }, flowLevel := s.flowLevel + 1 }
  if s.flowLevel > 10000 then .error (scanFault s.cursor.mark s.cursor.mark "exceeded max depth of 10000")
  else .ok s

/-- Leaves a flow collection. -/
def decreaseFlowLevel (s : Scanner) : Scanner :=
  if s.flowLevel == 0 then s
  else
    let s := match s.keys[s.top]? with
      | some k => s.forget k.tokenNumber
      | none => s
    { s with flowLevel := s.flowLevel - 1, keys := s.keys.pop }

/-- Opens a block at a column more indented than the current one, putting its start token at
a token number (or at the end). Inside a flow collection nothing happens. -/
def rollIndent (s : Scanner) (column : Nat) (number : Option Nat) (kind : TokenKind) (mark : Mark) :
    Except Problem Scanner :=
  if s.flowLevel > 0 || s.indent ≥ (column : Int) then .ok s
  else
    let s := { s with indents := s.indent :: s.indents, indent := column }
    if s.indents.length > 10000 then
      .error (scanFault (s.keys[s.top]?.map (·.mark) |>.getD {}) s.cursor.mark "exceeded max depth of 10000")
    else .ok (s.insert (number.map (· - s.taken)) ⟨kind, mark, mark⟩)

/-- Closes the blocks more indented than a column. -/
def unrollIndent (s : Scanner) (column : Int) (scanMark : Mark) : Scanner :=
  if s.flowLevel > 0 then s
  else
    let mark := { scanMark with index := scanMark.index - 1 }
    let rec go : List Int → Scanner → Scanner
      | [], s => s
      | outer :: rest, s =>
        if s.indent > column then go rest ({ s.push .blockEnd mark mark with indent := outer, indents := rest })
        else s
    go s.indents s

/-- Passes blanks, comments and line breaks up to the next token. Tabs count as blanks inside
flow collections and where no key may start; a line break in a block lets a key start. -/
def skipToToken (s : Scanner) : Scanner :=
  let rec go : Nat → Scanner → Scanner
    | 0, s => s
    | fuel + 1, s =>
      let c := s.cursor
      let c := if c.mark.column == 0 && c.peek.toNat == 0xFEFF then c.skip else c
      let rec blanks : Nat → Cursor → Cursor
        | 0, c => c
        | n + 1, c =>
          if c.peek == ' ' || ((s.flowLevel > 0 || !s.keyAllowed) && c.peek == '\t') then blanks n c.skip
          else c
      let c := blanks (c.left + 1) c
      let c := if c.peek == '#' then c.skipToBreak else c
      if isBreak c.peek then
        go fuel { s with cursor := c.skipLine, keyAllowed := s.keyAllowed || s.flowLevel == 0 }
      else { s with cursor := c }
  go (s.cursor.left + 1) s

/-- Passes the blanks and the comment that end the line of a token just read, unless a line
break came since its last character. -/
def skipLineComment (s : Scanner) : Scanner :=
  let c := s.cursor
  if c.breaks > 0 then s
  else
    let after := c.skipBlanks
    if after.peek == '#' then { s with cursor := after.skipToBreak } else s

/-- Reads the first token of the stream. -/
def fetchStreamStart (s : Scanner) : Scanner :=
  let s := { s with indent := -1, keys := #[{}], keysByToken := [], keyAllowed := true, started := true }
  s.push .streamStart s.cursor.mark s.cursor.mark

/-- Reads the end of the stream, closing all blocks. -/
def fetchStreamEnd (s : Scanner) : Except Problem Scanner := do
  let c := s.cursor
  let c := if c.mark.column != 0 then { c with mark := { c.mark with column := 0, line := c.mark.line + 1 } } else c
  let s := { s with cursor := c }
  let s := s.unrollIndent (-1) c.mark
  let s ← s.removeKey
  pure ({ s with keyAllowed := false }.push .streamEnd c.mark c.mark)

/-- Reads a directive. -/
def fetchDirective (s : Scanner) : Except Problem Scanner := do
  let s := s.unrollIndent (-1) s.cursor.mark
  let s ← s.removeKey
  let (t, c) ← directiveToken s.cursor
  pure ({ s with keyAllowed := false, cursor := c }.insert none t)

/-- Reads a document marker `---` or `...`. -/
def fetchDocumentIndicator (s : Scanner) (kind : TokenKind) : Except Problem Scanner := do
  let s := s.unrollIndent (-1) s.cursor.mark
  let s ← s.removeKey
  let start := s.cursor.mark
  let c := s.cursor.skipN 3
  pure ({ s with keyAllowed := false, cursor := c }.push kind start c.mark)

/-- Reads a one-character indicator. -/
def fetchIndicator (s : Scanner) (kind : TokenKind) : Scanner :=
  let start := s.cursor.mark
  let c := s.cursor.skip
  { s with cursor := c }.push kind start c.mark

/-- Reads `[` or `{`. -/
def fetchFlowStart (s : Scanner) (kind : TokenKind) : Except Problem Scanner := do
  let s ← s.saveKey
  let s ← s.increaseFlowLevel
  pure ({ s with keyAllowed := true }.fetchIndicator kind)

/-- Reads `]` or `}`. -/
def fetchFlowEnd (s : Scanner) (kind : TokenKind) : Except Problem Scanner := do
  let s ← s.removeKey
  let s := s.decreaseFlowLevel
  pure ({ s with keyAllowed := false }.fetchIndicator kind)

/-- Reads `,`. -/
def fetchFlowEntry (s : Scanner) : Except Problem Scanner := do
  let s ← s.removeKey
  pure ({ s with keyAllowed := true }.fetchIndicator .flowEntry)

/-- Reads `-` before a blank: a block entry, opening a block sequence at its column. -/
def fetchBlockEntry (s : Scanner) : Except Problem Scanner := do
  let mark := s.cursor.mark
  let s ←
    if s.flowLevel == 0 then do
      if !s.keyAllowed then
        throw (scanFault mark mark "block sequence entries are not allowed in this context")
      s.rollIndent mark.column none .blockSequenceStart mark
    else pure s
  let s ← s.removeKey
  pure ({ s with keyAllowed := true }.fetchIndicator .blockEntry)

/-- Reads `?`: a key, opening a block mapping at its column. -/
def fetchKey (s : Scanner) : Except Problem Scanner := do
  let mark := s.cursor.mark
  let s ←
    if s.flowLevel == 0 then do
      if !s.keyAllowed then throw (scanFault mark mark "mapping keys are not allowed in this context")
      s.rollIndent mark.column none .blockMappingStart mark
    else pure s
  let s ← s.removeKey
  pure ({ s with keyAllowed := s.flowLevel == 0 }.fetchIndicator .key)

/-- Reads `:`: a value, and the key before it when a possible key is waiting. -/
def fetchValue (s : Scanner) : Except Problem Scanner := do
  let i := s.top
  let (valid, s) ← s.keyValid i
  let s ←
    match valid, s.keys[i]? with
    | true, some k => do
      let s := s.insert (some (k.tokenNumber - s.taken)) ⟨.key, k.mark, k.mark⟩
      let s ← s.rollIndent k.mark.column (some k.tokenNumber) .blockMappingStart k.mark
      let s := { s with keys := s.keys.set! i { k with possible := false } }.forget k.tokenNumber
      pure { s with keyAllowed := false }
    | _, _ => do
      let mark := s.cursor.mark
      let s ←
        if s.flowLevel == 0 then do
          if !s.keyAllowed then throw (scanFault mark mark "mapping values are not allowed in this context")
          s.rollIndent mark.column none .blockMappingStart mark
        else pure s
      pure { s with keyAllowed := s.flowLevel == 0 }
  pure (s.fetchIndicator .value)

/-- Adds a token read by one of the scalar readers. -/
def withToken (s : Scanner) (r : Token × Cursor) : Scanner :=
  { s with cursor := r.2 }.insert none r.1

/-- Reads the next token into the queue. -/
def fetchNext (s : Scanner) : Except Problem Scanner := do
  if !s.started then return s.fetchStreamStart
  let scanMark := s.cursor.mark
  let s := s.skipToToken
  let s := s.unrollIndent s.cursor.mark.column scanMark
  let c := s.cursor
  let ch := c.peek
  if isEnd ch then return (← s.fetchStreamEnd)
  if c.mark.column == 0 && ch == '%' then return (← s.fetchDirective)
  if c.atMarker '-' then return (← s.fetchDocumentIndicator .documentStart)
  if c.atMarker '.' then return (← s.fetchDocumentIndicator .documentEnd)
  let next := c.ahead 1
  let flow := s.flowLevel > 0
  let s ←
    if ch == '[' then s.fetchFlowStart .flowSequenceStart
    else if ch == '{' then s.fetchFlowStart .flowMappingStart
    else if ch == ']' then s.fetchFlowEnd .flowSequenceEnd
    else if ch == '}' then s.fetchFlowEnd .flowMappingEnd
    else if ch == ',' then s.fetchFlowEntry
    else if ch == '-' && isBlankOrEnd next then s.fetchBlockEntry
    else if ch == '?' && (flow || isBlankOrEnd next) then s.fetchKey
    else if ch == ':' && (flow || isBlankOrEnd next) then s.fetchValue
    else if ch == '*' || ch == '&' then do
      let s ← s.saveKey
      let r ← anchorToken s.cursor (ch == '*')
      pure ({ s with keyAllowed := false }.withToken r)
    else if ch == '!' then do
      let s ← s.saveKey
      let r ← tagToken s.cursor s.flowLevel
      pure ({ s with keyAllowed := false }.withToken r)
    else if (ch == '|' || ch == '>') && !flow then do
      let s ← s.removeKey
      let r ← blockScalar s.cursor (ch == '|') s.indent
      pure ({ s with keyAllowed := true }.withToken r)
    else if ch == '\'' || ch == '"' then do
      let s ← s.saveKey
      let r ← quotedScalar s.cursor (ch == '\'')
      pure ({ s with keyAllowed := false }.withToken r)
    else if !(isBlankOrEnd ch || "-?:,[]\x7b\x7d#&*!|>'\"%@".toList.contains ch || ch == Char.ofNat 96) ||
        (ch == '-' && !isBlank next) || (!flow && (ch == '?' || ch == ':') && !isBlank next) then do
      let s ← s.saveKey
      let (t, c, brokeLine) ← plainScalar s.cursor s.flowLevel s.indent
      pure ({ s with keyAllowed := brokeLine, cursor := c }.insert none t)
    else throw (scanFault c.mark c.mark "found character that cannot start any token")
  let lastIsEntry := match s.queue.getLast? with
    | some t => match t.kind with
      | .blockEntry => true
      | _ => false
    | none => false
  pure (if lastIsEntry then s else s.skipLineComment)

/-- Reads tokens until at least three wait and the first is not a possible key. -/
def fetchMore (s : Scanner) : Except Problem Scanner :=
  let rec go : Nat → Scanner → Except Problem Scanner
    | 0, s => .ok s
    | fuel + 1, s => do
      if s.queue.length > 2 then
        match s.keysByToken.lookup s.taken with
        | none => return s
        | some i =>
          let (valid, s) ← s.keyValid i
          if !valid then return s
      go fuel (← s.fetchNext)
  go (s.cursor.left + 8) s

/-- The next token, reading more of the text when needed. -/
def peekToken (s : Scanner) : Except Problem (Token × Scanner) := do
  let s ← if s.available then pure s else s.fetchMore
  let s := { s with available := true }
  match s.queue.head? with
  | some t => pure (t, s)
  | none => pure (⟨.streamEnd, s.cursor.mark, s.cursor.mark⟩, s)

/-- Hands out the next token. -/
def skipToken (s : Scanner) : Scanner :=
  { s with queue := s.queue.drop 1, taken := s.taken + 1, available := false }

end Scanner

end StaticWrap.Settings.Yaml
