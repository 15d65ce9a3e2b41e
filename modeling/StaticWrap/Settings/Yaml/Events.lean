import StaticWrap.Settings.Yaml.Scanner
/-!
**The event stream of a YAML document.**

The parser reads tokens and hands out events: the starts and ends of the stream, of
documents, of sequences and of mappings, scalars, and aliases. It is a state machine whose
state says what may come next, with a stack of the states to return to after a node.

A node may carry an anchor and a tag, in either order; a tag's handle is replaced by the
prefix a `%TAG` directive (or the default `!` and `!!` handles) gives it. Where a node is
expected and none is written (an entry `-` or a key or value with nothing after it) the
event is an empty plain scalar.

Faults name what was expected: `did not find expected key` in a block mapping,
`did not find expected '-' indicator` in a block sequence, `did not find expected ',' or ']'`
(or `'}'`) in a flow collection, `did not find expected node content` where a node must stand,
and `did not find expected <document start>` after a document that ends without `...` or
`---` and is followed by more content.
-/

namespace StaticWrap.Settings.Yaml

/-- What an event is. A node's anchor is empty when it has none, and its tag is the full tag
or empty. -/
inductive EventKind where
  | streamStart
  | streamEnd
  | documentStart
  | documentEnd
  | alias (name : String)
  | scalar (anchor tag text : String) (style : ScalarStyle)
  | sequenceStart (anchor tag : String) (flow : Bool)
  | sequenceEnd
  | mappingStart (anchor tag : String) (flow : Bool)
  | mappingEnd
  deriving Repr, Inhabited

/-- The name of an event's kind in faults. -/
def EventKind.name : EventKind → String
  | .streamStart => "STREAM-START"
  | .streamEnd => "STREAM-END"
  | .documentStart => "DOCUMENT-START"
  | .documentEnd => "DOCUMENT-END"
  | .alias _ => "ALIAS"
  | .scalar .. => "SCALAR"
  | .sequenceStart .. => "SEQUENCE-START"
  | .sequenceEnd => "SEQUENCE-END"
  | .mappingStart .. => "MAPPING-START"
  | .mappingEnd => "MAPPING-END"

/-- An event and where it starts. -/
structure Event where
  kind : EventKind
  start : Mark
  deriving Repr, Inhabited

/-- What the parser expects next. -/
inductive ParseState where
  | streamStart
  | implicitDocumentStart
  | documentStart
  | documentContent
  | documentEnd
  | blockNode
  | blockNodeOrIndentlessSequence
  | flowNode
  | blockSequenceFirstEntry
  | blockSequenceEntry
  | indentlessSequenceEntry
  | blockMappingFirstKey
  | blockMappingKey
  | blockMappingValue
  | flowSequenceFirstEntry
  | flowSequenceEntry
  | flowSequenceEntryMappingKey
  | flowSequenceEntryMappingValue
  | flowSequenceEntryMappingEnd
  | flowMappingFirstKey
  | flowMappingKey
  | flowMappingValue
  | flowMappingEmptyValue
  | finished
  deriving Repr, Inhabited, DecidableEq

/-- The parser: the scanner, the state, the states to return to, the places where the
enclosing collections start, and the tag handles of the document. -/
structure Parser where
  scanner : Scanner
  state : ParseState := .streamStart
  states : List ParseState := []
  marks : List Mark := []
  tagHandles : List (String × String) := []
  deriving Inhabited

def parseFault (place : Mark) (message : String) : Problem :=
  { stage := .parsing, place, message }

/-- A parsing fault at a place while reading what starts at `context`. -/
def parseFaultIn (context place : Mark) (message : String) : Problem :=
  { stage := .parsing, context, place, message }

namespace Parser

/-- The next token. -/
def peek (p : Parser) : Except Problem (Token × Parser) := do
  let (t, s) ← p.scanner.peekToken
  pure (t, { p with scanner := s })

/-- Passes the next token. -/
def skip (p : Parser) : Parser := { p with scanner := p.scanner.skipToken }

/-- Returns to the state on top of the stack. -/
def pop (p : Parser) : Parser :=
  match p.states with
  | s :: rest => { p with state := s, states := rest }
  | [] => { p with state := .finished }

/-- Forgets the start of the innermost collection. -/
def popMark (p : Parser) : Parser := { p with marks := p.marks.drop 1 }

/-- The start of the innermost collection. -/
def topMark (p : Parser) : Mark := p.marks.head?.getD {}

/-- An empty plain scalar at a place. -/
def empty (mark : Mark) : Event := ⟨.scalar "" "" "" .plain, mark⟩

/-- Token kind tests. -/
def isBlockEntry : TokenKind → Bool | .blockEntry => true | _ => false
def isBlockEnd : TokenKind → Bool | .blockEnd => true | _ => false
def isKey : TokenKind → Bool | .key => true | _ => false
def isValue : TokenKind → Bool | .value => true | _ => false
def isFlowEntry : TokenKind → Bool | .flowEntry => true | _ => false
def isFlowSequenceEnd : TokenKind → Bool | .flowSequenceEnd => true | _ => false
def isFlowMappingEnd : TokenKind → Bool | .flowMappingEnd => true | _ => false
def isStreamEnd : TokenKind → Bool | .streamEnd => true | _ => false
def isDocumentEnd : TokenKind → Bool | .documentEnd => true | _ => false
def isDocumentStart : TokenKind → Bool | .documentStart => true | _ => false
def isDirective : TokenKind → Bool
  | .versionDirective .. => true
  | .tagDirective .. => true
  | _ => false

/-- Reads the directives before a document, and adds the default tag handles. -/
def directives (p : Parser) : Except Problem (Parser × Token) := do
  let rec go : Nat → Parser → Bool → Except Problem (Parser × Token)
    | 0, p, _ => do
      let (t, p) ← p.peek
      pure (p, t)
    | fuel + 1, p, seenVersion => do
      let (t, p) ← p.peek
      match t.kind with
      | .versionDirective major minor =>
        if seenVersion then throw (parseFault t.start "found duplicate %YAML directive")
        if major != 1 || minor != 1 then
          throw (parseFault t.start "found incompatible YAML document")
        go fuel p.skip true
      | .tagDirective handle pre =>
        if p.tagHandles.any (·.1 == handle) then throw (parseFault t.start "found duplicate %TAG directive")
        go fuel { p.skip with tagHandles := p.tagHandles ++ [(handle, pre)] } seenVersion
      | _ => pure (p, t)
  let (p, t) ← go (p.scanner.cursor.left + 2) p false
  let defaults := [("!", "!"), ("!!", "tag:yaml.org,2002:")]
  let handles := defaults.foldl (fun hs d => if hs.any (·.1 == d.1) then hs else hs ++ [d]) p.tagHandles
  pure ({ p with tagHandles := handles }, t)

def streamStart (p : Parser) : Except Problem (Event × Parser) := do
  let (t, p) ← p.peek
  match t.kind with
  | .streamStart => pure (⟨.streamStart, t.start⟩, { p.skip with state := .implicitDocumentStart })
  | _ => throw (parseFault t.start "did not find expected <stream-start>")

/-- The start of a document, or the end of the stream. -/
def documentStart (p : Parser) (implicit : Bool) : Except Problem (Event × Parser) := do
  let (t, p) ← p.peek
  let rec extraEnds : Nat → Parser → Token → Except Problem (Token × Parser)
    | 0, p, t => pure (t, p)
    | fuel + 1, p, t =>
      if isDocumentEnd t.kind then do
        let (t, p) ← p.skip.peek
        extraEnds fuel p t
      else pure (t, p)
  let (t, p) ← if implicit then pure (t, p) else extraEnds (p.scanner.cursor.left + 2) p t
  if implicit && !isDirective t.kind && !isDocumentStart t.kind && !isStreamEnd t.kind then
    let (p, t) ← p.directives
    pure (⟨.documentStart, t.start⟩, { p with states := .documentEnd :: p.states, state := .blockNode })
  else if !isStreamEnd t.kind then
    let start := t.start
    let (p, t) ← p.directives
    if !isDocumentStart t.kind then throw (parseFault t.start "did not find expected <document start>")
    pure (⟨.documentStart, start⟩, { p.skip with states := .documentEnd :: p.states, state := .documentContent })
  else
    pure (⟨.streamEnd, t.start⟩, { p.skip with state := .finished })

/-- The content of an explicit document: a node, or nothing. -/
def documentContent (p : Parser) (node : Parser → Except Problem (Event × Parser)) :
    Except Problem (Event × Parser) := do
  let (t, p) ← p.peek
  if isDirective t.kind || isDocumentStart t.kind || isDocumentEnd t.kind || isStreamEnd t.kind then
    pure (empty t.start, p.pop)
  else node p

/-- The end of a document, with or without `...`. -/
def documentEnd (p : Parser) : Except Problem (Event × Parser) := do
  let (t, p) ← p.peek
  let p := if isDocumentEnd t.kind then p.skip else p
  pure (⟨.documentEnd, t.start⟩, { p with tagHandles := [], state := .documentStart })

/-- A node: an alias, or a scalar or collection with its anchor and tag. -/
def node (p : Parser) (block indentless : Bool) : Except Problem (Event × Parser) := do
  let (t, p) ← p.peek
  match t.kind with
  | .alias name => pure (⟨.alias name, t.start⟩, p.pop.skip)
  | _ =>
    let start := t.start
    -- an anchor and a tag, in either order
    let (anchor, tagPart, t, p) ← match t.kind with
      | .anchor name => do
        let (t2, p) ← p.skip.peek
        match t2.kind with
        | .tag h s => do
          let (t3, p) ← p.skip.peek
          pure (name, some (h, s, t2.start), t3, p)
        | _ => pure (name, none, t2, p)
      | .tag h s => do
        let (t2, p) ← p.skip.peek
        match t2.kind with
        | .anchor name => do
          let (t3, p) ← p.skip.peek
          pure (name, some (h, s, t.start), t3, p)
        | _ => pure ("", some (h, s, t.start), t2, p)
      | _ => pure ("", none, t, p)
    let tag ← match tagPart with
      | none => pure ""
      | some (handle, suffix, tagMark) =>
        if handle.isEmpty then pure suffix
        else
          match p.tagHandles.find? (·.1 == handle) with
          | some (_, pre) =>
            if (pre ++ suffix).isEmpty then throw (parseFaultIn start tagMark "found undefined tag handle")
            else pure (pre ++ suffix)
          | none => throw (parseFaultIn start tagMark "found undefined tag handle")
    match t.kind with
    | .blockEntry =>
      if indentless then
        return (⟨.sequenceStart anchor tag false, start⟩, { p with state := .indentlessSequenceEntry })
    | _ => pure ()
    match t.kind with
    | .scalar text style => pure (⟨.scalar anchor tag text style, start⟩, p.pop.skip)
    | .flowSequenceStart => pure (⟨.sequenceStart anchor tag true, start⟩, { p with state := .flowSequenceFirstEntry })
    | .flowMappingStart => pure (⟨.mappingStart anchor tag true, start⟩, { p with state := .flowMappingFirstKey })
    | .blockSequenceStart =>
      if block then pure (⟨.sequenceStart anchor tag false, start⟩, { p with state := .blockSequenceFirstEntry })
      else if !anchor.isEmpty || !tag.isEmpty then pure (⟨.scalar anchor tag "" .plain, start⟩, p.pop)
      else throw (parseFaultIn start t.start "did not find expected node content")
    | .blockMappingStart =>
      if block then pure (⟨.mappingStart anchor tag false, start⟩, { p with state := .blockMappingFirstKey })
      else if !anchor.isEmpty || !tag.isEmpty then pure (⟨.scalar anchor tag "" .plain, start⟩, p.pop)
      else throw (parseFaultIn start t.start "did not find expected node content")
    | _ =>
      if !anchor.isEmpty || !tag.isEmpty then pure (⟨.scalar anchor tag "" .plain, start⟩, p.pop)
      else throw (parseFaultIn start t.start "did not find expected node content")

/-- An entry of a block sequence, or its end. -/
def blockSequenceEntry (p : Parser) (first : Bool) : Except Problem (Event × Parser) := do
  let p ← if first then do
      let (t, p) ← p.peek
      pure { p.skip with marks := t.start :: p.marks }
    else pure p
  let (t, p) ← p.peek
  match t.kind with
  | .blockEntry =>
    let mark := t.stop
    let (t, p) ← p.skip.peek
    if !isBlockEntry t.kind && !isBlockEnd t.kind then
      node { p with states := .blockSequenceEntry :: p.states } true false
    else pure (empty mark, { p with state := .blockSequenceEntry })
  | .blockEnd => pure (⟨.sequenceEnd, t.start⟩, p.pop.popMark.skip)
  | _ => throw (parseFaultIn p.topMark t.start "did not find expected '-' indicator")

/-- An entry of a sequence at its key's indentation, or its end. -/
def indentlessSequenceEntry (p : Parser) : Except Problem (Event × Parser) := do
  let (t, p) ← p.peek
  match t.kind with
  | .blockEntry =>
    let mark := t.stop
    let (t, p) ← p.skip.peek
    if !isBlockEntry t.kind && !isKey t.kind && !isValue t.kind && !isBlockEnd t.kind then
      node { p with states := .indentlessSequenceEntry :: p.states } true false
    else pure (empty mark, { p with state := .indentlessSequenceEntry })
  | _ => pure (⟨.sequenceEnd, t.start⟩, p.pop)

/-- A key of a block mapping, or its end. -/
def blockMappingKey (p : Parser) (first : Bool) : Except Problem (Event × Parser) := do
  let p ← if first then do
      let (t, p) ← p.peek
      pure { p.skip with marks := t.start :: p.marks }
    else pure p
  let (t, p) ← p.peek
  match t.kind with
  | .key =>
    let mark := t.stop
    let (t, p) ← p.skip.peek
    if !isKey t.kind && !isValue t.kind && !isBlockEnd t.kind then
      node { p with states := .blockMappingValue :: p.states } true true
    else pure (empty mark, { p with state := .blockMappingValue })
  | .blockEnd => pure (⟨.mappingEnd, t.start⟩, p.pop.popMark.skip)
  | _ => throw (parseFaultIn p.topMark t.start "did not find expected key")

def blockMappingValue (p : Parser) : Except Problem (Event × Parser) := do
  let (t, p) ← p.peek
  match t.kind with
  | .value =>
    let mark := t.stop
    let (t, p) ← p.skip.peek
    if !isKey t.kind && !isValue t.kind && !isBlockEnd t.kind then
      node { p with states := .blockMappingKey :: p.states } true true
    else pure (empty mark, { p with state := .blockMappingKey })
  | _ => pure (empty t.start, { p with state := .blockMappingKey })

/-- An entry of a flow sequence, or its end. -/
def flowSequenceEntry (p : Parser) (first : Bool) : Except Problem (Event × Parser) := do
  let p ← if first then do
      let (t, p) ← p.peek
      pure { p.skip with marks := t.start :: p.marks }
    else pure p
  let (t, p) ← p.peek
  let finish (t : Token) (p : Parser) : Except Problem (Event × Parser) :=
    pure (⟨.sequenceEnd, t.start⟩, p.pop.popMark.skip)
  if isFlowSequenceEnd t.kind then finish t p
  else
    let (t, p) ←
      if first then pure (t, p)
      else if isFlowEntry t.kind then p.skip.peek
      else throw (parseFaultIn p.topMark t.start "did not find expected ',' or ']'")
    match t.kind with
    | .key =>
      pure (⟨.mappingStart "" "" true, t.start⟩, { p.skip with state := .flowSequenceEntryMappingKey })
    | .flowSequenceEnd => finish t p
    | _ => node { p with states := .flowSequenceEntry :: p.states } false false

/-- The key of a one-pair mapping inside a flow sequence. -/
def flowSequenceEntryMappingKey (p : Parser) : Except Problem (Event × Parser) := do
  let (t, p) ← p.peek
  if !isValue t.kind && !isFlowEntry t.kind && !isFlowSequenceEnd t.kind then
    node { p with states := .flowSequenceEntryMappingValue :: p.states } false false
  else pure (empty t.stop, { p.skip with state := .flowSequenceEntryMappingValue })

/-- The value of a one-pair mapping inside a flow sequence. -/
def flowSequenceEntryMappingValue (p : Parser) : Except Problem (Event × Parser) := do
  let (t, p) ← p.peek
  if isValue t.kind then
    let (t, p) ← p.skip.peek
    if !isFlowEntry t.kind && !isFlowSequenceEnd t.kind then
      node { p with states := .flowSequenceEntryMappingEnd :: p.states } false false
    else pure (empty t.start, { p with state := .flowSequenceEntryMappingEnd })
  else pure (empty t.start, { p with state := .flowSequenceEntryMappingEnd })

/-- The end of a one-pair mapping inside a flow sequence. -/
def flowSequenceEntryMappingEnd (p : Parser) : Except Problem (Event × Parser) := do
  let (t, p) ← p.peek
  pure (⟨.mappingEnd, t.start⟩, { p with state := .flowSequenceEntry })

/-- A key of a flow mapping, or its end. -/
def flowMappingKey (p : Parser) (first : Bool) : Except Problem (Event × Parser) := do
  let p ← if first then do
      let (t, p) ← p.peek
      pure { p.skip with marks := t.start :: p.marks }
    else pure p
  let (t, p) ← p.peek
  let finish (t : Token) (p : Parser) : Except Problem (Event × Parser) :=
    pure (⟨.mappingEnd, t.start⟩, p.pop.popMark.skip)
  if isFlowMappingEnd t.kind then finish t p
  else
    let (t, p) ←
      if first then pure (t, p)
      else if isFlowEntry t.kind then p.skip.peek
      else throw (parseFaultIn p.topMark t.start "did not find expected ',' or '\x7d'")
    match t.kind with
    | .key =>
      let (t, p) ← p.skip.peek
      if !isValue t.kind && !isFlowEntry t.kind && !isFlowMappingEnd t.kind then
        node { p with states := .flowMappingValue :: p.states } false false
      else pure (empty t.start, { p with state := .flowMappingValue })
    | .flowMappingEnd => finish t p
    | _ => node { p with states := .flowMappingEmptyValue :: p.states } false false

/-- A value of a flow mapping; `empty` for a key written without `:`. -/
def flowMappingValue (p : Parser) (emptyValue : Bool) : Except Problem (Event × Parser) := do
  let (t, p) ← p.peek
  if emptyValue then pure (empty t.start, { p with state := .flowMappingKey })
  else if isValue t.kind then
    let (t, p) ← p.skip.peek
    if !isFlowEntry t.kind && !isFlowMappingEnd t.kind then
      node { p with states := .flowMappingKey :: p.states } false false
    else pure (empty t.start, { p with state := .flowMappingKey })
  else pure (empty t.start, { p with state := .flowMappingKey })

/-- The next event. After the end of the stream it is the end of the stream again. -/
def next (p : Parser) : Except Problem (Event × Parser) :=
  match p.state with
  | .streamStart => p.streamStart
  | .implicitDocumentStart => p.documentStart true
  | .documentStart => p.documentStart false
  | .documentContent => p.documentContent fun p => p.node true false
  | .documentEnd => p.documentEnd
  | .blockNode => p.node true false
  | .blockNodeOrIndentlessSequence => p.node true true
  | .flowNode => p.node false false
  | .blockSequenceFirstEntry => p.blockSequenceEntry true
  | .blockSequenceEntry => p.blockSequenceEntry false
  | .indentlessSequenceEntry => p.indentlessSequenceEntry
  | .blockMappingFirstKey => p.blockMappingKey true
  | .blockMappingKey => p.blockMappingKey false
  | .blockMappingValue => p.blockMappingValue
  | .flowSequenceFirstEntry => p.flowSequenceEntry true
  | .flowSequenceEntry => p.flowSequenceEntry false
  | .flowSequenceEntryMappingKey => p.flowSequenceEntryMappingKey
  | .flowSequenceEntryMappingValue => p.flowSequenceEntryMappingValue
  | .flowSequenceEntryMappingEnd => p.flowSequenceEntryMappingEnd
  | .flowMappingFirstKey => p.flowMappingKey true
  | .flowMappingKey => p.flowMappingKey false
  | .flowMappingValue => p.flowMappingValue false
  | .flowMappingEmptyValue => p.flowMappingValue true
  | .finished => pure (⟨.streamEnd, p.scanner.cursor.mark⟩, p)

end Parser

end StaticWrap.Settings.Yaml
