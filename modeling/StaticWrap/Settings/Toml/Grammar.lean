import StaticWrap.Text.Quote
/-!
**The grammar of TOML documents.**

A TOML document is a sequence of expressions, one per line: a key-value pair, a `[table]`
header or an `[[array table]]` header, each optionally followed by a `#` comment. This module
reads the expressions one at a time, each with the rest of the document after it; values
keep the text of numbers and dates, which `Settings.Toml.Scalar` reads.

* `Cursor.next?`: the next expression of a document, none at its end, or the fault that stops
  the reading. Before every expression but the first, the line must end.
* Keys are bare (`A-Z a-z 0-9 - _`), basic strings or literal strings, joined by dots.
* Strings: basic (`"…"`, escapes `\b \t \n \f \r \e \" \\ \uXXXX \UXXXXXXXX`), literal (`'…'`),
  and their multi-line forms (`"""…"""`, `'''…'''`), where a line break right after the
  opening delimiter is dropped and, in the basic form, a backslash at the end of a line drops
  the blank space and line breaks after it.
* Values: strings, `true`, `false`, numbers (kept as written), dates and times (kept as
  written, with their kind), arrays (over several lines, comments allowed, a trailing comma
  allowed) and inline tables (on one line).

The faults carry the messages of the reader, such as `expected newline but got U+0078 'x'` or
`invalid character at start of key: x`; a byte of a longer UTF-8 sequence shows as the
Latin-1 letter of its value.
-/

namespace StaticWrap.Settings.Toml

/-- The kind of a date or time value. -/
inductive MomentKind where
  | localDate
  | localTime
  | localDateTime
  | dateTime
  deriving DecidableEq, Repr

/-- A value as written. -/
inductive Node where
  | string (s : String)
  | bool (b : Bool)
  | integer (text : String)
  | float (text : String)
  | moment (kind : MomentKind) (text : String)
  | array (items : List Node)
  | inlineTable (entries : List (List String × Node))
  deriving Repr, Inhabited

/-- An expression of a document. -/
inductive Expression where
  | keyValue (key : List String) (value : Node)
  | table (key : List String)
  | arrayTable (key : List String)
  deriving Repr

/-- The character a fault shows for the byte at the front of a text: the character itself when
it is ASCII, else the first byte of its UTF-8 form read as a code point. -/
def frontByte (c : Char) : Char :=
  if c.toNat < 0x80 then c else Char.ofNat ((String.singleton c).toUTF8.toList.headD 0).toNat

/-- Control characters that no string or comment may hold: all below the space but tab, line
feed and carriage return, and `DEL`. -/
def isForbiddenControl (c : Char) : Bool :=
  (c.toNat < 0x20 && c != '\t' && c != '\n' && c != '\r') || c.toNat == 0x7F

/-- The text starts with the pattern. -/
def follows (cs : List Char) (pattern : String) : Bool := pattern.toList.isPrefixOf cs

/-- Skips spaces and tabs. -/
def skipBlanks (cs : List Char) : List Char := cs.dropWhile fun c => c == ' ' || c == '\t'

def isBareKeyChar (c : Char) : Bool :=
  ('A' ≤ c && c ≤ 'Z') || ('a' ≤ c && c ≤ 'z') || ('0' ≤ c && c ≤ '9') || c == '-' || c == '_'

/-- An ASCII digit. -/
def isDigit (c : Char) : Bool := '0' ≤ c && c ≤ '9'

/-- Expects a character at the front. -/
def expect (x : Char) : List Char → Except String (List Char)
  | [] => .error ("expected character " ++ String.singleton x ++ " but the document ended here")
  | c :: rest => if c == x then .ok rest else .error ("expected character " ++ String.singleton x)

/-- A line break at the front: a line feed, or a carriage return and a line feed. -/
def lineBreak : List Char → Except String (List Char)
  | '\n' :: rest => .ok rest
  | '\r' :: rest =>
    match rest with
    | '\n' :: more => .ok more
    | [] => .error "windows new line expected"
    | _ => .error "windows new line should be \\r\\n"
  | c :: _ => .error ("expected newline but got " ++ Text.codePointText (frontByte c))
  | [] => .error "expected newline but got end of document"

/-- A comment from its `#` up to, not including, the line break. -/
def comment (cs : List Char) : Except String (List Char) :=
  let rec go : List Char → Except String (List Char)
    | [] => .ok []
    | '\n' :: rest => .ok ('\n' :: rest)
    | '\r' :: '\n' :: rest => .ok ('\n' :: rest)
    | c :: rest => if c == '\r' || isForbiddenControl c then .error "invalid character in comment" else go rest
  go (cs.drop 1)

/-- The value of a run of hexadecimal digits for a `\u` or `\U` escape of `length` digits, taken
from `cs`. -/
def hexEscape (length : Nat) (cs : List Char) : Except String Char :=
  if cs.length < length then
    .error ("unicode point needs " ++ toString length ++ " character, not " ++ toString cs.length)
  else
    let ds := cs.take length
    match ds.find? fun c => (Text.hexValue? c).isNone with
    | some _ => .error "non-hex character"
    | none =>
      let v := (Text.hexRun? ds).getD 0
      if v > 0x10FFFF || (0xD800 ≤ v && v < 0xE000) then
        .error "escape sequence is invalid Unicode code point"
      else .ok (Char.ofNat v)

/-- The character a one-letter escape stands for. -/
def simpleEscape : Char → Option Char
  | '"' => some '"'
  | '\\' => some '\\'
  | 'b' => some (Char.ofNat 8)
  | 'f' => some (Char.ofNat 12)
  | 'n' => some '\n'
  | 'r' => some '\r'
  | 't' => some '\t'
  | 'e' => some (Char.ofNat 0x1B)
  | _ => none

/-- Decodes the body of a basic string that holds escapes; `hexFrom` gives the characters a
`\u` or `\U` escape at a place may read its digits from. `fuel` bounds the steps. -/
def decodeEscapes (hexFrom : List Char → List Char) : Nat → List Char → Except String (List Char)
  | 0, _ => .ok []
  | _, [] => .ok []
  | fuel + 1, '\\' :: rest =>
    match rest with
    | [] => .ok []
    | c :: more =>
      match simpleEscape c with
      | some d => (d :: ·) <$> decodeEscapes hexFrom fuel more
      | none =>
        if c == 'u' || c == 'U' then do
          let n := if c == 'u' then 4 else 8
          let ch ← hexEscape n (hexFrom more)
          (ch :: ·) <$> decodeEscapes hexFrom fuel (more.drop n)
        else .error ("invalid escaped character " ++ Text.codePointText (frontByte c))
  | fuel + 1, c :: rest =>
    if isForbiddenControl c then .error ("invalid character " ++ Text.codePointText c)
    else (c :: ·) <$> decodeEscapes hexFrom fuel rest

/-- Checks the body of a string without escapes. -/
def checkPlain (body : List Char) : Except String (List Char) :=
  if body.any isForbiddenControl then .error "invalid UTF-8" else .ok body

/-- A basic string from its opening quote: its decoded body. -/
def basicString (cs : List Char) : Except String (String × List Char) := do
  let rec scan : List Char → Bool → List Char → Except String (List Char × Bool × List Char)
    | [], _, _ => .error "basic string not terminated by \""
    | '"' :: rest, esc, acc => .ok (acc.reverse, esc, rest)
    | '\n' :: _, _, _ => .error "basic strings cannot have new lines"
    | '\r' :: _, _, _ => .error "basic strings cannot have new lines"
    | '\\' :: rest, _, acc =>
      match rest with
      | [] => .error "need a character after \\"
      | c :: more => scan more true (c :: '\\' :: acc)
    | c :: rest, esc, acc => scan rest esc (c :: acc)
  let (body, escaped, rest) ← scan (cs.drop 1) false []
  let decoded ← if escaped then decodeEscapes id (body.length + 1) body else checkPlain body
  pure (String.ofList decoded, rest)

/-- A literal string from its opening quote: its body as written. -/
def literalString (cs : List Char) : Except String (String × List Char) :=
  let rec scan : List Char → List Char → Except String (String × List Char)
    | [], _ => .error "unterminated literal string"
    | '\'' :: rest, acc => .ok (String.ofList acc.reverse, rest)
    | '\n' :: _, _ => .error "literal strings cannot have new lines"
    | '\r' :: _, _ => .error "literal strings cannot have new lines"
    | c :: rest, acc => if isForbiddenControl c then .error "invalid character" else scan rest (c :: acc)
  scan (cs.drop 1) []

/-- Takes up to two more closing quotes after a closing delimiter: a run of three quotes
closes the string, and the quotes after them (at most two) still belong to it. -/
def closingRun (q : Char) (rest : List Char) (msg : String) : Except String (List Char × List Char) :=
  match rest with
  | a :: b :: c :: _ =>
    if a == q && b == q && c == q then .error msg
    else if a == q && b == q then .ok ([a, b], rest.drop 2)
    else if a == q then .ok ([a], rest.drop 1)
    else .ok ([], rest)
  | a :: b :: _ =>
    if a == q && b == q then .ok ([a, b], rest.drop 2)
    else if a == q then .ok ([a], rest.drop 1)
    else .ok ([], rest)
  | a :: _ => if a == q then .ok ([a], rest.drop 1) else .ok ([], rest)
  | [] => .ok ([], [])

/-- Drops the line break right after an opening delimiter. -/
def dropFirstBreak : List Char → List Char
  | '\n' :: rest => rest
  | '\r' :: '\n' :: rest => rest
  | cs => cs

/-- A multi-line literal string from its opening delimiter: its body. -/
def multilineLiteral (cs : List Char) : Except String (String × List Char) :=
  let rec scan : Nat → List Char → List Char → Except String (String × List Char)
    | 0, _, _ => .error "multiline literal string not terminated by '''"
    | _, [], _ => .error "multiline literal string not terminated by '''"
    | fuel + 1, c :: rest, acc =>
      if c == '\'' && follows (c :: rest) "'''" then do
        let (extra, after) ← closingRun '\'' (rest.drop 2) "''' not allowed in multiline literal string"
        pure (String.ofList (dropFirstBreak (acc.reverse ++ extra)), after)
      else if c == '\r' then
        match rest with
        | '\n' :: more => scan fuel more ('\n' :: '\r' :: acc)
        | _ => .error "need a \\n after \\r"
      else if isForbiddenControl c then .error "invalid character"
      else scan fuel rest (c :: acc)
  scan (cs.length + 1) (cs.drop 3) []

/-- Drops a backslash at the end of a line together with the blank space and line breaks after
it; none when the backslash is not the last non-blank character of its line. -/
def lineEndingBackslash? (rest : List Char) : Option (List Char) :=
  let rec atEnd : List Char → Bool
    | ' ' :: r | '\t' :: r => atEnd r
    | '\r' :: '\n' :: _ => true
    | '\n' :: _ => true
    | _ => false
  if atEnd rest then some (rest.dropWhile fun c => c == ' ' || c == '\t' || c == '\n' || c == '\r')
  else none

/-- Decodes the body of a multi-line basic string that holds escapes. -/
def decodeMultiline : Nat → List Char → Except String (List Char)
  | 0, _ => .ok []
  | _, [] => .ok []
  | fuel + 1, '\\' :: rest =>
    match lineEndingBackslash? rest with
    | some after => decodeMultiline fuel after
    | none =>
      match rest with
      | [] => .ok []
      | c :: more =>
        match simpleEscape c with
        | some d => (d :: ·) <$> decodeMultiline fuel more
        | none =>
          if c == 'u' || c == 'U' then do
            let n := if c == 'u' then 4 else 8
            let ch ← hexEscape n (more.take n)
            (ch :: ·) <$> decodeMultiline fuel (more.drop n)
          else .error ("invalid escaped character " ++ Text.codePointText (frontByte c))
  | fuel + 1, c :: rest =>
    if isForbiddenControl c then .error ("invalid character " ++ Text.codePointText c)
    else (c :: ·) <$> decodeMultiline fuel rest

/-- A multi-line basic string from its opening delimiter: its decoded body. -/
def multilineBasic (cs : List Char) : Except String (String × List Char) := do
  let rec scan : Nat → List Char → Bool → List Char → Except String (List Char × Bool × List Char)
    | 0, _, _, _ => .error "multiline basic string not terminated by \"\"\""
    | _, [], _, _ => .error "multiline basic string not terminated by \"\"\""
    | fuel + 1, c :: rest, esc, acc =>
      if c == '"' && follows (c :: rest) "\"\"\"" then do
        let (extra, after) ← closingRun '"' (rest.drop 2) "\"\"\" not allowed in multiline basic string"
        pure (acc.reverse ++ extra, esc, after)
      else if c == '\\' then
        match rest with
        | [] => .error "need a character after \\"
        | d :: more => scan fuel more true (d :: c :: acc)
      else if c == '\r' then
        match rest with
        | '\n' :: more => scan fuel more esc ('\n' :: '\r' :: acc)
        | _ => .error "need a \\n after \\r"
      else scan fuel rest esc (c :: acc)
  let (body, escaped, rest) ← scan (cs.length + 1) (cs.drop 3) false []
  -- the digits of a `\u` escape near the end may run into the closing quotes
  let body := dropFirstBreak body
  let decoded ← if escaped then decodeMultilineWithTail body else checkPlain body
  pure (String.ofList decoded, rest)
where
  /-- Decodes with the closing delimiter in reach of a trailing `\u` escape. -/
  decodeMultilineWithTail (body : List Char) : Except String (List Char) :=
    match decodeMultiline (body.length + 1) (body ++ ['"', '"', '"']) with
    | .ok out => .ok (dropTail out)
    | .error e => .error e
  /-- Drops the three closing quotes decoded at the end. -/
  dropTail (out : List Char) : List Char := out.take (out.length - 3)

/-- A simple key: bare, basic or literal. -/
def simpleKey : List Char → Except String (String × List Char)
  | [] => .error "expected key but found none"
  | c :: rest =>
    if c == '\'' then literalString (c :: rest)
    else if c == '"' then basicString (c :: rest)
    else if isBareKeyChar c then
      let k := (c :: rest).takeWhile isBareKeyChar
      .ok (String.ofList k, (c :: rest).drop k.length)
    else .error ("invalid character at start of key: " ++ String.singleton (frontByte c))

/-- A key: simple keys joined by dots, with the blanks after it. -/
def key (cs : List Char) : Except String ((List String) × List Char) := do
  let (first, rest) ← simpleKey cs
  let rec more : Nat → List String → List Char → Except String ((List String) × List Char)
    | 0, acc, cs => .ok (acc.reverse, cs)
    | fuel + 1, acc, cs =>
      match skipBlanks cs with
      | '.' :: r => do
        let (k, after) ← simpleKey (skipBlanks r)
        more fuel (k :: acc) after
      | r => .ok (acc.reverse, r)
  more (rest.length + 1) [first] rest

/-- Scans a date or time: digits and `T t : . + - Z z`, and one space when a digit follows. -/
def dateTime (cs : List Char) : Node × List Char :=
  let rec go : Nat → Nat → Bool → Bool → Bool → Bool → List Char → List Char → Node × List Char
    | 0, _, d, t, z, _, acc, rest => (finish d t z acc, rest)
    | fuel + 1, i, d, t, z, seenSpace, acc, rest =>
      match rest with
      | c :: more =>
        if isDigit c then go fuel (i + 1) d t z seenSpace (c :: acc) more
        else if c == '-' then go fuel (i + 1) true t (z || i ≥ 8) seenSpace (c :: acc) more
        else if c == 'T' || c == 't' || c == ':' || c == '.' then go fuel (i + 1) d true z seenSpace (c :: acc) more
        else if c == '+' || c == 'Z' || c == 'z' then go fuel (i + 1) d t true seenSpace (c :: acc) more
        else if c == ' ' && !seenSpace && (more.head?.map isDigit).getD false then
          -- the space, the digit, and whatever follows the digit are taken unexamined
          match more with
          | n :: x :: after => go fuel (i + 3) d true z true (x :: n :: c :: acc) after
          | [n] => (finish d true z (n :: c :: acc), [])
          | [] => (finish d t z acc, rest)
        else (finish d t z acc, rest)
      | [] => (finish d t z acc, [])
  go (cs.length + 1) 0 false false false false [] cs
where
  /-- The kind of a scanned date or time. -/
  finish (hasDate hasTime hasZone : Bool) (acc : List Char) : Node :=
    let kind :=
      if hasTime then
        if hasDate then (if hasZone then MomentKind.dateTime else .localDateTime) else .localTime
      else .localDate
    .moment kind (String.ofList acc.reverse)

/-- Scans a number: an integer with a base prefix, or the characters of a decimal integer or
float. -/
def number (cs : List Char) : Except String (Node × List Char) :=
  match cs with
  | '0' :: b :: r :: more =>
    if b != '.' && b != 'e' && b != 'E' then
      let digitsOf (p : Char → Bool) : Except String (Node × List Char) :=
        let ds := (r :: more).takeWhile p
        .ok (.integer (String.ofList ('0' :: b :: ds)), (r :: more).drop ds.length)
      if b == 'x' then digitsOf fun c => (Text.hexValue? c).isSome || c == '_'
      else if b == 'o' then digitsOf fun c => ('0' ≤ c && c ≤ '7') || c == '_'
      else if b == 'b' then digitsOf fun c => c == '0' || c == '1' || c == '_'
      else .ok (.integer "0", b :: r :: more)
    else decimal cs
  | _ => decimal cs
where
  /-- A decimal integer or float. -/
  decimal (cs : List Char) : Except String (Node × List Char) :=
    let body := cs.takeWhile fun c => isDigit c || c == '+' || c == '-' || c == '_' || c == '.' || c == 'e' || c == 'E'
    let isFloat := body.any fun c => c == '.' || c == 'e' || c == 'E'
    let rest := cs.drop body.length
    match rest with
    | 'i' :: _ =>
      if follows rest "inf" then .ok (.float (String.ofList (body ++ "inf".toList)), rest.drop 3)
      else .error "unexpected character 'i' while scanning for a number"
    | 'n' :: _ =>
      if follows rest "nan" then .ok (.float (String.ofList (body ++ "nan".toList)), rest.drop 3)
      else .error "unexpected character 'n' while scanning for a number"
    | _ =>
      if body.isEmpty then .error "incomplete number"
      else .ok (if isFloat then .float (String.ofList body) else .integer (String.ofList body), rest)

/-- A number, a date or a time. -/
def numberOrMoment (cs : List Char) : Except String (Node × List Char) :=
  match cs with
  | 'i' :: _ => if follows cs "inf" then .ok (.float "inf", cs.drop 3) else .error "expected 'inf'"
  | 'n' :: _ => if follows cs "nan" then .ok (.float "nan", cs.drop 3) else .error "expected 'nan'"
  | '+' :: _ | '-' :: _ => number cs
  | _ =>
    if cs.length < 3 then number cs
    else
      let rec looksLikeMoment : Nat → List Char → Bool
        | i, c :: rest =>
          if i ≥ 5 then false
          else if isDigit c then looksLikeMoment (i + 1) rest
          else (i == 2 && c == ':') || (i == 4 && c == '-')
        | _, [] => false
      if looksLikeMoment 0 cs then .ok (dateTime cs) else number cs

mutual

def value : Nat → List Char → Except String (Node × List Char)
  | 0, _ => .error "expected value, not eof"
  | _, [] => .error "expected value, not eof"
  | fuel + 1, c :: rest =>
    let cs := c :: rest
    if c == '"' then
      if follows cs "\"\"\"" then (multilineBasic cs).map fun (s, r) => (.string s, r)
      else (basicString cs).map fun (s, r) => (.string s, r)
    else if c == '\'' then
      if follows cs "'''" then (multilineLiteral cs).map fun (s, r) => (.string s, r)
      else (literalString cs).map fun (s, r) => (.string s, r)
    else if c == 't' then
      if follows cs "true" then .ok (.bool true, cs.drop 4) else .error "expected 'true'"
    else if c == 'f' then
      if follows cs "false" then .ok (.bool false, cs.drop 5) else .error "expected 'false'"
    else if c == '[' then array fuel rest [] true
    else if c == '{' then inlineTable fuel rest [] true
    else numberOrMoment cs

/-- The elements of an array after its opening bracket. -/
def array : Nat → List Char → List Node → Bool → Except String (Node × List Char)
  | 0, _, _, _ => .error "array is incomplete"
  | _, [], _, _ => .error "expected character ] but the document ended here"
  | fuel + 1, cs, acc, first => do
    let cs ← gaps (cs.length + 1) cs
    match cs with
    | [] => .error "array is incomplete"
    | ']' :: rest => .ok (.array acc.reverse, rest)
    | c :: rest =>
      let afterComma : Except String (List Char) :=
        if c == ',' then
          if first then .error "array cannot start with comma" else gaps (rest.length + 1) rest
        else if !first then .error "array elements must be separated by commas"
        else .ok (c :: rest)
      let cs ← afterComma
      match cs with
      | ']' :: rest => .ok (.array acc.reverse, rest)
      | _ => do
        let (v, rest) ← value fuel cs
        let rest ← gaps (rest.length + 1) rest
        array fuel rest (v :: acc) false

/-- The key-value pairs of an inline table after its opening brace. -/
def inlineTable : Nat → List Char → List (List String × Node) → Bool → Except String (Node × List Char)
  | 0, _, _, _ => .error "inline table is incomplete"
  | _, [], _, _ => .error "expected character \x7d but the document ended here"
  | fuel + 1, cs, acc, first =>
    match skipBlanks cs with
    | [] => .error "inline table is incomplete"
    | '}' :: rest => .ok (.inlineTable acc.reverse, rest)
    | c :: rest => do
      let cs ← if first then pure (c :: rest) else skipBlanks <$> expect ',' (c :: rest)
      let (kv, rest) ← keyValue fuel cs
      inlineTable fuel rest (kv :: acc) false

/-- A key-value pair. -/
def keyValue : Nat → List Char → Except String ((List String × Node) × List Char)
  | 0, _ => .error "expected key but found none"
  | fuel + 1, cs => do
    let (k, rest) ← key cs
    let rest := skipBlanks rest
    if rest.isEmpty then throw "expected = after a key, but the document ends there"
    let rest ← expect '=' rest
    let (v, rest) ← value fuel (skipBlanks rest)
    pure ((k, v), rest)

/-- Blank space, comments and line breaks between the elements of an array. -/
def gaps : Nat → List Char → Except String (List Char)
  | 0, cs => .ok cs
  | fuel + 1, cs =>
    let cs := skipBlanks cs
    let afterComment : Except String (List Char) :=
      if cs.head? == some '#' then comment cs else .ok cs
    match afterComment with
    | .error e => .error e
    | .ok [] => .ok []
    | .ok (c :: rest) =>
      if c == '\n' || c == '\r' then
        match lineBreak (c :: rest) with
        | .ok r => gaps fuel r
        | .error e => .error e
      else .ok (c :: rest)

end

/-- A table header after its opening bracket or brackets. -/
def header (cs : List Char) (double : Bool) : Except String (Expression × List Char) := do
  let (k, rest) ← key (skipBlanks cs)
  let rest ← expect ']' (skipBlanks rest)
  if double then
    let rest ← expect ']' rest
    pure (.arrayTable k, rest)
  else pure (.table k, rest)

/-- An expression of a line, if the line holds one, and the rest from its line break on. -/
def expression (cs : List Char) : Except String ((Option Expression) × List Char) := do
  let cs := skipBlanks cs
  match cs with
  | [] => pure (none, [])
  | '#' :: _ => do
    let rest ← comment cs
    pure (none, rest)
  | c :: rest =>
    if c == '\n' || c == '\r' then pure (none, cs)
    else do
      let (e, rest) ← if c == '[' then
          (match rest with
           | '[' :: more => header more true
           | _ => header rest false)
        else (keyValue (cs.length + 1) cs).map fun ((k, v), r) => (Expression.keyValue k v, r)
      let rest := skipBlanks rest
      if rest.head? == some '#' then
        let after ← comment rest
        pure (some e, after)
      else pure (some e, rest)

/-- The position of the reader in a document: the text left, and whether an expression was
read yet. -/
structure Cursor where
  rest : List Char
  started : Bool := false

/-- The next expression and the cursor after it, none at the end of the document; `fuel`
bounds the lines skipped. -/
def Cursor.next? : Nat → Cursor → Except String (Option (Expression × Cursor))
  | 0, _ => .ok none
  | fuel + 1, c =>
    if c.rest.isEmpty then .ok none
    else do
      let rest ← if c.started then lineBreak c.rest else pure c.rest
      if rest.isEmpty then return none
      let (e, after) ← expression rest
      match e with
      | some e => pure (some (e, ⟨after, true⟩))
      | none => Cursor.next? fuel ⟨after, true⟩

end StaticWrap.Settings.Toml
