import StaticWrap.GoSource.Token
import StaticWrap.GoSource.Lines
import StaticWrap.Text.Quote
import StaticWrap.Text.Utf8
/-!
**Scanning Go source into tokens.**

The scanner reads the source once, left to right, with one character of lookahead (`ch`).
Positions are byte offsets plus one (0 means no position), so line and column follow from the
source text. A semicolon is inserted at a line break (and at the end of the file) after an
identifier, a literal, one of `break continue fallthrough return`, `++ -- ) ] }`. A comment
is a token of its own; a `/*...*/` comment that holds a line break where a semicolon is due
is followed by that semicolon, placed at the line break.

Faults (illegal characters, unterminated literals and comments, malformed numbers and
escapes) are recorded with their position on the token being read when they are found; the
scanner always goes on.

A comment `//line file:line[:column]` that starts a line, or a comment `/*line ...*/`
anywhere, is a line directive (`readLineDirective`); it takes effect right after the comment
(after its line break for a `//` comment), unless that is the end of the file. A directive
whose line or column is not a number from 1 to 2^30 is a fault. An empty file name with a
column keeps the file of the directive in force.

* `scanTokens`: all tokens of a source, ending with the end-of-file token, and its line
  directives.
* Every loop reads at least one character per step, so each runs on fuel equal to the
  characters left.
* The scanner walks a list of the characters paired with their byte offsets, and a token's text
  is read from the scanner at its first character: a step, and the text of a token, cost only
  the characters they read, also when the kernel evaluates a scan.
-/

namespace StaticWrap.GoSource

/-- Source text: its characters, each with its byte offset, how many there are, and the byte
length of the whole. -/
structure Source where
  chars : List (Char × Nat)
  count : Nat
  size : Nat
  deriving Inhabited

/-- The source of a text: its UTF-8 bytes read back as characters, each at its offset. -/
def Source.ofString (s : String) : Source :=
  let runes := Text.Bytes.runes s.toByteArray.data.toList
  ⟨runes.map fun (off, r, _) => (Char.ofNat r, off), runes.length, s.utf8ByteSize⟩

/-- A scanned token: its class, position, literal text and the faults found reading it. -/
structure Token where
  tok : Tok
  pos : Nat
  lit : String
  faults : List (Nat × String) := []
  deriving Repr, Inhabited

/-- The scanner's state. -/
structure Scanner where
  src : Source
  /-- The characters after the current one, each with its byte offset. -/
  rest : List (Char × Nat)
  /-- The current character, none at the end. -/
  ch : Option Char
  /-- Byte offset of the current character. -/
  offset : Nat
  lineOffset : Nat
  insertSemi : Bool
  /-- Position of an artificial semicolon due after a comment, or 0. -/
  nlPos : Nat
  /-- Faults found for the current token, last first. -/
  faults : List (Nat × String)
  /-- The line directives read so far. -/
  directives : Array LineDirective

/-- The greatest line or column a line directive may give. -/
def maxLineCol : Nat := Nat.pow 2 30

/-- The text after the last colon (its index, counted in characters, just after the colon; 0
when there is no colon) and its value when it is a decimal number below 2^64. -/
def trailingDigits (text : List Char) : Nat × Nat × Bool :=
  match (text.zipIdx.filter (·.1 == ':')).getLast? with
  | none => (0, 0, false)
  | some (_, k) =>
    let digits := text.drop (k + 1)
    let n := digits.foldl (fun n c => n * 10 + (c.toNat - '0'.toNat)) 0
    (k + 1, n, !digits.isEmpty && digits.all Char.isDigit && n < Nat.pow 2 64)

/-- The byte length of some characters. -/
def byteLength (cs : List Char) : Nat := (String.ofList cs).utf8ByteSize

/-- What a line directive names as its file. -/
inductive DirectiveTarget where
  /-- Keep the file of the directive in force. -/
  | keep
  /-- The named file (possibly empty). -/
  | named (name : String)

/-- Reads the text of a line directive after `line `: none when it has no colon (it is no
directive then); else the file, line and column, or a fault at a byte offset into the text. -/
def readLineDirective (text : List Char) :
    Option (Except (Nat × String) (DirectiveTarget × Nat × Nat)) :=
  let (i, n, ok) := trailingDigits text
  if i == 0 then none
  else some <|
    let badLine (cs : List Char) (k : Nat) : Except (Nat × String) (DirectiveTarget × Nat × Nat) :=
      .error (byteLength (cs.take k), "invalid line number: " ++ String.ofList (cs.drop k))
    if !ok then badLine text i
    else
      let (i2, n2, ok2) := trailingDigits (text.take (i - 1))
      if ok2 then
        if n == 0 || n > maxLineCol then
          .error (byteLength (text.take i), "invalid column number: " ++ String.ofList (text.drop i))
        else
          let text := text.take (i - 1)
          if n2 == 0 || n2 > maxLineCol then badLine text i2
          else
            let name := String.ofList (text.take (i2 - 1))
            .ok (if name.isEmpty then .keep else .named name, n2, n)
      else if n == 0 || n > maxLineCol then badLine text i
      else .ok (.named (String.ofList (text.take (i - 1))), n, 0)

namespace Scanner

/-- Records a fault at a byte offset. -/
def fault (s : Scanner) (off : Nat) (msg : String) : Scanner :=
  { s with faults := (off + 1, msg) :: s.faults }

/-- Moves to the next character. -/
def next (s : Scanner) : Scanner :=
  match s.rest with
  | (c, off) :: rest =>
    let lineOffset := if s.ch == some '\n' then off else s.lineOffset
    let s := { s with rest, ch := some c, offset := off, lineOffset := lineOffset }
    if c.toNat == 0 then s.fault off "illegal character NUL"
    else if c.toNat == 0xFEFF && off > 0 then s.fault off "illegal byte order mark"
    else s
  | [] =>
    let off := s.src.size
    { s with ch := none, offset := off,
             lineOffset := if s.ch == some '\n' then off else s.lineOffset }

/-- The character after the current one. -/
def peek (s : Scanner) : Option Char := s.rest.head?.map (·.1)

/-- A scanner at the start of a source (a leading byte order mark is skipped). -/
def start (src : Source) : Scanner :=
  let s := next ⟨src, src.chars, some ' ', 0, 0, false, 0, [], #[]⟩
  if s.ch == some (Char.ofNat 0xFEFF) then s.next else s

/-- The current character and those after it, each with its byte offset. -/
def ahead (s : Scanner) : List (Char × Nat) :=
  match s.ch with
  | some c => (c, s.offset) :: s.rest
  | none => []

/-- The characters between two byte offsets, read by a scanner at or before the first. -/
def charsBetween (s : Scanner) (a b : Nat) : List Char :=
  ((s.ahead.dropWhile (·.2 < a)).takeWhile (·.2 < b)).map (·.1)

/-- The text between two byte offsets, read by a scanner at or before the first. -/
def textBetween (s : Scanner) (a b : Nat) : String := String.ofList (s.charsBetween a b)

end Scanner

/-- An ASCII letter after lower-casing. -/
def lowerAscii (c : Char) : Char := Char.ofNat (c.toNat ||| 0x20)

/-- A character that can start an identifier. -/
def isLetterCh (c : Char) : Bool :=
  ('a' ≤ lowerAscii c && lowerAscii c ≤ 'z') || c == '_' || (c.toNat ≥ 0x80 && Text.isLetter c)

/-- A decimal digit. -/
def isDecimal (c : Char) : Bool := '0' ≤ c && c ≤ '9'

/-- A character that can continue an identifier. -/
def isDigitCh (c : Char) : Bool := isDecimal c || (c.toNat ≥ 0x80 && Text.isDigit c)

/-- A hexadecimal digit. -/
def isHex (c : Char) : Bool := isDecimal c || ('a' ≤ lowerAscii c && lowerAscii c ≤ 'f')

/-- The value of a digit character, 16 for others. -/
def digitVal (c : Option Char) : Nat :=
  match c with
  | some c =>
    if isDecimal c then c.toNat - 48
    else if 'a' ≤ lowerAscii c && lowerAscii c ≤ 'f' then (lowerAscii c).toNat - 87
    else 16
  | none => 16

namespace Scanner

/-- Skips an identifier's characters. -/
def skipIdent : Nat → Scanner → Scanner
  | 0, s => s
  | fuel + 1, s =>
    match s.ch with
    | some c => if isLetterCh c || isDigitCh c then skipIdent fuel s.next else s
    | none => s

/-- Skips white space; a line break stops the skip when a semicolon is due. -/
def skipWhitespace : Nat → Scanner → Scanner
  | 0, s => s
  | fuel + 1, s =>
    match s.ch with
    | some ' ' | some '\t' | some '\r' => skipWhitespace fuel s.next
    | some '\n' => if s.insertSemi then s else skipWhitespace fuel s.next
    | _ => s

/-- Skips digits of a base (and `_`): whether a digit and a separator were seen, and the
offset of the first digit invalid for the base. -/
def digits (base : Nat) : Nat → Scanner → Bool × Bool × Option Nat → Scanner × (Bool × Bool × Option Nat)
  | 0, s, acc => (s, acc)
  | fuel + 1, s, (d, sep, invalid) =>
    match s.ch with
    | some c =>
      if base ≤ 10 then
        if isDecimal c || c == '_' then
          let invalid := if c != '_' && c.toNat ≥ 48 + base && invalid.isNone then some s.offset else invalid
          digits base fuel s.next (d || c != '_', sep || c == '_', invalid)
        else (s, (d, sep, invalid))
      else if isHex c || c == '_' then digits base fuel s.next (d || c != '_', sep || c == '_', invalid)
      else (s, (d, sep, invalid))
    | none => (s, (d, sep, invalid))

/-- The name of a number literal by its prefix. -/
def litName : Char → String
  | 'x' => "hexadecimal literal"
  | 'o' | '0' => "octal literal"
  | 'b' => "binary literal"
  | _ => "decimal literal"

/-- The index of the first misplaced `_` in a number literal. -/
def invalidSep (x : List Char) : Option Nat :=
  let (x1, d0, start) :=
    match x with
    | '0' :: c :: _ =>
      let l := lowerAscii c
      if l == 'x' || l == 'o' || l == 'b' then (l, '0', 2) else (' ', '.', 0)
    | _ => (' ', '.', 0)
  let rec go : List Char → Nat → Char → Option Nat
    | [], i, d => if d == '_' then some (i - 1) else none
    | c :: rest, i, p =>
      if c == '_' then (if p != '0' then some i else go rest (i + 1) '_')
      else if isDecimal c || (x1 == 'x' && isHex c) then go rest (i + 1) '0'
      else if p == '_' then some (i - 1)
      else go rest (i + 1) '.'
  go (x.drop start) start d0

/-- Scans a number literal. -/
def scanNumber (s : Scanner) : Scanner × Tok × String :=
  let first := s
  let offs := s.offset
  let fuel := s.src.count + 1
  let (s, tok, base, pre, d, sep, invalid) :=
    if s.ch != some '.' then
      let (s, base, pre, lead) :=
        if s.ch == some '0' then
          let s := s.next
          match s.ch.map lowerAscii with
          | some 'x' => (s.next, 16, 'x', false)
          | some 'o' => (s.next, 8, 'o', false)
          | some 'b' => (s.next, 2, 'b', false)
          | _ => (s, 8, '0', true)
        else (s, 10, ' ', false)
      let (s, (d, sep, invalid)) := digits base fuel s (lead, false, none)
      (s, Tok.int, base, pre, d, sep, invalid)
    else (s, Tok.illegal, 10, ' ', false, false, none)
  -- fractional part
  let (s, tok, d, sep, invalid) :=
    if s.ch == some '.' then
      let s := if pre == 'o' || pre == 'b' then s.fault s.offset ("invalid radix point in " ++ litName pre) else s
      let (s, (d, sep, invalid)) := digits base fuel s.next (d, sep, invalid)
      (s, Tok.float, d, sep, invalid)
    else (s, tok, d, sep, invalid)
  let s := if !d then s.fault s.offset (litName pre ++ " has no digits") else s
  -- exponent
  let (s, tok, sep) :=
    match s.ch with
    | some e =>
      let le := lowerAscii e
      if le == 'e' || le == 'p' then
        let s :=
          if le == 'e' && pre != ' ' && pre != '0' then
            s.fault s.offset (Text.quoteChar e ++ " exponent requires decimal mantissa")
          else if le == 'p' && pre != 'x' then
            s.fault s.offset (Text.quoteChar e ++ " exponent requires hexadecimal mantissa")
          else s
        let s := s.next
        let s := if s.ch == some '+' || s.ch == some '-' then s.next else s
        let (s, (ed, esep, _)) := digits 10 fuel s (false, false, none)
        let s := if !ed then s.fault s.offset "exponent has no digits" else s
        (s, Tok.float, sep || esep)
      else if pre == 'x' && tok == Tok.float then
        (s.fault s.offset "hexadecimal mantissa requires a 'p' exponent", tok, sep)
      else (s, tok, sep)
    | none =>
      if pre == 'x' && tok == Tok.float then
        (s.fault s.offset "hexadecimal mantissa requires a 'p' exponent", tok, sep)
      else (s, tok, sep)
  let (s, tok) := if s.ch == some 'i' then (s.next, Tok.imag) else (s, tok)
  let lit := first.textBetween offs s.offset
  let s :=
    match tok, invalid with
    | .int, some i =>
      let c := (first.charsBetween i (i + 4)).headD ' '
      s.fault i ("invalid digit " ++ Text.quoteChar c ++ " in " ++ litName pre)
    | _, _ => s
  let s :=
    if sep then
      match invalidSep lit.toList with
      | some i => s.fault (offs + i) "'_' must separate successive digits"
      | none => s
    else s
  (s, tok, lit)

/-- Reads the digits of a numeric escape; false when one is missing or wrong. -/
def escapeDigits (base : Nat) : Nat → Scanner → Nat → Scanner × Option Nat
  | 0, s, x => (s, some x)
  | n + 1, s, x =>
    let d := digitVal s.ch
    if d ≥ base then
      let msg := match s.ch with
        | some c => "illegal character " ++ Text.codePointText c ++ " in escape sequence"
        | none => "escape sequence not terminated"
      (s.fault s.offset msg, none)
    else escapeDigits base n s.next (x * base + d)

/-- Scans an escape after its backslash; false when it is malformed. -/
def scanEscape (quote : Char) (s : Scanner) : Scanner × Bool :=
  let offs := s.offset
  let simple := fun (c : Char) => c == 'a' || c == 'b' || c == 'f' || c == 'n' || c == 'r' ||
    c == 't' || c == 'v' || c == '\\' || c == quote
  match s.ch with
  | some c =>
    if simple c then (s.next, true)
    else
      let spec : Option (Scanner × Nat × Nat × Nat) :=
        if '0' ≤ c && c ≤ '7' then some (s, 3, 8, 255)
        else if c == 'x' then some (s.next, 2, 16, 255)
        else if c == 'u' then some (s.next, 4, 16, 0x10FFFF)
        else if c == 'U' then some (s.next, 8, 16, 0x10FFFF)
        else none
      match spec with
      | none => (s.fault offs "unknown escape sequence", false)
      | some (s, n, base, max) =>
        match escapeDigits base n s 0 with
        | (s, none) => (s, false)
        | (s, some x) =>
          if x > max || (0xD800 ≤ x && x < 0xE000) then
            (s.fault offs "escape sequence is invalid Unicode code point", false)
          else (s, true)
  | none => (s.fault offs "escape sequence not terminated", false)

/-- Scans a string literal after its opening quote. -/
def scanStringBody : Nat → Nat → Scanner → Scanner
  | 0, _, s => s
  | fuel + 1, offs, s =>
    match s.ch with
    | none | some '\n' => s.fault offs "string literal not terminated"
    | some c =>
      let s := s.next
      if c == '"' then s
      else if c == '\\' then scanStringBody fuel offs (scanEscape '"' s).1
      else scanStringBody fuel offs s

/-- Scans a rune literal after its opening quote: the count of characters and validity. -/
def scanRuneBody : Nat → Nat → Scanner → Nat → Bool → Scanner × Nat × Bool
  | 0, _, s, n, valid => (s, n, valid)
  | fuel + 1, offs, s, n, valid =>
    match s.ch with
    | none | some '\n' =>
      if valid then (s.fault offs "rune literal not terminated", n, false) else (s, n, valid)
    | some c =>
      let s := s.next
      if c == '\'' then (s, n, valid)
      else if c == '\\' then
        let (s, ok) := scanEscape '\'' s
        scanRuneBody fuel offs s (n + 1) (valid && ok)
      else scanRuneBody fuel offs s (n + 1) valid

/-- Scans a raw string after its opening quote. -/
def scanRawBody : Nat → Nat → Scanner → Scanner
  | 0, _, s => s
  | fuel + 1, offs, s =>
    match s.ch with
    | none => s.fault offs "raw string literal not terminated"
    | some c =>
      let s := s.next
      if c == Text.backQuote then s else scanRawBody fuel offs s

/-- Skips a line comment's text up to the line break. -/
def skipLine : Nat → Scanner → Scanner
  | 0, s => s
  | fuel + 1, s =>
    match s.ch with
    | none | some '\n' => s
    | some _ => skipLine fuel s.next

/-- Skips a block comment's text: the scanner, whether it ended, and the offset of its first
line break (0 for none). -/
def skipBlock : Nat → Scanner → Nat → Scanner × Bool × Nat
  | 0, s, nl => (s, false, nl)
  | fuel + 1, s, nl =>
    match s.ch with
    | none => (s, false, nl)
    | some c =>
      let nl := if c == '\n' && nl == 0 then s.offset else nl
      let s := s.next
      if c == '*' && s.ch == some '/' then (s.next, true, nl)
      else skipBlock fuel s nl

/-- Drops carriage returns from a comment or raw string (keeping the one before the end of a
block comment's closing). -/
def stripCR (l : List Char) : List Char := l.filter (· != '\r')

/-- Records the line directive a comment holds, if any: `offs` is where the comment starts,
`next` where the directive takes effect, `lit` the comment's text. -/
def lineDirective (s : Scanner) (offs next : Nat) (lit : List Char) : Scanner :=
  let block := (lit.drop 1).head? == some '*'
  let body := if block then lit.take (lit.length - 2) else lit
  if !(block || offs == s.lineOffset) || !((body.drop 2).take 5 == "line ".toList) then s
  else
    match readLineDirective (body.drop 7) with
    | none => s
    | some (.error (i, msg)) => s.fault (offs + 7 + i) msg
    | some (.ok (target, line, col)) =>
      let file : Option String := match target with
        | .keep => (s.directives.toList.filter (·.offset ≤ offs)).getLast?.bind (·.file)
        | .named "" => some ""
        | .named f => some (Text.cleanPath f)
      let later := match s.directives.back? with
        | some d => d.offset < next
        | none => true
      if later && next < s.src.size then
        { s with directives := s.directives.push ⟨next, file, line, col⟩ }
      else s

/-- Scans a comment after its first slash, which `slash` is at: its text and the offset of its
first line break. -/
def scanComment (slash s : Scanner) : Scanner × String × Nat :=
  let offs := s.offset - 1
  let fuel := s.src.count + 1
  if s.ch == some '/' then
    let s := skipLine fuel s.next
    let lit := slash.charsBetween offs s.offset
    let lit := if lit.getLast? == some '\r' then lit.dropLast else lit
    let next := if s.ch == some '\n' then s.offset + 1 else s.offset
    let s := s.lineDirective offs next lit
    (s, String.ofList (stripCR lit), 0)
  else
    let (s, closed, nl) := skipBlock fuel s.next 0
    let s := if closed then s else s.fault offs "comment not terminated"
    let lit := slash.charsBetween offs s.offset
    let s := if closed then s.lineDirective offs s.offset lit else s
    (s, String.ofList (stripCR lit), nl)

/-- `=` after an operator makes it the second token. -/
def switch2 (s : Scanner) (t0 t1 : Tok) : Scanner × Tok :=
  if s.ch == some '=' then (s.next, t1) else (s, t0)

/-- `=` gives the second token, a repeated character the third. -/
def switch3 (s : Scanner) (t0 t1 : Tok) (c2 : Char) (t2 : Tok) : Scanner × Tok :=
  if s.ch == some '=' then (s.next, t1)
  else if s.ch == some c2 then (s.next, t2)
  else (s, t0)

/-- Like `switch3`, with a fourth token for the repeated character and `=`. -/
def switch4 (s : Scanner) (t0 t1 : Tok) (c2 : Char) (t2 t3 : Tok) : Scanner × Tok :=
  if s.ch == some '=' then (s.next, t1)
  else if s.ch == some c2 then
    let s := s.next
    if s.ch == some '=' then (s.next, t3) else (s, t2)
  else (s, t0)

/-- The tokens that make a semicolon due at the next line break. -/
def setsSemi : Tok → Bool
  | .ident | .int | .float | .imag | .char | .string | .kwBreak | .kwContinue | .kwFallthrough
  | .kwReturn | .inc | .dec | .rparen | .rbrack | .rbrace => true
  | _ => false

def scan (s : Scanner) : Scanner × Token :=
  let s := { s with faults := [] }
  if s.nlPos != 0 then
    let p := s.nlPos
    ({ s with nlPos := 0 }, ⟨.semicolon, p, "\n", []⟩)
  else
    let s := skipWhitespace (s.src.count + 1) s
    let pos := s.offset + 1
    let finish := fun (s : Scanner) (tok : Tok) (lit : String) (semi : Bool) =>
      ({ s with insertSemi := semi }, (⟨tok, pos, lit, s.faults.reverse⟩ : Token))
    match s.ch with
    | none =>
      if s.insertSemi then ({ s with insertSemi := false }, ⟨.semicolon, pos, "\n", s.faults.reverse⟩)
      else finish s .eof "" false
    | some c =>
      if isLetterCh c then
        let first := s
        let s := skipIdent (s.src.count + 1) s
        let cs := first.charsBetween first.offset s.offset
        let lit := String.ofList cs
        let tok := if cs.length > 1 then (keywordOf? lit).getD .ident else .ident
        finish s tok lit (setsSemi tok)
      else if isDecimal c || (c == '.' && (s.peek.map isDecimal).getD false) then
        let (s, tok, lit) := scanNumber s
        finish s tok lit true
      else
        -- literals and comments take their text from their opening character on
        let opening := s
        let s := s.next
        match c with
        | '\n' => ({ s with insertSemi := false }, ⟨.semicolon, pos, "\n", s.faults.reverse⟩)
        | '"' =>
          let s := scanStringBody (s.src.count + 1) (pos - 1) s
          finish s .string (opening.textBetween (pos - 1) s.offset) true
        | '\'' =>
          let (s, n, valid) := scanRuneBody (s.src.count + 1) (pos - 1) s 0 true
          let s := if valid && n != 1 then s.fault (pos - 1) "illegal rune literal" else s
          finish s .char (opening.textBetween (pos - 1) s.offset) true
        | ':' => let (s, t) := s.switch2 .colon .define; finish s t "" false
        | '.' =>
          if s.ch == some '.' && s.peek == some '.' then finish s.next.next .ellipsis "" false
          else finish s .period "" false
        | ',' => finish s .comma "" false
        | ';' => finish s .semicolon ";" false
        | '(' => finish s .lparen "" false
        | ')' => finish s .rparen "" true
        | '[' => finish s .lbrack "" false
        | ']' => finish s .rbrack "" true
        | '{' => finish s .lbrace "" false
        | '}' => finish s .rbrace "" true
        | '+' => let (s, t) := s.switch3 .add .addAssign '+' .inc; finish s t "" (t == .inc)
        | '-' => let (s, t) := s.switch3 .sub .subAssign '-' .dec; finish s t "" (t == .dec)
        | '*' => let (s, t) := s.switch2 .mul .mulAssign; finish s t "" false
        | '/' =>
          if s.ch == some '/' || s.ch == some '*' then
            let (s, lit, nl) := scanComment opening s
            if s.insertSemi && nl != 0 then
              ({ s with nlPos := nl + 1, insertSemi := false }, ⟨.comment, pos, lit, s.faults.reverse⟩)
            else finish s .comment lit s.insertSemi
          else let (s, t) := s.switch2 .quo .quoAssign; finish s t "" false
        | '%' => let (s, t) := s.switch2 .rem .remAssign; finish s t "" false
        | '^' => let (s, t) := s.switch2 .xor .xorAssign; finish s t "" false
        | '<' =>
          if s.ch == some '-' then finish s.next .arrow "" false
          else let (s, t) := s.switch4 .lss .leq '<' .shl .shlAssign; finish s t "" false
        | '>' => let (s, t) := s.switch4 .gtr .geq '>' .shr .shrAssign; finish s t "" false
        | '=' => let (s, t) := s.switch2 .assign .eql; finish s t "" false
        | '!' => let (s, t) := s.switch2 .not .neq; finish s t "" false
        | '&' =>
          if s.ch == some '^' then let (s, t) := s.next.switch2 .andNot .andNotAssign; finish s t "" false
          else let (s, t) := s.switch3 .and .andAssign '&' .land; finish s t "" false
        | '|' => let (s, t) := s.switch3 .or .orAssign '|' .lor; finish s t "" false
        | '~' => finish s .tilde "" false
        | _ =>
          if c == Text.backQuote then
            let s := scanRawBody (s.src.count + 1) (pos - 1) s
            finish s .string (String.ofList (stripCR (opening.charsBetween (pos - 1) s.offset))) true
          else
            let s :=
              if c.toNat == 0xFEFF then s
              else if c.toNat == 0x201C || c.toNat == 0x201D then
                s.fault (pos - 1) ("curly quotation mark " ++ Text.quoteChar c ++ " (use neutral '\"')")
              else s.fault (pos - 1) ("illegal character " ++ Text.codePointText c)
            finish s .illegal (String.ofList [c]) s.insertSemi

end Scanner

/-- All tokens of a source, ending with the end-of-file token, and its line directives. -/
def scanTokens (src : Source) : Array Token × Array LineDirective :=
  let rec go : Nat → Scanner → Array Token → Array Token × Array LineDirective
    | 0, s, acc => (acc.push ⟨.eof, src.size + 1, "", []⟩, s.directives)
    | fuel + 1, s, acc =>
      let (s, t) := s.scan
      if t.tok == .eof then (acc.push t, s.directives) else go fuel s (acc.push t)
  go (2 * src.count + 4) (Scanner.start src) #[]

end StaticWrap.GoSource
