import StaticWrap.GoSource.Parser
/-!
**Syntax errors as the compiler words them.**

The compiler reads a file with a parser of its own, which stops at the same place as this
one on the same mistake (both read the same grammar a token ahead) but says it differently,
and recovers differently after it. Its report of a file is built from what this parser
found:

* each error of the scanner, in the compiler's words: a string or rune literal cut by a line
  break is reported at the break (`newline in string`), one cut by the end of the file at its
  start; an invalid character keeps its place;
* the first error of the parser itself, as `syntax error: unexpected T, ...`: `T` names the
  token at hand the compiler's way (`name x`, `literal 1`, `newline`, `EOF`, `comma`,
  `keyword func`), and the rest says what was expected in the list of declarations,
  statements or elements being read. Errors after the first one belong to this parser's
  recovery and are not the compiler's; a first error at the end of the file that follows an
  error of the scanner is not reported either (the compiler keeps quiet at the end once it
  has complained).

A `...` before the last parameter is not the compiler's syntax error: it says so while it
checks types, in the same words. Only errors whose message starts with `syntax error` stop
the compiler before it checks types.
-/

namespace StaticWrap.GoSource

/-- An error as the compiler reports it: where, and the message. -/
structure CompilerError where
  pos : Nat
  msg : String

/-- The byte at a position of a text (positions count from one). -/
def byteAt (bytes : ByteArray) (pos : Nat) : Option UInt8 :=
  if pos == 0 then none else bytes.data[pos - 1]?

/-- The position of the first line break at or after a position, if one comes before the
end. -/
def lineBreakFrom (bytes : ByteArray) (pos : Nat) : Nat → Option Nat
  | 0 => none
  | fuel + 1 =>
    match byteAt bytes pos with
    | none => none
    | some b => if b == 10 then some pos else lineBreakFrom bytes (pos + 1) fuel

/-- How the compiler names a token in an error: a name or literal with its text, a
semicolon by what put it there, a comma and a keyword by a word. -/
def compilerTokenText (bytes : ByteArray) (tok : Tok) (lit : String) (pos : Nat) : String :=
  match tok with
  | .ident => "name " ++ lit
  | .int | .float | .imag | .char | .string => "literal " ++ lit
  | .semicolon =>
    if lit == ";" then "semicolon"
    else if byteAt bytes pos == some 10 then "newline"
    else "EOF"
  | .eof => "EOF"
  | .comma => "comma"
  | t => if t.isKeyword then "keyword " ++ t.text else t.text

/-- What an "expected" error of this parser expected, without its quotes: `'}'` is `}`. -/
def expectedWhat (msg : String) : String :=
  let rest := (msg.drop 9).toString
  let what := (rest.splitOn ", found").headD rest
  if what.length ≥ 2 && what.startsWith "'" && what.endsWith "'" then
    ((what.drop 1).dropEnd 1).toString
  else what

/-- The compiler's wording of the first error of the parser. -/
def compilerParseError (bytes : ByteArray) (e : FirstError) : CompilerError :=
  let t := compilerTokenText bytes e.tok e.lit e.pos
  let syn (m : String) : CompilerError := ⟨e.pos, "syntax error: " ++ m⟩
  let inList : Option CompilerError := e.list.map fun (c, close) =>
    syn ("unexpected " ++ t ++ " in " ++ c ++ "; possibly missing comma or " ++ close.text)
  if e.msg == "can only use ... with final parameter" then ⟨e.pos, e.msg⟩
  else if e.msg.startsWith "expected operand" then syn ("unexpected " ++ t ++ ", expected expression")
  else if e.msg.startsWith "expected declaration" then
    syn "non-declaration statement outside function body"
  else if e.msg.startsWith "missing ','" then inList.getD (syn e.msg)
  else if e.msg.startsWith "expected ';'" then
    match e.ctx with
    | "stmt" => syn ("unexpected " ++ t ++ " at end of statement")
    | "group" =>
      syn ("unexpected " ++ t ++ " in grouped declaration; possibly missing semicolon or newline or )")
    | "struct type" | "interface type" =>
      syn ("unexpected " ++ t ++ " in " ++ e.ctx ++ "; possibly missing semicolon or newline or \x7d")
    | _ => syn ("unexpected " ++ t ++ " after top level declaration")
  else if e.msg.startsWith "expected " then
    match inList with
    | some r => r
    | none => syn ("unexpected " ++ t ++ ", expected " ++ expectedWhat e.msg)
  else syn e.msg

/-- The compiler's wording of an error of the scanner. -/
def compilerScanError (bytes : ByteArray) (pos : Nat) (msg : String) : CompilerError :=
  let fuel := bytes.size + 1
  if msg == "string literal not terminated" then
    match lineBreakFrom bytes pos fuel with
    | some nl => ⟨nl, "newline in string"⟩
    | none => ⟨pos, "string literal not terminated"⟩
  else if msg == "raw string literal not terminated" then ⟨pos, "string literal not terminated"⟩
  else if msg == "rune literal not terminated" then
    match lineBreakFrom bytes pos fuel with
    | some nl => ⟨nl, "newline in rune literal"⟩
    | none => ⟨pos, "rune literal not terminated"⟩
  else if msg == "illegal rune literal" then
    if byteAt bytes (pos + 1) == some 39 then
      ⟨pos + 1, "empty rune literal or unescaped ' in rune literal"⟩
    else ⟨pos, "more than one character in rune literal"⟩
  else if msg == "illegal character NUL" then ⟨pos, "invalid NUL character"⟩
  else if msg == "illegal byte order mark" then ⟨pos, "invalid BOM in the middle of the file"⟩
  else if msg.startsWith "illegal character " then ⟨pos, "invalid character " ++ (msg.drop 18).toString⟩
  else if msg == "unknown escape sequence" then ⟨pos, "unknown escape"⟩
  else ⟨pos, msg⟩

/-- The errors the compiler reports for a file, in order of position. -/
def compilerSyntaxErrors (text : String) (p : Parsed) : List CompilerError :=
  let bytes := text.toUTF8
  let scans := p.scanErrors.map fun (pos, msg) => compilerScanError bytes pos msg
  let parse := match p.first with
    | none => []
    | some e =>
      let atEnd := e.tok == .eof
      let first := scans.foldl (fun m c => min m c.pos) (e.pos + 1)
      if atEnd && first ≤ e.pos then [] else [compilerParseError bytes e]
  (scans ++ parse).mergeSort fun a b => a.pos ≤ b.pos

end StaticWrap.GoSource
