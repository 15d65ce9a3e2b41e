import StaticWrap.Settings.Value
import StaticWrap.Text.Quote
/-!
**Settings files of environment assignments.**

Each line that is neither blank nor a comment assigns a text to a name, as `NAME=value` or
`NAME: value` (the colon needs a blank after it), optionally after `export`. A name is made of
letters, digits, `_` and `.`. Lines are trimmed of white space first; a line ends at a line
feed, a carriage return, or both.

* A value may be written in single or double quotes; one that opens a quote and does not close
  it on its line goes on over the next lines until a line that holds the quote (not after a
  backslash). A file that ends inside such a value is a fault: `missing quotes`.
* The value ends where what is left of the line is blank space, optionally followed by a `#`
  comment; a bare value ends at the first `#`. A quoted value takes the last quote after which
  that holds.
* A value in single quotes is taken as written. In a value in double quotes, `\n` and `\r`
  stand for line breaks and a backslash before any other character but `$` stands for that
  character.
* In a value not in single quotes, `$NAME` and `${NAME}` (upper-case letters, digits and `_`)
  stand for the variable's value: from the environment of the run, else from an earlier line,
  else empty. `\$` stands for `$`.
* A line of another form is a fault: ``line `…` doesn't match format``, or, for `export NAME`
  of a name not assigned before, ``line `…` has an unset variable``.
-/

namespace StaticWrap.Settings.Dotenv

/-- White space as the line pattern knows it: tab, line feed, form feed, carriage return and
space. -/
def isBlank (c : Char) : Bool :=
  c == '\t' || c == '\n' || c == Char.ofNat 12 || c == '\r' || c == ' '

def isNameChar (c : Char) : Bool :=
  ('a' ≤ c && c ≤ 'z') || ('A' ≤ c && c ≤ 'Z') || ('0' ≤ c && c ≤ '9') || c == '_' || c == '.'

/-- A character of a variable's name in a reference. -/
def isVariableChar (c : Char) : Bool := ('A' ≤ c && c ≤ 'Z') || ('0' ≤ c && c ≤ '9') || c == '_'

/-- What may follow a value: blank space, then optionally a `#` comment without a line
break. -/
def endsValue (cs : List Char) : Bool :=
  match cs.dropWhile isBlank with
  | [] => true
  | '#' :: rest => !rest.contains '\n'
  | _ => false

/-- A quoted value: the longest run from the opening quote to a closing quote after which the
line may end. -/
def quotedValue? (q : Char) : List Char → Option (List Char)
  | c :: rest =>
    if c != q then none
    else
      let ends := (List.range rest.length).filter fun j =>
        rest.getD j ' ' == q && endsValue (rest.drop (j + 1))
      ends.getLast?.map fun j => c :: rest.take (j + 1)
  | [] => none

/-- A bare value: the characters up to a `#` or a line break, if the line may end there. -/
def bareValue? (cs : List Char) : Option (List Char) :=
  let run := cs.takeWhile fun c => c != '#' && c != '\n'
  if !run.isEmpty && endsValue (cs.drop run.length) then some run else none

/-- The value of an assignment after its separator, as written; none when the rest of the
line has no allowed form. -/
def valueAfter? (cs : List Char) : Option (List Char) :=
  match quotedValue? '\'' cs with
  | some v => some v
  | none =>
    match quotedValue? '"' cs with
    | some v => some v
    | none =>
      match bareValue? cs with
      | some v => some v
      | none => if endsValue cs then some [] else none

/-- The name and the written value of an assignment after its optional `export`. -/
def assignmentFrom? (cs : List Char) : Option (List Char × List Char) :=
  let name := cs.takeWhile isNameChar
  let rest := cs.drop name.length
  if name.isEmpty then none
  else
    let spaced := rest.dropWhile isBlank
    match spaced with
    | '=' :: after => (valueAfter? (after.dropWhile isBlank)).map fun v => (name, v)
    | _ =>
      match rest with
      | ':' :: b :: after =>
        if isBlank b then (valueAfter? after).map fun v => (name, v) else none
      | _ => none

/-- The name and the written value of a line, when it has the form of an assignment. -/
def assignment? (line : String) : Option (String × String) :=
  let cs := line.toList.dropWhile isBlank
  let viaExport : Option (List Char × List Char) :=
    match cs with
    | 'e' :: 'x' :: 'p' :: 'o' :: 'r' :: 't' :: b :: rest =>
      if isBlank b then assignmentFrom? (rest.dropWhile isBlank) else none
    | _ => none
  let found := match viaExport with
    | some r => some r
    | none => assignmentFrom? cs
  found.map fun (n, v) => (String.ofList n, Text.trimSpace (String.ofList v))

/-- Replaces each backslash followed by `c` with `d`, left to right. -/
def replaceEscape (c d : Char) : List Char → List Char
  | '\\' :: x :: rest => if x == c then d :: replaceEscape c d rest else '\\' :: replaceEscape c d (x :: rest)
  | x :: rest => x :: replaceEscape c d rest
  | [] => []

/-- Drops each backslash that comes before a character other than `$`, keeping that
character, left to right. -/
def dropBackslashes : List Char → List Char
  | '\\' :: x :: rest => if x == '$' then '\\' :: dropBackslashes (x :: rest) else x :: dropBackslashes rest
  | x :: rest => x :: dropBackslashes rest
  | [] => []

/-- Decodes the escapes of a value in double quotes: first every `\n`, then every `\r`, then a
backslash before any character but `$`. -/
def unescape (cs : List Char) : List Char :=
  dropBackslashes (replaceEscape 'r' '\r' (replaceEscape 'n' '\n' cs))

/-- The value a variable stands for: from the environment of the run, else from the
assignments read so far, else empty. -/
def variableValue (env : List (String × String)) (read : List (String × String)) (name : String) :
    String :=
  match env.find? (·.1 == name) with
  | some (_, v) => v
  | none =>
    match read.reverse.find? (·.1 == name) with
    | some (_, v) => v
    | none => ""

/-- Replaces the variable references of a value; `fuel` bounds the steps. -/
def expand (lookup : String → String) : Nat → List Char → List Char
  | 0, cs => cs
  | _, [] => []
  | fuel + 1, '\\' :: '$' :: rest =>
    -- an escaped reference stays as written, without its backslash
    let brace := if rest.head? == some '{' then ['{'] else []
    let afterBrace := rest.drop brace.length
    let name := afterBrace.takeWhile isVariableChar
    let afterName := afterBrace.drop name.length
    let close := if afterName.head? == some '}' then ['}'] else []
    '$' :: brace ++ name ++ close ++ expand lookup fuel (afterName.drop close.length)
  | fuel + 1, '$' :: rest =>
    let brace := if rest.head? == some '{' then ['{'] else []
    let afterBrace := rest.drop brace.length
    let name := afterBrace.takeWhile isVariableChar
    let afterName := afterBrace.drop name.length
    let close := if afterName.head? == some '}' then ['}'] else []
    let after := afterName.drop close.length
    if name.isEmpty then '$' :: brace ++ close ++ expand lookup fuel after
    else (lookup (String.ofList name)).toList ++ expand lookup fuel after
  | fuel + 1, c :: rest => c :: expand lookup fuel rest

/-- The text a written value stands for. -/
def valueText (env read : List (String × String)) (written : String) : String :=
  let cs := written.toList
  let quotedBy (q : Char) : Bool := cs.length ≥ 2 && cs.head? == some q && cs.getLast? == some q
  let inner := (cs.drop 1).dropLast
  if quotedBy '\'' then String.ofList inner
  else
    let body := if quotedBy '"' then unescape inner else cs
    String.ofList (expand (variableValue env read) (body.length + 1) body)

/-- The lines of a text: split at a line feed, a carriage return, or both in that order. -/
def lines (text : String) : List String :=
  let rec go : List Char → List Char → List String
    | [], cur => [String.ofList cur.reverse]
    | '\r' :: '\n' :: rest, cur => String.ofList cur.reverse :: go rest []
    | '\r' :: rest, cur => String.ofList cur.reverse :: go rest []
    | '\n' :: rest, cur => String.ofList cur.reverse :: go rest []
    | c :: rest, cur => go rest (c :: cur)
  let all := go text.toList []
  -- a final line break does not start another line
  if all.getLast? == some "" then all.dropLast else all

/-- The last byte offset of a byte in a byte string. -/
def lastByteIndex? (bs : List UInt8) (b : UInt8) : Option Nat :=
  ((List.range bs.length).filter fun j => bs.getD j 0 == b).getLast?

/-- The quote a line's value opens and does not close on the line, if any. The test for the
closing quote looks up its byte offset within the trimmed rest of the value, and finds it not
closed when the byte at that offset of the whole value is a backslash. -/
def openQuote? (line : String) : Option Char :=
  let cs := line.toList
  let at? := match cs.findIdx? (· == '=') with
    | some i => some i
    | none => cs.findIdx? (· == ':')
  match at? with
  | some i =>
    if i > 0 && i + 1 < cs.length then
      let value := Text.trimSpace (String.ofList (cs.drop (i + 1)))
      match value.toList with
      | q :: rest =>
        if q == '"' || q == '\'' then
          let inner := (Text.trimSpace (String.ofList rest)).toUTF8.toList
          match lastByteIndex? inner q.toNat.toUInt8 with
          | some j => if value.toUTF8.toList.getD j 0 != 92 then none else some q
          | none => some q
        else none
      | [] => none
    else none
  | none => none

/-- A line of a value that closes the open quote: it holds the quote, not right after a
backslash. -/
def closesQuote (q : Char) (l : String) : Bool :=
  let cs := l.toList
  match (List.range cs.length).filter (fun j => cs.getD j ' ' == q) |>.getLast? with
  | some j => !(j > 0 && cs.getD (j - 1) ' ' == '\\')
  | none => false

/-- The logical lines of a file: a line whose value opens a quote takes the following lines up
to the one that closes it; `fuel` bounds the steps. -/
def logicalLines : Nat → List String → Except String (List String)
  | 0, _ => .ok []
  | _, [] => .ok []
  | fuel + 1, raw :: rest =>
    let line := Text.trimSpace raw
    if line.isEmpty || Text.hasPrefix line "#" then logicalLines fuel rest
    else
      match openQuote? line with
      | none => (line :: ·) <$> logicalLines fuel rest
      | some q =>
        match rest.findIdx? (closesQuote q) with
        | some i =>
          let joined := "\n".intercalate (line :: rest.take (i + 1))
          (joined :: ·) <$> logicalLines fuel (rest.drop (i + 1))
        | none => .error "missing quotes"

/-- The fault of a line that is no assignment. -/
def lineFault (read : List (String × String)) (line : String) : String :=
  let tick := String.singleton Text.backQuote
  let unset :=
    Text.hasPrefix line "export" &&
      match (Text.splitOn line " ") with
      | _ :: name :: more => !(read.any (·.1 == " ".intercalate (name :: more)))
      | _ => false
  if unset then "line " ++ tick ++ line ++ tick ++ " has an unset variable"
  else "line " ++ tick ++ line ++ tick ++ " doesn't match format"

/-- The settings a file of assignments holds, in order, with variables looked up in the
environment `env` of the run. -/
def read (env : List (String × String)) (text : String) : Except String (List (String × Value)) := do
  let text := Text.trimPrefix text "\uFEFF"
  let ls := lines text
  let logical ← logicalLines (ls.length + 1) ls
  let read ← logical.foldlM (fun (acc : List (String × String)) line =>
    match assignment? line with
    | some (k, v) => .ok (acc ++ [(k, valueText env acc v)])
    | none => .error (lineFault acc line)) []
  pure (read.map fun (k, v) => (k, .text v))

end StaticWrap.Settings.Dotenv
