import StaticWrap.Text.Quote
import StaticWrap.Module.Version
/-!
**Reading `go.mod` files.**

A module file is a sequence of statements, one per line: a verb and its arguments, or a verb
and a parenthesised block of lines. Arguments are bare words or quoted strings; `//` starts a
comment. The reader is lax: of the directives only `module`, `go`, `require` and `ignore` are
checked, the others are skipped, and so are blocks of any other verb.

The reader scans one token ahead of the statement it builds. A fault of the scanner stops the
reading as soon as the statement reader asks for the token after the one that failed to scan,
and a fault of the statement reader is placed where the scanner stands: after the token it
looks ahead at.

* `scan`: the tokens of a file, ending in `eof`, or the tokens before a scanning fault and
  the fault.
* `statements`: the statements of a file, or the first fault.
* `readModFile`: the module path (none when there is no `module` line), or the faults, each
  `file:line: message` (with `:column` when the place is not the start of its line), joined
  by line breaks.
-/

namespace StaticWrap.GoMod

/-- A place in a module file: line and column, both from 1; the column counts characters. -/
structure Pos where
  line : Nat
  col : Nat
  deriving DecidableEq, Repr, Inhabited

/-- The place after a character. -/
def Pos.step (p : Pos) (c : Char) : Pos :=
  if c == '\n' then ⟨p.line + 1, 1⟩ else ⟨p.line, p.col + 1⟩

/-- The place after some characters. -/
def Pos.stepAll (p : Pos) (cs : List Char) : Pos := cs.foldl Pos.step p

/-- The kinds of tokens. -/
inductive Kind where
  | newline
  | lparen
  | rparen
  /-- One of `[ ] { } ,`. -/
  | punct
  | quoted
  | word
  /-- A comment alone on its line; it takes its line break with it. -/
  | comment
  /-- A comment that follows something on its line; it takes its line break with it. -/
  | lineEnd
  | eof
  deriving DecidableEq, Repr, Inhabited

/-- Tokens of the kind end a line. -/
def Kind.endsLine : Kind → Bool
  | .newline | .lineEnd | .eof => true
  | _ => false

/-- A token: its kind, its text, where it starts and where the scanner stands after it. -/
structure Token where
  kind : Kind
  text : String
  start : Pos
  stop : Pos
  deriving Repr, Inhabited

/-- A fault of the reader: a message and its place. -/
structure Fault where
  pos : Pos
  message : String
  deriving DecidableEq, Repr

/-- A character that can stand in a bare word. -/
def isWordChar (c : Char) : Bool :=
  !(c == ' ' || c == '(' || c == ')' || c == '[' || c == ']' || c == '{' || c == '}' || c == ',') &&
    !Text.isSpace c && Text.isPrint c

def blockCommentFault : String := "mod files must use // comments (not /* */ comments)"

/-- The rest of a quoted string after its opening quote at `start`: the characters up to and
with the closing quote and the rest of the file, or the fault. A line break is refused where
it would be read as a character of the string, not after a backslash. -/
def readQuoted (q : Char) (start : Pos) : Nat → Pos → List Char → Except Fault (List Char × List Char)
  | 0, _, _ => .error ⟨start, "unexpected EOF in string"⟩
  | _, _, [] => .error ⟨start, "unexpected EOF in string"⟩
  | fuel + 1, p, c :: rest =>
    if c == '\n' then .error ⟨p, "unexpected newline in string"⟩
    else if c == q then .ok ([c], rest)
    else if c == '\\' && q != Text.backQuote then
      match rest with
      | [] => .error ⟨start, "unexpected EOF in string"⟩
      | d :: more => do
        let (body, r) ← readQuoted q start fuel ((p.step c).step d) more
        pure (c :: d :: body, r)
    else do
      let (body, r) ← readQuoted q start fuel (p.step c) rest
      pure (c :: body, r)

/-- The rest of a bare word: characters up to a non-word character or `//`; a `/*` in it is a
fault at its place. -/
def readWord : Nat → Pos → List Char → Except Fault (List Char × List Char)
  | 0, _, cs => .ok ([], cs)
  | _, _, [] => .ok ([], [])
  | fuel + 1, p, c :: rest =>
    if !isWordChar c then .ok ([], c :: rest)
    else if c == '/' && rest.head? == some '/' then .ok ([], c :: rest)
    else if c == '/' && rest.head? == some '*' then .error ⟨p, blockCommentFault⟩
    else do
      let (w, r) ← readWord fuel (p.step c) rest
      pure (c :: w, r)

/-- The result of scanning: the tokens, and the fault met when scanning the next one. -/
structure Scanned where
  tokens : Array Token
  fault : Option Fault := none
  deriving Repr

/-- Scans the tokens of a module file into `acc`; `lineStart` says whether only blanks
precede the next character on its line. -/
def scanFrom (acc : Array Token) : Nat → Pos → Bool → List Char → Scanned
  | 0, p, _, _ => ⟨acc.push ⟨.eof, "", p, p⟩, none⟩
  | _, p, _, [] => ⟨acc.push ⟨.eof, "", p, p⟩, none⟩
  | fuel + 1, p, lineStart, c :: rest =>
    if c == ' ' || c == '\t' || c == '\r' then scanFrom acc fuel (p.step c) lineStart rest
    else if c == '/' && rest.head? == some '/' then
      let body := c :: rest.takeWhile (· != '\n')
      let taken := body ++ (if (rest.dropWhile (· != '\n')).isEmpty then [] else ['\n'])
      let after := (rest.dropWhile (· != '\n')).drop 1
      let q := p.stepAll taken
      let kind := if lineStart then Kind.comment else Kind.lineEnd
      scanFrom (acc.push ⟨kind, String.ofList body, p, q⟩) fuel q true after
    else if c == '/' && rest.head? == some '*' then ⟨acc, some ⟨p, blockCommentFault⟩⟩
    else
      let one := fun (k : Kind) =>
        scanFrom (acc.push ⟨k, String.ofList [c], p, p.step c⟩) fuel (p.step c) (k == .newline) rest
      if c == '\n' then one .newline
      else if c == '(' then one .lparen
      else if c == ')' then one .rparen
      else if c == '[' || c == ']' || c == '{' || c == '}' || c == ',' then one .punct
      else if c == '"' || c == Text.backQuote then
        match readQuoted c p (rest.length + 1) (p.step c) rest with
        | .error f => ⟨acc, some f⟩
        | .ok (body, r) =>
          let q := p.stepAll (c :: body)
          scanFrom (acc.push ⟨.quoted, String.ofList (c :: body), p, q⟩) fuel q false r
      else if isWordChar c then
        match readWord (rest.length + 1) (p.step c) rest with
        | .error f => ⟨acc, some f⟩
        | .ok (w, r) =>
          let q := p.stepAll (c :: w)
          scanFrom (acc.push ⟨.word, String.ofList (c :: w), p, q⟩) fuel q false r
      else ⟨acc, some ⟨p, "unexpected input character " ++ Text.quoteChar c⟩⟩

/-- The tokens of a module file. -/
def scan (content : String) : Scanned :=
  let cs := content.toList
  scanFrom #[] (cs.length + 1) ⟨1, 1⟩ true cs

/-- The token the reader looks ahead at. -/
def Scanned.peek (s : Scanned) (j : Nat) : Token := s.tokens.getD j default

/-- Takes the token looked ahead at and scans the next one: the next one may be the place of
a scanning fault. At the end of the file the end token stays. -/
def Scanned.take (s : Scanned) (j : Nat) : Except Fault (Token × Nat) :=
  let t := s.peek j
  if j + 1 < s.tokens.size then .ok (t, j + 1)
  else if t.kind == .eof then .ok (t, j)
  else
    match s.fault with
    | some f => .error f
    | none => .ok (t, j)

/-- A fault of the statement reader, placed after the token looked ahead at. -/
def Scanned.faultAt (s : Scanned) (j : Nat) (msg : String) : Fault := ⟨(s.peek j).stop, msg⟩

/-- A line of arguments: the place of its first token and the texts of its tokens. -/
structure Line where
  pos : Pos
  words : List String
  deriving Repr

/-- A statement of a module file. -/
inductive Stmt where
  | line (l : Line)
  /-- A block: the place and words before its opening paren, and its lines. -/
  | block (pos : Pos) (words : List String) (lines : List Line)
  deriving Repr

/-- The texts of the tokens of a line from token `tok` on; the token that ends the line is
taken too. -/
def Scanned.lineWords (s : Scanned) : Nat → Token → Nat → List String → Except Fault (List String × Nat)
  | 0, _, j, acc => .ok (acc.reverse, j)
  | fuel + 1, tok, j, acc =>
    if tok.kind.endsLine then .ok (acc.reverse, j)
    else do
      let (t, j') ← s.take j
      s.lineWords fuel t j' (tok.text :: acc)

/-- The lines of a block up to its closing paren, which must end its line. -/
def Scanned.blockLines (s : Scanned) (file : String) (start : Pos) :
    Nat → Nat → List Line → Except Fault (List Line × Nat)
  | 0, j, acc => .ok (acc.reverse, j)
  | fuel + 1, j, acc =>
    match (s.peek j).kind with
    | .lineEnd | .newline | .comment => do
      let (_, j') ← s.take j
      s.blockLines file start fuel j' acc
    | .eof =>
      .error (s.faultAt j ("syntax error (unterminated block started at " ++ file ++ ":" ++
        toString start.line ++ ":" ++ toString start.col ++ ")"))
    | .rparen => do
      let (_, j') ← s.take j
      if !(s.peek j').kind.endsLine then
        .error (s.faultAt j' "syntax error (expected newline after closing paren)")
      else
        let (_, j'') ← s.take j'
        pure (acc.reverse, j'')
    | _ => do
      let (tok, j') ← s.take j
      let (ws, j'') ← s.lineWords fuel tok j' []
      s.blockLines file start fuel j'' (⟨tok.start, ws⟩ :: acc)

/-- A statement from token `tok` on, with the words before it; an opening paren starts a
block. -/
def Scanned.statement (s : Scanned) (file : String) (start : Pos) :
    Nat → Token → Nat → List String → Except Fault (Stmt × Nat)
  | 0, _, j, acc => .ok (.line ⟨start, acc.reverse⟩, j)
  | fuel + 1, tok, j, acc =>
    if tok.kind.endsLine then .ok (.line ⟨start, acc.reverse⟩, j)
    else if tok.kind == .lparen then do
      let (ls, j') ← s.blockLines file start fuel j []
      pure (.block start acc.reverse ls, j')
    else do
      let (t, j') ← s.take j
      s.statement file start fuel t j' (tok.text :: acc)

/-- The statements from the token looked ahead at on. -/
def Scanned.statementsFrom (s : Scanned) (file : String) :
    Nat → Nat → List Stmt → Except Fault (List Stmt)
  | 0, _, acc => .ok acc.reverse
  | fuel + 1, j, acc =>
    match (s.peek j).kind with
    | .eof => .ok acc.reverse
    | .newline | .comment => do
      let (_, j') ← s.take j
      s.statementsFrom file fuel j' acc
    | _ => do
      let (tok, j') ← s.take j
      let (st, j'') ← s.statement file tok.start (s.tokens.size + 1) tok j' []
      s.statementsFrom file fuel j'' (st :: acc)

/-- The statements of a module file, or the first fault. -/
def statements (file content : String) : Except Fault (List Stmt) :=
  let s := scan content
  match s.tokens.size, s.fault with
  | 0, some f => .error f
  | _, _ => s.statementsFrom file (2 * s.tokens.size + 2) 0 []

/-- Reads a possibly quoted argument. -/
def argText (s : String) : Except String String :=
  if Text.hasPrefix s "\"" then
    match Text.unquote? s with
    | some t => .ok t
    | none => .error "invalid quoted string: invalid syntax"
  else if s.toList.any (fun c => c == '"' || c == '\'' || c == Text.backQuote) then
    .error "invalid quoted string: unquoted string cannot contain quote"
  else .ok s

def faultText (file : String) (p : Pos) (msg : String) : String :=
  if p.col > 1 then file ++ ":" ++ toString p.line ++ ":" ++ toString p.col ++ ": " ++ msg
  else file ++ ":" ++ toString p.line ++ ": " ++ msg

/-- A Go version as the `go` line takes it. -/
def isGoVersion (v : String) : Bool := Version.isGoVersion v

/-- A `replace` line: the module (and version, if given) it replaces, and the replacement:
a directory, or a module with a version. -/
structure Replacement where
  path : String
  version : String := ""
  target : String
  targetVersion : String := ""
  deriving Repr

/-- The replacement is a directory: a path that starts with `.`, `..`, a slash or a drive. -/
def isDirectoryPath (ns : String) : Bool :=
  let cs := ns.toList
  ns == "." || Text.hasPrefix ns "./" || Text.hasPrefix ns ".\\" || ns == ".." ||
    Text.hasPrefix ns "../" || Text.hasPrefix ns "..\\" || Text.hasPrefix ns "/" ||
    Text.hasPrefix ns "\\" ||
    match cs with
    | d :: ':' :: _ => ('A' ≤ d && d ≤ 'Z') || ('a' ≤ d && d ≤ 'z')
    | _ => false

/-- What the directives read so far say: the module path once there is a `module` line, whether
`go` and `toolchain` lines were seen, the requirements and replacements, and the faults. -/
structure Reading where
  module : Option String := none
  seenGo : Bool := false
  /-- The version of the `go` line. -/
  goVersion : Option String := none
  seenToolchain : Bool := false
  requires : List (String × String) := []
  replaces : List Replacement := []
  faults : List String := []

/-- Adds a fault. -/
def Reading.fail (r : Reading) (msg : String) : Reading := { r with faults := r.faults ++ [msg] }

/-- The usage fault of a `replace` line. -/
def replaceUsage (verb : String) : String :=
  "usage: " ++ verb ++ " module/path [v1.2.3] => other/module v1.4\n\t or " ++ verb ++
    " module/path [v1.2.3] => ../local/directory"

/-- Reads the arguments of a `replace` line: the replacement, or the fault. -/
def readReplace (verb : String) (args : List String) : Except String Replacement := do
  let arrow := if args[1]? == some "=>" then 1 else 2
  if args.length < arrow + 2 || args.length > arrow + 3 || args[arrow]? != some "=>" then
    throw (replaceUsage verb)
  let quoted (a : String) : Except String String :=
    match argText a with
    | .ok t => .ok t
    | .error e => .error e
  let path ← quoted (args.headD "")
  if (Version.splitPathVersion path).isNone then throw (verb ++ " " ++ path ++ ": invalid module path")
  let version ←
    if arrow == 2 then
      match Version.checkVersion verb path (args.getD 1 "") with
      | some e => throw e
      | none => pure ((Version.canonicalOrFault verb path (args.getD 1 "")).toOption.getD "")
    else pure ""
  let target ← quoted (args.getD (arrow + 1) "")
  if args.length == arrow + 2 then
    if !isDirectoryPath target then
      if Text.containsText target "@" then
        throw "replacement module must match format 'path version', not 'path@version'"
      throw "replacement module without version must be directory path (rooted or starting with . or ..)"
    if Text.containsText target "\\" then
      throw "replacement directory appears to be Windows path (on a non-windows system)"
    pure { path, version, target }
  else
    let targetVersion ← Version.canonicalOrFault verb target (args.getD (arrow + 2) "")
    if isDirectoryPath target then
      throw ("replacement module directory path " ++ Text.quote target ++ " cannot have version")
    pure { path, version, target, targetVersion }

/-- Reads one directive at a place: its verb and its arguments. A lax reading (`strict` off)
reads only `module`, `go`, `require` and `ignore` and skips every other verb; a strict one
reads every directive and refuses an unknown one. -/
def Reading.directive (file : String) (strict : Bool) (r : Reading) (pos : Pos) (verb : String)
    (args : List String) : Reading :=
  let fault := fun msg => r.fail (faultText file pos msg)
  match verb with
  | "module" =>
    if r.module.isSome then fault "repeated module statement"
    else
      let r := { r with module := some "" }
      let fault := fun msg => r.fail (faultText file pos msg)
      match args with
      | [a] =>
        match argText a with
        | .ok path => { r with module := some path }
        | .error e => fault e
      | _ => fault "usage: module module/path"
  | "go" =>
    if r.seenGo then fault "repeated go statement"
    else
      match args with
      | [v] =>
        if isGoVersion v || (!strict && (Version.laxGoVersion? v).isSome) then
          { r with seenGo := true, goVersion := some v }
        else fault ("invalid go version '" ++ v ++ "': must match format 1.23.0")
      | _ => fault "go directive expects exactly one argument"
  | "require" | "exclude" =>
    if verb == "exclude" && !strict then r
    else
      match args with
      | [p, v] =>
        match argText p with
        | .error e => fault e
        | .ok path =>
          match Version.checkVersion verb path v with
          | some e => fault e
          | none =>
            if verb == "require" then { r with requires := r.requires ++ [(path, v)] } else r
      | _ => fault ("usage: " ++ verb ++ " module/path v1.2.3")
  | "ignore" =>
    match args with
    | [a] =>
      match argText a with
      | .error e => fault e
      | .ok _ => r
    | _ => fault "ignore directive expects exactly one argument"
  | "toolchain" =>
    if !strict then r
    else if r.seenToolchain then fault "repeated toolchain statement"
    else
      match args with
      | [v] =>
        if v == "default" || v == "go1" || Text.hasPrefix v "go1." then
          { r with seenToolchain := true }
        else fault ("invalid toolchain version '" ++ v ++ "': must match format go1.23.0 or default")
      | _ => fault "toolchain directive expects exactly one argument"
  | "godebug" =>
    if !strict then r
    else
      match args with
      | [a] =>
        if a.toList.any (fun c => c == '"' || c == Text.backQuote || c == '\'' || c == ',') ||
            !Text.containsText a "=" then fault "usage: godebug key=value"
        else r
      | _ => fault "usage: godebug key=value"
  | "tool" =>
    if !strict then r
    else
      match args with
      | [a] =>
        match argText a with
        | .error e => fault e
        | .ok _ => r
      | _ => fault "tool directive expects exactly one argument"
  | "replace" =>
    if !strict then r
    else
      match readReplace verb args with
      | .ok rep => { r with replaces := r.replaces ++ [rep] }
      | .error e => fault e
  | "retract" => r
  | _ => if strict then fault ("unknown directive: " ++ verb) else r

/-- The verbs whose blocks are read; blocks of other verbs are skipped (or, when strict,
refused). -/
def blockVerbs : List String :=
  ["module", "godebug", "require", "exclude", "replace", "retract", "tool", "ignore"]

def Reading.statement (file : String) (strict : Bool) (r : Reading) : Stmt → Reading
  | .line ⟨pos, verb :: args⟩ => r.directive file strict pos verb args
  | .line ⟨_, []⟩ => r
  | .block pos words ls =>
    match words with
    | [verb] =>
      if blockVerbs.contains verb then
        ls.foldl (fun r l => r.directive file strict l.pos verb l.words) r
      else if strict then r.fail (faultText file pos ("unknown block type: " ++ verb))
      else r
    | _ => if strict then r.fail (faultText file pos ("unknown block type: " ++ " ".intercalate words))
      else r

/-- What a module file declares: its module path (none when it has no `module` line), its
requirements, its replacements and the version of its `go` line. -/
structure ModInfo where
  module : Option String
  requires : List (String × String)
  replaces : List Replacement
  goVersion : Option String := none

/-- Reads a module file, strictly (as the main module's file is read) or laxly; the faults are
joined by line breaks. -/
def readModInfo (file content : String) (strict : Bool) : Except String ModInfo :=
  match statements file content with
  | .error f => .error (faultText file f.pos f.message)
  | .ok stmts =>
    let r := stmts.foldl (Reading.statement file strict) {}
    if r.faults.isEmpty then .ok ⟨r.module, r.requires, r.replaces, r.goVersion⟩
    else .error ("\n".intercalate r.faults)

/-- The language version of a `go` line's version: the minor number of `1.N` (`1.22.3` and
`1.22rc1` are 22); a module file without one is read as `1.16`. -/
def langMinor (goVersion : Option String) : Nat :=
  match goVersion with
  | some v =>
    match Text.splitOn v "." with
    | _ :: minor :: _ => (String.ofList (minor.toList.takeWhile Char.isDigit)).toNat!
    | _ => 0
  | none => 16

/-- The module path of a module file, none when it has no `module` line, or the faults. -/
def readModFile (file content : String) : Except String (Option String) :=
  (readModInfo file content false).map (·.module)

end StaticWrap.GoMod
