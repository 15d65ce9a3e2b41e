import StaticWrap.GoSource.Syntax
import StaticWrap.GoSource.Lines
/-!
**Parsing Go source files.**

A recursive-descent parser over the scanner's tokens with one token of lookahead. It follows
the grammar of the language and recovers from errors the way the reference tools do, so the
list of syntax errors it reports (and the first of them, which is what a caller shows) is the
same: each error carries the position it is about, an error on the same line as the one
recorded before it is dropped as a likely consequence, and after more than ten errors parsing
stops (unless every error is asked for, as a package loader does). The scanner's own faults
join the list when the token that holds them is read.

Comments are kept: every comment group goes into the file's list, and the group right before
a declaration, field or specification (with no blank line between) is its documentation, the
group after it on the same line its line comment.

* `parseFile`: the syntax tree of a whole file and the errors found, in the order they were
  recorded; `sortedErrors` orders them by position, which is how they are reported.
* Every production runs on fuel, one step per nested call, and every loop is bounded by the
  number of tokens, since each pass through a loop reads a token; running out of fuel stops
  the parse like the error limit does.
-/

namespace StaticWrap.GoSource

/-- A parameter while a list is read: its name and its type, with a number telling types
written once and shared by several names apart from equal types written twice. -/
structure ParamEntry where
  name : Option Ident
  type : Option (Expr × Nat)

/-- The first error the parser records (not counting the scanner's), with what it was
reading: the token at hand, the kind of list of declarations or statements around it
(`top`, `stmt`, `group`, `struct type` or `interface type`), and the list of elements it was
in, with its closing token, when it missed a comma or the list's end. Compilers word this
error their own way from these. -/
structure FirstError where
  pos : Nat
  msg : String
  tok : Tok
  lit : String
  ctx : String
  list : Option (String × Tok)

/-- The state of the parser. -/
structure ParseState where
  toks : Array Token
  lines : Lines
  idx : Nat := 0
  pos : Nat := 0
  tok : Tok := .illegal
  lit : String := ""
  errors : Array (Nat × String) := #[]
  comments : Array CommentGroup := #[]
  leadComment : Option CommentGroup := none
  lineComment : Option CommentGroup := none
  syncPos : Nat := 0
  syncCnt : Nat := 0
  exprLev : Int := 0
  inRhs : Bool := false
  imports : Array Spec := #[]
  nextId : Nat := 0
  /-- Every error is kept: none is dropped for its line, and there is no limit. -/
  allErrors : Bool := false
  /-- The kind of list of declarations or statements being read. -/
  ctx : String := "top"
  /-- The list of elements whose comma or end is being read, with its closing token. -/
  listCtx : Option (String × Tok) := none
  first : Option FirstError := none
  /-- The errors the scanner found, in the order of the tokens read. -/
  scanErrors : Array (Nat × String) := #[]

/-- The parser: state, and a stop (error limit or fuel) that keeps the state reached. -/
abbrev Parse := EStateM Unit ParseState

namespace Parse

/-- The line of a position. -/
def lineOf (pos : Nat) : Parse Nat := return (← get).lines.fileLine pos

/-- A bound on the passes of any loop: each pass reads a token. -/
def bound : Parse Nat := return (← get).toks.size + 2

/-- Reads the next token, comments included; past the end the end-of-file token repeats. -/
def next0 : Parse Unit := modify fun s =>
  match s.toks[s.idx]? with
  | some t =>
    { s with idx := s.idx + 1, pos := t.pos, tok := t.tok, lit := t.lit,
             errors := s.errors ++ t.faults.toArray, scanErrors := s.scanErrors ++ t.faults.toArray }
  | none =>
    let p := (s.toks.back?.map (·.pos)).getD 1
    { s with pos := p, tok := .eof, lit := "" }

/-- Reads a comment, giving it and the line it ends on. -/
def consumeComment : Parse (Comment × Nat) := do
  let s ← get
  let mut endline := s.lines.fileLine s.pos
  if s.lit.startsWith "/*" then
    endline := endline + (s.lit.toList.filter (· == '\n')).length
  let c : Comment := ⟨s.pos, s.lit⟩
  next0
  return (c, endline)

/-- Reads a group of comments: those that follow with at most `n` line breaks between them.
The group joins the file's comments; the line the group ends on comes with it. -/
def consumeCommentGroup (n : Nat) : Parse (CommentGroup × Nat) := do
  let mut list : Array Comment := #[]
  let mut endline ← lineOf (← get).pos
  for _ in [0:← bound] do
    let s ← get
    if !(s.tok == .comment && s.lines.fileLine s.pos ≤ endline + n) then break
    let (c, e) ← consumeComment
    list := list.push c
    endline := e
  let g : CommentGroup := ⟨list.toList⟩
  modify fun s => { s with comments := s.comments.push g }
  return (g, endline)

/-- Moves to the next token that is not a comment, recording the line comment of the token
just read and the lead comment of the next one. -/
def next : Parse Unit := do
  modify fun s => { s with leadComment := none, lineComment := none }
  let prev := (← get).pos
  next0
  if (← get).tok == .comment then
    let mut comment : Option CommentGroup := none
    if (← lineOf (← get).pos) == (← lineOf prev) then
      let (c, endline) ← consumeCommentGroup 0
      let s ← get
      if s.lines.fileLine s.pos != endline || s.tok == .semicolon || s.tok == .eof then
        set { s with lineComment := some c }
      comment := some c
    let mut endline : Int := -1
    for _ in [0:← bound] do
      if (← get).tok != .comment then break
      let (c, e) ← consumeCommentGroup 1
      comment := some c
      endline := e
    if endline + 1 == ((← lineOf (← get).pos) : Int) then
      modify fun s => { s with leadComment := comment }

/-- Records an error. Unless every error is kept, one on the same line as the last error
recorded is dropped, and the parse stops when more than ten errors are recorded. -/
def error (pos : Nat) (msg : String) : Parse Unit := do
  let s ← get
  if s.first.isNone then
    set { s with first := some ⟨pos, msg, s.tok, s.lit, s.ctx, s.listCtx⟩ }
  let s ← get
  let n := s.errors.size
  if !s.allErrors then
    if n > 0 && s.lines.fileLine ((s.errors.back?.map (·.1)).getD 0) == s.lines.fileLine pos then
      return
    if n > 10 then throw ()
  set { s with errors := s.errors.push (pos, msg) }

/-- Records an "expected" error; at the current token it names what was found instead. -/
def errorExpected (pos : Nat) (what : String) : Parse Unit := do
  let s ← get
  let mut msg := "expected " ++ what
  if pos == s.pos then
    if s.tok == .semicolon && s.lit == "\n" then msg := msg ++ ", found newline"
    else if s.tok.isLiteral then msg := msg ++ ", found " ++ s.lit
    else msg := msg ++ ", found '" ++ s.tok.text ++ "'"
  error pos msg

/-- Reads a token of the given class (complaining when it is another), giving its position. -/
def expect (t : Tok) : Parse Nat := do
  let pos := (← get).pos
  if (← get).tok != t then errorExpected pos ("'" ++ t.text ++ "'")
  next
  return pos

/-- Like `expect`, but gives no position when the token is another. -/
def expect2 (t : Tok) : Parse Nat := do
  let s ← get
  let pos := if s.tok == t then s.pos else 0
  if s.tok != t then errorExpected s.pos ("'" ++ t.text ++ "'")
  next
  return pos

/-- Like `expect`, with a clearer message for a missing comma before a line break. -/
def expectClosing (t : Tok) (context : String) : Parse Nat := do
  let s ← get
  modify fun s => { s with listCtx := some (context, t) }
  if s.tok != t && s.tok == .semicolon && s.lit == "\n" then
    error s.pos ("missing ',' before newline in " ++ context)
    next
  let r ← expect t
  modify fun s => { s with listCtx := none }
  return r

/-- The tokens that start a statement, where recovery resumes. -/
def stmtStart (t : Tok) : Bool :=
  match t with
  | .kwBreak | .kwConst | .kwContinue | .kwDefer | .kwFallthrough | .kwFor | .kwGo | .kwGoto
  | .kwIf | .kwReturn | .kwSelect | .kwSwitch | .kwType | .kwVar => true
  | _ => false

/-- The tokens that start a declaration. -/
def declStart (t : Tok) : Bool :=
  match t with
  | .kwImport | .kwConst | .kwType | .kwVar => true
  | _ => false

/-- The tokens that end an expression. -/
def exprEnd (t : Tok) : Bool :=
  match t with
  | .comma | .colon | .semicolon | .rparen | .rbrack | .rbrace => true
  | _ => false

/-- Skips an `=` at the current token: its position, or 0 when there is none. -/
def skipAssign : Parse Nat := do
  let s ← get
  if s.tok == .assign then
    next
    return s.pos
  return 0

/-- Skips tokens up to one of the given set (or the end), for recovery. It stops at such a
token right away only if the parser moved since the last time, or has not stopped there ten
times already. -/
def advance (stops : Tok → Bool) : Parse Unit := do
  for _ in [0:← bound] do
    let s ← get
    if s.tok == .eof then return
    if stops s.tok then
      if s.pos == s.syncPos && s.syncCnt < 10 then
        set { s with syncCnt := s.syncCnt + 1 }
        return
      if s.pos > s.syncPos then
        set { s with syncPos := s.pos, syncCnt := 0 }
        return
    next

/-- Reads a semicolon (optional before a closing bracket or brace), giving the line comment
that goes with the statement it ends. -/
def expectSemi : Parse (Option CommentGroup) := do
  let s ← get
  if s.tok == .rparen || s.tok == .rbrace then return none
  if s.tok == .comma || s.tok == .semicolon then
    if s.tok == .comma then errorExpected s.pos "';'"
    let s ← get
    if s.lit == ";" then
      next
      return (← get).lineComment
    else
      let c := s.lineComment
      next
      return c
  errorExpected s.pos "';'"
  advance stmtStart
  return none

/-- Whether a list goes on: at a comma, or at anything but its closing token (where a
missing comma is reported and taken as read). -/
def atComma (context : String) (follow : Tok) : Parse Bool := do
  let s ← get
  if s.tok == .comma then return true
  if s.tok != follow then
    let mut msg := "missing ','"
    if s.tok == .semicolon && s.lit == "\n" then msg := msg ++ " before newline"
    modify fun s => { s with listCtx := some (context, follow) }
    error s.pos (msg ++ " in " ++ context)
    modify fun s => { s with listCtx := none }
    return true
  return false

/-- Runs a reading inside a list of declarations or statements of the given kind. -/
def inCtx {α : Type} (c : String) (act : Parse α) : Parse α := do
  let saved := (← get).ctx
  modify fun s => { s with ctx := c }
  let r ← act
  modify fun s => { s with ctx := saved }
  return r

/-- A position no later than the end of the file. -/
def safePos (pos : Nat) : Parse Nat := do
  let size := (← get).lines.size
  return if pos > size + 1 then size + 1 else pos

/-- A fresh number for a parameter type. -/
def freshId : Parse Nat := do
  let s ← get
  set { s with nextId := s.nextId + 1 }
  return s.nextId

/-- A type with a fresh number. -/
def withId (t : Expr) : Parse (Expr × Nat) := return (t, ← freshId)

/-- Enters an expression level. -/
def incLev : Parse Unit := modify fun s => { s with exprLev := s.exprLev + 1 }

/-- Leaves an expression level. -/
def decLev : Parse Unit := modify fun s => { s with exprLev := s.exprLev - 1 }

/-- Reads an identifier; at another token reports it and gives `_`. -/
def parseIdent : Parse Ident := do
  let s ← get
  if s.tok == .ident then
    next
    return ⟨s.pos, s.lit⟩
  discard <| expect .ident
  return ⟨s.pos, "_"⟩

/-- Reads identifiers separated by commas. -/
def parseIdentList : Parse (List Ident) := do
  let mut list := #[← parseIdent]
  for _ in [0:← bound] do
    if (← get).tok != .comma then break
    next
    list := list.push (← parseIdent)
  return list.toList

/-- Reads a type name: an identifier, possibly qualified by a package name. -/
def parseTypeName (ident : Option Ident) : Parse Expr := do
  let ident ← match ident with
    | some i => pure i
    | none => parseIdent
  if (← get).tok == .period then
    next
    let sel ← parseIdent
    return .selector (.ident ident) sel
  return .ident ident

/-- An index expression with one index, or with several. -/
def packIndexExpr (x : Expr) (lbrack : Nat) (args : List Expr) (rbrack : Nat) : Expr :=
  match args with
  | [a] => .index x lbrack a rbrack
  | _ => .indexList x lbrack args rbrack

/-- Whether an expression can only be a type element (and not a value). -/
def isTypeElem : Expr → Bool
  | .array .. | .struct .. | .func .. | .iface .. | .map .. | .chan .. => true
  | .binary x _ _ y => isTypeElem x || isTypeElem y
  | .unary _ op _ => op == .tilde
  | .paren _ x _ => isTypeElem x
  | _ => false

/-- Splits an expression `name expr` into the name and the type expression, when the second
part is a type element (or `force` is set); a lone name gives the name and no type. -/
def extractName (x : Expr) (force : Bool) : Option Ident × Option Expr :=
  match x with
  | .ident i => (some i, none)
  | .binary (.ident name) opPos .mul y =>
    if force || isTypeElem y then (some name, some (.star opPos y)) else (none, some x)
  | .binary lhs opPos .or y =>
    match extractName lhs (force || isTypeElem y) with
    | (some name, some l) => (some name, some (.binary l opPos .or y))
    | _ => (none, some x)
  | .call (.ident name) lparen [arg] 0 rparen =>
    if force || isTypeElem arg then (some name, some (.paren lparen arg rparen))
    else (none, some x)
  | _ => (none, some x)

/-- Reads the rest of a receive type `<-chan T` after its arrow: the arrow moves onto the
channel types read after it, and a channel that already has a direction is an error. -/
def reassociate : Nat → Nat → Expr → Parse Expr
  | 0, _, x => pure x
  | n + 1, arrow, .chan _ tArrow tDir value => do
    if tDir == .recv then errorExpected tArrow "'chan'"
    if tDir == .send then
      match value with
      | .chan .. =>
        let v ← reassociate n tArrow value
        return .chan arrow arrow .recv v
      | _ =>
        errorExpected tArrow "channel type"
        return .chan arrow arrow .recv value
    else
      return .chan arrow arrow .recv value
  | _, _, x => pure x

/-- A statement used where an expression is wanted: its expression, or an error. -/
def makeExpr (s : Option Stmt) (want : String) : Parse (Option Expr) := do
  match s with
  | none => return none
  | some (.expr x) => return some x
  | some st =>
    let found := match st with
      | .assign .. => "assignment"
      | _ => "simple statement"
    error st.pos ("expected " ++ want ++ ", found " ++ found ++
      " (missing parentheses around composite literal?)")
    return some (.bad st.pos (← safePos st.end))

/-- Whether an expression is the guard `x.(type)` of a type switch. -/
def isTypeSwitchAssert : Expr → Bool
  | .typeAssert _ _ none _ => true
  | _ => false

/-- Whether a statement is the guard of a type switch; `v = x.(type)` is one, with an error. -/
def isTypeSwitchGuard : Option Stmt → Parse Bool
  | some (.expr x) => pure (isTypeSwitchAssert x)
  | some (.assign [_] tokPos tok [r]) => do
    if !isTypeSwitchAssert r then return false
    if tok == .assign then
      error tokPos "expected ':=', found '='"
      return true
    return tok == .define
  | _ => pure false

/-- Reads an import specification. -/
def parseImportSpec (doc : Option CommentGroup) : Parse Spec := do
  let s ← get
  let ident ← match s.tok with
    | .ident => some <$> parseIdent
    | .period => do
      next
      pure (some (⟨s.pos, "."⟩ : Ident))
    | _ => pure none
  let s ← get
  let pos := s.pos
  let mut path := ""
  if s.tok == .string then
    path := s.lit
    next
  else if s.tok.isLiteral then
    error pos "import path must be a string"
    next
  else
    error pos "missing import path"
    advance exprEnd
  let comment ← expectSemi
  let spec := Spec.importSpec doc ident pos path comment 0
  modify fun s => { s with imports := s.imports.push spec }
  return spec

/-- How a simple statement may end: plainly, as a label, or as a range clause. -/
inductive SimpleMode where
  | basic
  | labelOk
  | rangeOk
  deriving DecidableEq

mutual

def parseType : Nat → Parse Expr
  | 0 => throw ()
  | n + 1 => do
    match ← tryIdentOrType n with
    | some t => return t
    | none =>
      let pos := (← get).pos
      errorExpected pos "type"
      advance exprEnd
      return .bad pos (← get).pos

/-- Reads a possibly qualified type name, possibly instantiated. -/
def parseQualifiedIdent : Nat → Option Ident → Parse Expr
  | 0, _ => throw ()
  | n + 1, ident => do
    let typ ← parseTypeName ident
    if (← get).tok == .lbrack then parseTypeInstance n typ else return typ

/-- Reads an array or slice type after its bracket; `len` is a length already read. -/
def parseArrayType : Nat → Nat → Option Expr → Parse Expr
  | 0, _, _ => throw ()
  | n + 1, lbrack, len => do
    let len ← match len with
      | some l => pure (some l)
      | none => do
        incLev
        let s ← get
        let l ← if s.tok == .ellipsis then do
            next
            pure (some (Expr.ellipsis s.pos none))
          else if s.tok != .rbrack then some <$> parseRhs n
          else pure none
        decLev
        pure l
    let s ← get
    if s.tok == .comma then
      error s.pos "unexpected comma; expecting ]"
      next
    discard <| expect .rbrack
    let elt ← parseType n
    return .array lbrack len elt

/-- Reads what follows a field name and a bracket: an array type for the field, or the
arguments of an instantiated embedded type (then the name is not a field name). -/
def parseArrayFieldOrTypeInstance : Nat → Ident → Parse (Option Ident × Expr)
  | 0, _ => throw ()
  | n + 1, x => do
    let lbrack ← expect .lbrack
    let mut trailingComma := 0
    let mut args : Array Expr := #[]
    if (← get).tok != .rbrack then
      incLev
      args := args.push (← parseRhs n)
      for _ in [0:← bound] do
        let s ← get
        if s.tok != .comma then break
        next
        if (← get).tok == .rbrack then
          trailingComma := s.pos
          break
        args := args.push (← parseRhs n)
      decLev
    let rbrack ← expect .rbrack
    match args.toList with
    | [] =>
      let elt ← parseType n
      return (some x, .array lbrack none elt)
    | [a] =>
      match ← tryIdentOrType n with
      | some elt =>
        if trailingComma != 0 then error trailingComma "unexpected comma; expecting ]"
        return (some x, .array lbrack (some a) elt)
      | none => return (none, packIndexExpr (.ident x) lbrack [a] rbrack)
    | l => return (none, packIndexExpr (.ident x) lbrack l rbrack)

/-- Reads a field declaration of a struct type. -/
def parseFieldDecl : Nat → Parse Field
  | 0 => throw ()
  | n + 1 => do
    let doc := (← get).leadComment
    let mut names : List Ident := []
    let mut typ : Expr := .bad 0 0
    match (← get).tok with
    | .ident =>
      let name ← parseIdent
      let t := (← get).tok
      if t == .period || t == .string || t == .semicolon || t == .rbrace then
        typ := .ident name
        if t == .period then typ ← parseQualifiedIdent n (some name)
      else
        let mut more : Array Ident := #[name]
        for _ in [0:← bound] do
          if (← get).tok != .comma then break
          next
          more := more.push (← parseIdent)
        names := more.toList
        if more.size == 1 && (← get).tok == .lbrack then
          let (nm, ty) ← parseArrayFieldOrTypeInstance n name
          typ := ty
          if nm.isNone then names := []
        else
          typ ← parseType n
    | .mul =>
      let star := (← get).pos
      next
      if (← get).tok == .lparen then
        error (← get).pos "cannot parenthesize embedded type"
        next
        typ ← parseQualifiedIdent n none
        if (← get).tok == .rparen then next
      else
        typ ← parseQualifiedIdent n none
      typ := .star star typ
    | .lparen =>
      error (← get).pos "cannot parenthesize embedded type"
      next
      if (← get).tok == .mul then
        let star := (← get).pos
        next
        typ := .star star (← parseQualifiedIdent n none)
      else
        typ ← parseQualifiedIdent n none
      if (← get).tok == .rparen then next
    | _ =>
      let pos := (← get).pos
      errorExpected pos "field name or embedded type"
      advance exprEnd
      typ := .bad pos (← get).pos
    let mut tag : Option Expr := none
    let s ← get
    if s.tok == .string then
      tag := some (.basic s.pos .string s.lit)
      next
    let comment ← expectSemi
    return .mk doc names typ tag comment

def parseStructType : Nat → Parse Expr
  | 0 => throw ()
  | n + 1 => do
    let pos ← expect .kwStruct
    let lbrace ← expect .lbrace
    let list ← inCtx "struct type" do
      let mut list : Array Field := #[]
      for _ in [0:← bound] do
        let t := (← get).tok
        if !(t == .ident || t == .mul || t == .lparen) then break
        list := list.push (← parseFieldDecl n)
      pure list
    let rbrace ← expect .rbrace
    return .struct pos (.mk lbrace list.toList rbrace)

def parsePointerType : Nat → Parse Expr
  | 0 => throw ()
  | n + 1 => do
    let star ← expect .mul
    let base ← parseType n
    return .star star base

/-- Reads `...T`. -/
def parseDotsType : Nat → Parse Expr
  | 0 => throw ()
  | n + 1 => do
    let pos ← expect .ellipsis
    let elt ← parseType n
    return .ellipsis pos (some elt)

/-- Reads one parameter declaration (or type parameter, when `typeSetsOK`); `name` is a name
already read. -/
def parseParamDecl : Nat → Option Ident → Bool → Parse ParamEntry
  | 0, _, _ => throw ()
  | n + 1, name, typeSetsOK => do
    let tok0 := (← get).tok
    if name.isNone && typeSetsOK && tok0 == .tilde then
      let t ← embeddedElem n none
      return ⟨none, some (← withId t)⟩
    let mut fname : Option Ident := none
    let mut ftyp : Option Expr := none
    if name.isSome || tok0 == .ident then
      fname ← match name with
        | some nm => pure (some nm)
        | none => some <$> parseIdent
      match (← get).tok with
      | .ident | .mul | .arrow | .kwFunc | .kwChan | .kwMap | .kwStruct | .kwInterface
      | .lparen =>
        ftyp := some (← parseType n)
      | .lbrack =>
        let (nm, ty) ← parseArrayFieldOrTypeInstance n (fname.getD ⟨0, "_"⟩)
        fname := nm
        ftyp := some ty
      | .ellipsis =>
        let ty ← parseDotsType n
        return ⟨fname, some (← withId ty)⟩
      | .period =>
        ftyp := some (← parseQualifiedIdent n fname)
        fname := none
      | .tilde =>
        if typeSetsOK then
          let ty ← embeddedElem n none
          return ⟨fname, some (← withId ty)⟩
      | .or =>
        if typeSetsOK then
          let ty ← embeddedElem n (fname.map Expr.ident)
          return ⟨none, some (← withId ty)⟩
      | _ => pure ()
    else
      match tok0 with
      | .mul | .arrow | .kwFunc | .lbrack | .kwChan | .kwMap | .kwStruct | .kwInterface
      | .lparen =>
        ftyp := some (← parseType n)
      | .ellipsis =>
        let ty ← parseDotsType n
        return ⟨none, some (← withId ty)⟩
      | _ =>
        errorExpected (← get).pos "')'"
        advance exprEnd
    if typeSetsOK && (← get).tok == .or then
      match ftyp with
      | some t => ftyp := some (← embeddedElem n (some t))
      | none => pure ()
    match ftyp with
    | some t => return ⟨fname, some (← withId t)⟩
    | none => return ⟨fname, none⟩

/-- Reads a parameter list up to its closing token (`]` for type parameters); `name0` and
`typ0` are a first name and type already read. Names written before a shared type get that
type; a list that mixes named and unnamed parameters is an error. -/
def parseParameterList : Nat → Option Ident → Option Expr → Tok → Bool → Parse (List Field)
  | 0, _, _, _, _ => throw ()
  | n + 1, name0, typ0, closing, dddok => do
    let tparams := closing == .rbrack
    let pos0 ← match name0, typ0 with
      | some nm, _ => pure nm.pos
      | none, some t => pure t.pos
      | none, none => pure (← get).pos
    let mut list : Array ParamEntry := #[]
    let mut named := 0
    let mut typed := 0
    let mut name0 := name0
    let mut typ0 := typ0
    for _ in [0:← bound] do
      let s ← get
      if !(name0.isSome || (s.tok != closing && s.tok != .eof)) then break
      let par ← match typ0 with
        | some t => do
          let t ← if tparams then embeddedElem n (some t) else pure t
          pure (⟨name0, some (← withId t)⟩ : ParamEntry)
        | none => parseParamDecl n name0 tparams
      name0 := none
      typ0 := none
      if par.name.isSome || par.type.isSome then
        list := list.push par
        if par.name.isSome && par.type.isSome then named := named + 1
        if par.type.isSome then typed := typed + 1
      if !(← atComma "parameter list" closing) then break
      next
    if list.isEmpty then return []
    let mut entries := list
    if named == 0 then
      entries := list.map fun par => match par.name with
        | some nm => { name := none, type := some (Expr.ident nm, 0) }
        | none => { par with name := none }
      if tparams then
        if named == typed then error (← get).pos "missing type constraint"
        else
          error pos0 ("missing type parameter name" ++
            (if list.size == 1 then " or invalid array length" else ""))
    else if named != list.size then
      let mut errPos := 0
      let mut typ : Option (Expr × Nat) := none
      for i in (List.range entries.size).reverse do
        let par := entries[i]?.getD ⟨none, none⟩
        match par.type with
        | some t =>
          typ := some t
          if par.name.isNone then
            errPos := t.1.pos
            entries := entries.set! i { par with name := some ⟨errPos, "_"⟩ }
        | none =>
          match typ with
          | some t => entries := entries.set! i { par with type := some t }
          | none =>
            let np := (par.name.map (·.pos)).getD 0
            errPos := np
            entries := entries.set! i { par with type := some (.bad np (← get).pos, ← freshId) }
      if errPos != 0 then
        if named == typed then
          error (← get).pos (if tparams then "missing type constraint" else "missing parameter type")
        else
          error errPos (if tparams then
              "missing type parameter name" ++
                (if list.size == 1 then " or invalid array length" else "")
            else "missing parameter name")
    let mut first := true
    for i in [0:entries.size] do
      let par := entries[i]?.getD ⟨none, none⟩
      match par.type with
      | some (.ellipsis p elt, id) =>
        if !dddok || i + 1 < entries.size then
          if first then
            first := false
            error p (if dddok then "can only use ... with final parameter" else "invalid use of ...")
          match elt with
          | some e => entries := entries.set! i { par with type := some (e, id) }
          | none => pure ()
      | _ => pure ()
    if named == 0 then
      return (entries.map fun par =>
        Field.mk none [] ((par.type.map (·.1)).getD (.bad 0 0)) none none).toList
    let mut fields : Array Field := #[]
    let mut names : Array Ident := #[]
    let mut cur : Option (Expr × Nat) := none
    for par in entries do
      if par.type.map (·.2) != cur.map (·.2) then
        if names.size > 0 then
          fields := fields.push (.mk none names.toList ((cur.map (·.1)).getD (.bad 0 0)) none none)
          names := #[]
        cur := par.type
      names := names.push (par.name.getD ⟨0, "_"⟩)
    if names.size > 0 then
      fields := fields.push (.mk none names.toList ((cur.map (·.1)).getD (.bad 0 0)) none none)
    return fields.toList

/-- Reads the parameters of a signature, with type parameters first when allowed. -/
def parseParameters : Nat → Bool → Bool → Parse (Option FieldList × FieldList)
  | 0, _, _ => throw ()
  | n + 1, acceptTParams, dddok => do
    let mut tparams : Option FieldList := none
    if acceptTParams && (← get).tok == .lbrack then
      let opening := (← get).pos
      next
      let list ← parseParameterList n none none .rbrack false
      let rbrack ← expect .rbrack
      let fl := FieldList.mk opening list rbrack
      if fl.numFields == 0 then error rbrack "empty type parameter list"
      else tparams := some fl
    let opening ← expect .lparen
    let fields ← if (← get).tok != .rparen then parseParameterList n none none .rparen dddok
      else pure []
    let rparen ← expect .rparen
    return (tparams, .mk opening fields rparen)

/-- Reads the results of a signature: a parenthesised list or a single type, if any. -/
def parseResult : Nat → Parse (Option FieldList)
  | 0 => throw ()
  | n + 1 => do
    if (← get).tok == .lparen then
      let (_, r) ← parseParameters n false false
      return some r
    match ← tryIdentOrType n with
    | some t => return some (.mk 0 [.mk none [] t none none] 0)
    | none => return none

/-- Reads a function type. -/
def parseFuncType : Nat → Parse Signature
  | 0 => throw ()
  | n + 1 => do
    let pos ← expect .kwFunc
    let (tparams, params) ← parseParameters n true true
    match tparams with
    | some tp => error tp.opening "function type must have no type parameters"
    | none => pure ()
    let results ← parseResult n
    return .mk pos none params results

/-- Reads a method or an embedded element of an interface type. -/
def parseMethodSpec : Nat → Parse Field
  | 0 => throw ()
  | n + 1 => do
    let doc := (← get).leadComment
    let x ← parseTypeName none
    match x with
    | .ident ident =>
      let s ← get
      if s.tok == .lbrack then
        let lbrack := s.pos
        next
        incLev
        let x ← parseExpr n
        decLev
        let t := (← get).tok
        match x with
        | .ident name0 =>
          if t != .comma && t != .rbrack then
            discard <| parseParameterList n (some name0) none .rbrack false
            discard <| expect .rbrack
            error lbrack "interface method must have no type parameters"
            let (_, params) ← parseParameters n false true
            let results ← parseResult n
            return .mk doc [ident] (.func (.mk 0 none params results)) none none
        | _ => pure ()
        let mut list : Array Expr := #[x]
        if ← atComma "type argument list" .rbrack then
          incLev
          next
          for _ in [0:← bound] do
            let t := (← get).tok
            if t == .rbrack || t == .eof then break
            list := list.push (← parseType n)
            if !(← atComma "type argument list" .rbrack) then break
            next
          decLev
        let rbrack ← expectClosing .rbrack "type argument list"
        return .mk doc [] (packIndexExpr (.ident ident) lbrack list.toList rbrack) none none
      else if s.tok == .lparen then
        let (_, params) ← parseParameters n false true
        let results ← parseResult n
        return .mk doc [ident] (.func (.mk 0 none params results)) none none
      else
        return .mk doc [] x none none
    | _ =>
      let typ ← if (← get).tok == .lbrack then parseTypeInstance n x else pure x
      return .mk doc [] typ none none

/-- Reads a union of terms `A | ~B | ...`, starting from `x` when it is given. -/
def embeddedElem : Nat → Option Expr → Parse Expr
  | 0, _ => throw ()
  | n + 1, x => do
    let mut x ← match x with
      | some e => pure e
      | none => embeddedTerm n
    for _ in [0:← bound] do
      let s ← get
      if s.tok != .or then break
      next
      let y ← embeddedTerm n
      x := .binary x s.pos .or y
    return x

/-- Reads a term of a union: a type, possibly after `~`. -/
def embeddedTerm : Nat → Parse Expr
  | 0 => throw ()
  | n + 1 => do
    let s ← get
    if s.tok == .tilde then
      next
      let t ← parseType n
      return .unary s.pos .tilde t
    match ← tryIdentOrType n with
    | some t => return t
    | none =>
      errorExpected s.pos "~ term or type"
      advance exprEnd
      return .bad s.pos (← get).pos

def parseInterfaceType : Nat → Parse Expr
  | 0 => throw ()
  | n + 1 => do
    let pos ← expect .kwInterface
    let lbrace ← expect .lbrace
    let list ← inCtx "interface type" do
      let mut list : Array Field := #[]
      for _ in [0:← bound] do
        let t := (← get).tok
        if t == .ident then
          let f ← parseMethodSpec n
          let f ← match f with
            | .mk doc [] ty tag c => do
              let ty ← embeddedElem n (some ty)
              pure (Field.mk doc [] ty tag c)
            | f => pure f
          let c ← expectSemi
          match f with
          | .mk doc names ty tag _ => list := list.push (.mk doc names ty tag c)
        else if t == .tilde then
          let typ ← embeddedElem n none
          let c ← expectSemi
          list := list.push (.mk none [] typ none c)
        else
          match ← tryIdentOrType n with
          | some ty =>
            let typ ← embeddedElem n (some ty)
            let c ← expectSemi
            list := list.push (.mk none [] typ none c)
          | none => break
      pure list
    let rbrace ← expect .rbrace
    return .iface pos (.mk lbrace list.toList rbrace)

def parseMapType : Nat → Parse Expr
  | 0 => throw ()
  | n + 1 => do
    let pos ← expect .kwMap
    discard <| expect .lbrack
    let key ← parseType n
    discard <| expect .rbrack
    let value ← parseType n
    return .map pos key value

/-- Reads a channel type. -/
def parseChanType : Nat → Parse Expr
  | 0 => throw ()
  | n + 1 => do
    let pos := (← get).pos
    let mut dir := ChanDir.both
    let mut arrow := 0
    if (← get).tok == .kwChan then
      next
      let s ← get
      if s.tok == .arrow then
        arrow := s.pos
        next
        dir := .send
    else
      arrow ← expect .arrow
      discard <| expect .kwChan
      dir := .recv
    let value ← parseType n
    return .chan pos arrow dir value

/-- Reads the type arguments of an instantiated type. -/
def parseTypeInstance : Nat → Expr → Parse Expr
  | 0, _ => throw ()
  | n + 1, typ => do
    let opening ← expect .lbrack
    incLev
    let mut list : Array Expr := #[]
    for _ in [0:← bound] do
      let t := (← get).tok
      if t == .rbrack || t == .eof then break
      list := list.push (← parseType n)
      if !(← atComma "type argument list" .rbrack) then break
      next
    decLev
    let closing ← expectClosing .rbrack "type argument list"
    if list.isEmpty then
      errorExpected closing "type argument list"
      return .index typ opening (.bad (opening + 1) closing) closing
    return packIndexExpr typ opening list.toList closing

/-- Reads a type if one starts here. -/
def tryIdentOrType : Nat → Parse (Option Expr)
  | 0 => throw ()
  | n + 1 => do
    let s ← get
    match s.tok with
    | .ident =>
      let typ ← parseTypeName none
      if (← get).tok == .lbrack then return some (← parseTypeInstance n typ)
      return some typ
    | .lbrack =>
      let lbrack ← expect .lbrack
      return some (← parseArrayType n lbrack none)
    | .kwStruct => return some (← parseStructType n)
    | .mul => return some (← parsePointerType n)
    | .kwFunc => return some (.func (← parseFuncType n))
    | .kwInterface => return some (← parseInterfaceType n)
    | .kwMap => return some (← parseMapType n)
    | .kwChan | .arrow => return some (← parseChanType n)
    | .lparen =>
      next
      let typ ← parseType n
      let rparen ← expect .rparen
      return some (.paren s.pos typ rparen)
    | _ => return none

/-- Reads statements up to a `case`, `default`, closing brace or the end. -/
def parseStmtList : Nat → Parse (List Stmt)
  | 0 => throw ()
  | n + 1 => do
    inCtx "stmt" do
      let mut list : Array Stmt := #[]
      for _ in [0:← bound] do
        let t := (← get).tok
        if t == .kwCase || t == .kwDefault || t == .rbrace || t == .eof then break
        list := list.push (← parseStmt n)
      return list.toList

/-- Reads a braced block of statements. -/
def parseBlockStmt : Nat → Parse Block
  | 0 => throw ()
  | n + 1 => do
    let lbrace ← expect .lbrace
    let list ← parseStmtList n
    let rbrace ← expect2 .rbrace
    return .mk lbrace list rbrace

/-- Reads a function type, or a function literal when a body follows. -/
def parseFuncTypeOrLit : Nat → Parse Expr
  | 0 => throw ()
  | n + 1 => do
    let sig ← parseFuncType n
    if (← get).tok != .lbrace then return .func sig
    incLev
    let body ← parseBlockStmt n
    decLev
    return .funcLit sig body

/-- Reads an operand: a name, a literal, a parenthesised expression, a function literal or a
type. -/
def parseOperand : Nat → Parse Expr
  | 0 => throw ()
  | n + 1 => do
    let s ← get
    match s.tok with
    | .ident => return .ident (← parseIdent)
    | .int | .float | .imag | .char | .string =>
      next
      return .basic s.pos s.tok s.lit
    | .lparen =>
      next
      incLev
      let x ← parseRhs n
      decLev
      let rparen ← expect .rparen
      return .paren s.pos x rparen
    | .kwFunc => parseFuncTypeOrLit n
    | _ =>
      match ← tryIdentOrType n with
      | some t => return t
      | none =>
        errorExpected s.pos "operand"
        advance stmtStart
        return .bad s.pos (← get).pos

/-- Reads a type assertion `.(T)` or a type switch guard `.(type)` after the dot. -/
def parseTypeAssertion : Nat → Expr → Parse Expr
  | 0, _ => throw ()
  | n + 1, x => do
    let lparen ← expect .lparen
    let typ ← if (← get).tok == .kwType then do
        next
        pure none
      else some <$> parseType n
    let rparen ← expect .rparen
    return .typeAssert x lparen typ rparen

/-- Reads an index, slice or instantiation after an operand. -/
def parseIndexOrSliceOrInstance : Nat → Expr → Parse Expr
  | 0, _ => throw ()
  | n + 1, x => do
    let lbrack ← expect .lbrack
    let s ← get
    if s.tok == .rbrack then
      errorExpected s.pos "operand"
      next
      return .index x lbrack (.bad s.pos s.pos) s.pos
    incLev
    let mut args : Array Expr := #[]
    let mut i0 : Option Expr := none
    let mut i1 : Option Expr := none
    let mut i2 : Option Expr := none
    let mut c0 := 0
    let mut c1 := 0
    if (← get).tok != .colon then i0 := some (← parseRhs n)
    let mut ncolons := 0
    match (← get).tok with
    | .colon =>
      for _ in [0:3] do
        let s ← get
        if !(s.tok == .colon && ncolons < 2) then break
        if ncolons == 0 then c0 := s.pos else c1 := s.pos
        ncolons := ncolons + 1
        next
        let t := (← get).tok
        if t != .colon && t != .rbrack && t != .eof then
          let e ← parseRhs n
          if ncolons == 1 then i1 := some e else i2 := some e
    | .comma =>
      args := args.push (i0.getD (.bad 0 0))
      for _ in [0:← bound] do
        if (← get).tok != .comma then break
        next
        let t := (← get).tok
        if t != .rbrack && t != .eof then args := args.push (← parseType n)
    | _ => pure ()
    decLev
    let rbrack ← expect .rbrack
    if ncolons > 0 then
      let mut slice3 := false
      if ncolons == 2 then
        slice3 := true
        if i1.isNone then
          error c0 "middle index required in 3-index slice"
          i1 := some (.bad (c0 + 1) c1)
        if i2.isNone then
          error c1 "final index required in 3-index slice"
          i2 := some (.bad (c1 + 1) rbrack)
      return .slice x lbrack i0 i1 i2 slice3 rbrack
    if args.isEmpty then return .index x lbrack (i0.getD (.bad 0 0)) rbrack
    return packIndexExpr x lbrack args.toList rbrack

/-- Reads the arguments of a call or conversion. -/
def parseCallOrConversion : Nat → Expr → Parse Expr
  | 0, _ => throw ()
  | n + 1, fn => do
    let lparen ← expect .lparen
    incLev
    let mut list : Array Expr := #[]
    let mut ellipsis := 0
    for _ in [0:← bound] do
      let t := (← get).tok
      if !(t != .rparen && t != .eof && ellipsis == 0) then break
      list := list.push (← parseRhs n)
      let s ← get
      if s.tok == .ellipsis then
        ellipsis := s.pos
        next
      if !(← atComma "argument list" .rparen) then break
      next
    decLev
    let rparen ← expectClosing .rparen "argument list"
    return .call fn lparen list.toList ellipsis rparen

/-- Reads an element value of a composite literal. -/
def parseValue : Nat → Parse Expr
  | 0 => throw ()
  | n + 1 => do
    if (← get).tok == .lbrace then parseLiteralValue n none else parseExpr n

/-- Reads an element of a composite literal, possibly keyed. -/
def parseElement : Nat → Parse Expr
  | 0 => throw ()
  | n + 1 => do
    let x ← parseValue n
    let s ← get
    if s.tok == .colon then
      next
      let v ← parseValue n
      return .keyValue x s.pos v
    return x

/-- Reads the elements of a composite literal. -/
def parseElementList : Nat → Parse (List Expr)
  | 0 => throw ()
  | n + 1 => do
    let mut list : Array Expr := #[]
    for _ in [0:← bound] do
      let t := (← get).tok
      if t == .rbrace || t == .eof then break
      list := list.push (← parseElement n)
      if !(← atComma "composite literal" .rbrace) then break
      next
    return list.toList

/-- Reads the braced body of a composite literal of the given type. -/
def parseLiteralValue : Nat → Option Expr → Parse Expr
  | 0, _ => throw ()
  | n + 1, typ => do
    let lbrace ← expect .lbrace
    incLev
    let elts ← if (← get).tok != .rbrace then parseElementList n else pure []
    decLev
    let rbrace ← expectClosing .rbrace "composite literal"
    return .composite typ lbrace elts rbrace

/-- Reads a primary expression: an operand followed by selectors, indexes, slices, type
assertions, calls and composite literal bodies. -/
def parsePrimaryExpr : Nat → Option Expr → Parse Expr
  | 0, _ => throw ()
  | n + 1, x => do
    let mut x ← match x with
      | some e => pure e
      | none => parseOperand n
    for _ in [0:← bound] do
      match (← get).tok with
      | .period =>
        next
        let s ← get
        match s.tok with
        | .ident => x := .selector x (← parseIdent)
        | .lparen => x ← parseTypeAssertion n x
        | _ =>
          errorExpected s.pos "selector or type assertion"
          if s.tok != .rbrace then next
          x := .selector x ⟨s.pos, "_"⟩
      | .lbrack => x ← parseIndexOrSliceOrInstance n x
      | .lparen => x ← parseCallOrConversion n x
      | .lbrace =>
        let t := x.unparen
        let lev := (← get).exprLev
        let literal := match t with
          | .bad .. | .ident _ | .selector .. | .index .. | .indexList .. => lev ≥ 0
          | .array .. | .struct .. | .map .. => true
          | _ => false
        if !literal then return x
        match x with
        | .paren .. => error t.pos "cannot parenthesize type in composite literal"
        | _ => pure ()
        x ← parseLiteralValue n (some x)
      | _ => return x
    return x

/-- Reads a unary expression; `<-` before a channel type makes a receive-only channel type. -/
def parseUnaryExpr : Nat → Parse Expr
  | 0 => throw ()
  | n + 1 => do
    let s ← get
    match s.tok with
    | .add | .sub | .not | .xor | .and | .tilde =>
      next
      let x ← parseUnaryExpr n
      return .unary s.pos s.tok x
    | .arrow =>
      next
      let x ← parseUnaryExpr n
      match x with
      | .chan .. => reassociate n s.pos x
      | _ => return .unary s.pos .arrow x
    | .mul =>
      next
      let x ← parseUnaryExpr n
      return .star s.pos x
    | _ => parsePrimaryExpr n none

/-- Reads a binary expression whose operators bind at least as tightly as `prec1`, starting
from `x` when it is given. On a right-hand side `=` reads as `==` (and is an error). -/
def parseBinaryExpr : Nat → Option Expr → Nat → Parse Expr
  | 0, _, _ => throw ()
  | n + 1, x, prec1 => do
    let mut x ← match x with
      | some e => pure e
      | none => parseUnaryExpr n
    for _ in [0:← bound] do
      let s ← get
      let op := if s.inRhs && s.tok == .assign then Tok.eql else s.tok
      let oprec := op.precedence
      if oprec < prec1 || oprec == 0 then return x
      let pos ← expect op
      let y ← parseBinaryExpr n none (oprec + 1)
      x := .binary x pos op y
    return x

/-- Reads an expression. -/
def parseExpr : Nat → Parse Expr
  | 0 => throw ()
  | n + 1 => parseBinaryExpr n none 1

/-- Reads an expression on a right-hand side. -/
def parseRhs : Nat → Parse Expr
  | 0 => throw ()
  | n + 1 => do
    let old := (← get).inRhs
    modify fun s => { s with inRhs := true }
    let x ← parseExpr n
    modify fun s => { s with inRhs := old }
    return x

/-- Reads expressions separated by commas, on a right-hand side or not. -/
def parseList : Nat → Bool → Parse (List Expr)
  | 0, _ => throw ()
  | n + 1, inRhs => do
    let old := (← get).inRhs
    modify fun s => { s with inRhs := inRhs }
    let mut list := #[← parseExpr n]
    for _ in [0:← bound] do
      if (← get).tok != .comma then break
      next
      list := list.push (← parseExpr n)
    modify fun s => { s with inRhs := old }
    return list.toList

/-- Reads a simple statement; the flag tells a range clause was read. -/
def parseSimpleStmt : Nat → SimpleMode → Parse (Stmt × Bool)
  | 0, _ => throw ()
  | n + 1, mode => do
    let x ← parseList n false
    let s ← get
    match s.tok with
    | .define | .assign | .addAssign | .subAssign | .mulAssign | .quoAssign | .remAssign
    | .andAssign | .orAssign | .xorAssign | .shlAssign | .shrAssign | .andNotAssign =>
      next
      let r ← get
      if mode == .rangeOk && r.tok == .kwRange && (s.tok == .define || s.tok == .assign) then
        next
        let e ← parseRhs n
        return (.assign x s.pos s.tok [.unary r.pos .kwRange e], true)
      let y ← parseList n true
      return (.assign x s.pos s.tok y, false)
    | _ => pure ()
    let x0 := x.headD (.bad 0 0)
    if x.length > 1 then errorExpected x0.pos "1 expression"
    let s ← get
    match s.tok with
    | .colon =>
      next
      match x0 with
      | .ident label =>
        if mode == .labelOk then
          let st ← parseStmt n
          return (.labeled label s.pos st, false)
      | _ => pure ()
      error s.pos "illegal label declaration"
      return (.bad x0.pos (s.pos + 1), false)
    | .arrow =>
      next
      let y ← parseRhs n
      return (.send x0 s.pos y, false)
    | .inc | .dec =>
      next
      return (.incDec x0 s.pos s.tok, false)
    | _ => return (.expr x0, false)

/-- Reads the call of a `go` or `defer` statement. -/
def parseCallExpr : Nat → String → Parse (Option Expr)
  | 0, _ => throw ()
  | n + 1, callType => do
    let x ← parseRhs n
    let t := x.unparen
    let x ← match x with
      | .paren .. => do
        error x.pos ("expression in " ++ callType ++ " must not be parenthesized")
        pure t
      | _ => pure x
    match x with
    | .call .. => return some x
    | .bad .. => return none
    | _ =>
      error (← safePos x.end) ("expression in " ++ callType ++ " must be function call")
      return none

/-- Reads the header of an `if` statement: an optional simple statement and the condition. -/
def parseIfHeader : Nat → Parse (Option Stmt × Expr)
  | 0 => throw ()
  | n + 1 => do
    let s ← get
    if s.tok == .lbrace then
      error s.pos "missing condition in if statement"
      return (none, .bad s.pos s.pos)
    let prevLev := s.exprLev
    modify fun s => { s with exprLev := -1 }
    let mut init : Option Stmt := none
    if (← get).tok != .semicolon then
      if (← get).tok == .kwVar then
        next
        error (← get).pos "var declaration not allowed in if initializer"
      init := some (← parseSimpleStmt n .basic).1
    let mut condStmt : Option Stmt := none
    let mut semiPos := 0
    let mut semiLit := ""
    if (← get).tok != .lbrace then
      let s ← get
      if s.tok == .semicolon then
        semiPos := s.pos
        semiLit := s.lit
        next
      else
        discard <| expect .semicolon
      if (← get).tok != .lbrace then
        condStmt := some (← parseSimpleStmt n .basic).1
    else
      condStmt := init
      init := none
    let mut cond : Option Expr := none
    if condStmt.isSome then
      cond ← makeExpr condStmt "boolean expression"
    else if semiPos != 0 then
      if semiLit == "\n" then error semiPos "unexpected newline, expected \x7b after if clause"
      else error semiPos "missing condition in if statement"
    let p := (← get).pos
    modify fun s => { s with exprLev := prevLev }
    return (init, cond.getD (.bad p p))

/-- Reads an `if` statement. -/
def parseIfStmt : Nat → Parse Stmt
  | 0 => throw ()
  | n + 1 => do
    let pos ← expect .kwIf
    let (init, cond) ← parseIfHeader n
    let body ← parseBlockStmt n
    let mut els : Option Stmt := none
    if (← get).tok == .kwElse then
      next
      let s ← get
      match s.tok with
      | .kwIf => els := some (← parseIfStmt n)
      | .lbrace =>
        els := some (.block (← parseBlockStmt n))
        discard expectSemi
      | _ =>
        errorExpected s.pos "if statement or block"
        els := some (.bad s.pos s.pos)
    else
      discard expectSemi
    return .ifStmt pos init cond body els

/-- Reads a `case` or `default` clause of an expression or type switch. -/
def parseCaseClause : Nat → Parse Stmt
  | 0 => throw ()
  | n + 1 => do
    let pos := (← get).pos
    let mut list : List Expr := []
    if (← get).tok == .kwCase then
      next
      list ← parseList n true
    else
      discard <| expect .kwDefault
    let colon ← expect .colon
    let body ← parseStmtList n
    return .caseClause pos list colon body

/-- Reads a `switch` statement. -/
def parseSwitchStmt : Nat → Parse Stmt
  | 0 => throw ()
  | n + 1 => do
    let pos ← expect .kwSwitch
    let mut s1 : Option Stmt := none
    let mut s2 : Option Stmt := none
    if (← get).tok != .lbrace then
      let prevLev := (← get).exprLev
      modify fun s => { s with exprLev := -1 }
      if (← get).tok != .semicolon then
        s2 := some (← parseSimpleStmt n .basic).1
      if (← get).tok == .semicolon then
        next
        s1 := s2
        s2 := none
        if (← get).tok != .lbrace then
          s2 := some (← parseSimpleStmt n .basic).1
      modify fun s => { s with exprLev := prevLev }
    let typeSwitch ← isTypeSwitchGuard s2
    let lbrace ← expect .lbrace
    let mut list : Array Stmt := #[]
    for _ in [0:← bound] do
      let t := (← get).tok
      if !(t == .kwCase || t == .kwDefault) then break
      list := list.push (← parseCaseClause n)
    let rbrace ← expect .rbrace
    discard expectSemi
    let body := Block.mk lbrace list.toList rbrace
    if typeSwitch then
      return .typeSwitch pos s1 (s2.getD (.bad 0 0)) body
    let tag ← makeExpr s2 "switch expression"
    return .switchStmt pos s1 tag body

/-- Reads a clause of a `select` statement. -/
def parseCommClause : Nat → Parse Stmt
  | 0 => throw ()
  | n + 1 => do
    let pos := (← get).pos
    let mut comm : Option Stmt := none
    if (← get).tok == .kwCase then
      next
      let lhs ← parseList n false
      let lhs0 := lhs.headD (.bad 0 0)
      let s ← get
      if s.tok == .arrow then
        if lhs.length > 1 then errorExpected lhs0.pos "1 expression"
        next
        let rhs ← parseRhs n
        comm := some (.send lhs0 s.pos rhs)
      else if s.tok == .assign || s.tok == .define then
        let mut lhs := lhs
        if lhs.length > 2 then
          errorExpected lhs0.pos "1 or 2 expressions"
          lhs := lhs.take 2
        next
        let rhs ← parseRhs n
        comm := some (.assign lhs s.pos s.tok [rhs])
      else
        if lhs.length > 1 then errorExpected lhs0.pos "1 expression"
        comm := some (.expr lhs0)
    else
      discard <| expect .kwDefault
    let colon ← expect .colon
    let body ← parseStmtList n
    return .commClause pos comm colon body

/-- Reads a `select` statement. -/
def parseSelectStmt : Nat → Parse Stmt
  | 0 => throw ()
  | n + 1 => do
    let pos ← expect .kwSelect
    let lbrace ← expect .lbrace
    let mut list : Array Stmt := #[]
    for _ in [0:← bound] do
      let t := (← get).tok
      if !(t == .kwCase || t == .kwDefault) then break
      list := list.push (← parseCommClause n)
    let rbrace ← expect .rbrace
    discard expectSemi
    return .select pos (.mk lbrace list.toList rbrace)

/-- Reads a `for` statement, with a three-part header or a range clause. -/
def parseForStmt : Nat → Parse Stmt
  | 0 => throw ()
  | n + 1 => do
    let pos ← expect .kwFor
    let mut s1 : Option Stmt := none
    let mut s2 : Option Stmt := none
    let mut s3 : Option Stmt := none
    let mut isRange := false
    if (← get).tok != .lbrace then
      let prevLev := (← get).exprLev
      modify fun s => { s with exprLev := -1 }
      if (← get).tok != .semicolon then
        let s ← get
        if s.tok == .kwRange then
          next
          let e ← parseRhs n
          s2 := some (.assign [] 0 .illegal [.unary s.pos .kwRange e])
          isRange := true
        else
          let (st, r) ← parseSimpleStmt n .rangeOk
          s2 := some st
          isRange := r
      if !isRange && (← get).tok == .semicolon then
        next
        s1 := s2
        s2 := none
        if (← get).tok != .semicolon then
          s2 := some (← parseSimpleStmt n .basic).1
        discard expectSemi
        if (← get).tok != .lbrace then
          s3 := some (← parseSimpleStmt n .basic).1
      modify fun s => { s with exprLev := prevLev }
    let body ← parseBlockStmt n
    discard expectSemi
    if isRange then
      match s2 with
      | some (.assign lhs tokPos tok [.unary rangePos _ x]) =>
        match lhs with
        | [] => return .range pos none none tokPos tok rangePos x body
        | [k] => return .range pos (some k) none tokPos tok rangePos x body
        | [k, v] => return .range pos (some k) (some v) tokPos tok rangePos x body
        | _ =>
          errorExpected ((lhs.getLast?.map Expr.pos).getD 0) "at most 2 expressions"
          return .bad pos (← safePos body.end)
      | _ => return .bad pos (← safePos body.end)
    let cond ← makeExpr s2 "boolean or range expression"
    return .forStmt pos s1 cond s3 body

/-- Reads a statement. -/
def parseStmt : Nat → Parse Stmt
  | 0 => throw ()
  | n + 1 => do
    let s ← get
    match s.tok with
    | .kwConst | .kwType | .kwVar => return .decl (← parseDecl n stmtStart)
    | .ident | .int | .float | .imag | .char | .string | .kwFunc | .lparen | .lbrack
    | .kwStruct | .kwMap | .kwChan | .kwInterface | .add | .sub | .mul | .and | .xor
    | .arrow | .not =>
      let (st, _) ← parseSimpleStmt n .labelOk
      match st with
      | .labeled .. => pure ()
      | _ => discard expectSemi
      return st
    | .kwGo =>
      let pos ← expect .kwGo
      let call ← parseCallExpr n "go"
      discard expectSemi
      match call with
      | some c => return .go pos c
      | none => return .bad pos (pos + 2)
    | .kwDefer =>
      let pos ← expect .kwDefer
      let call ← parseCallExpr n "defer"
      discard expectSemi
      match call with
      | some c => return .defer pos c
      | none => return .bad pos (pos + 5)
    | .kwReturn =>
      discard <| expect .kwReturn
      let t := (← get).tok
      let x ← if t != .semicolon && t != .rbrace then parseList n true else pure []
      discard expectSemi
      return .ret s.pos x
    | .kwBreak | .kwContinue | .kwGoto | .kwFallthrough =>
      let pos ← expect s.tok
      let mut label : Option Ident := none
      if s.tok != .kwFallthrough && (← get).tok == .ident then
        label := some (← parseIdent)
      discard expectSemi
      return .branch pos s.tok label
    | .lbrace =>
      let b ← parseBlockStmt n
      discard expectSemi
      return .block b
    | .kwIf => parseIfStmt n
    | .kwSwitch => parseSwitchStmt n
    | .kwSelect => parseSelectStmt n
    | .kwFor => parseForStmt n
    | .semicolon =>
      next
      return .empty s.pos (s.lit == "\n")
    | .rbrace => return .empty s.pos true
    | _ =>
      errorExpected s.pos "statement"
      advance stmtStart
      return .bad s.pos (← get).pos

/-- Reads a constant or variable specification. -/
def parseValueSpec : Nat → Option CommentGroup → Tok → Parse Spec
  | 0, _, _ => throw ()
  | n + 1, doc, keyword => do
    let idents ← parseIdentList
    let mut typ : Option Expr := none
    let mut values : List Expr := []
    if keyword == .kwConst then
      let t := (← get).tok
      if t != .eof && t != .semicolon && t != .rparen then
        typ ← tryIdentOrType n
        if (← get).tok == .assign then
          next
          values ← parseList n true
    else
      if (← get).tok != .assign then typ := some (← parseType n)
      if (← get).tok == .assign then
        next
        values ← parseList n true
    let comment ← expectSemi
    return .value doc idents typ values comment

/-- Reads a type specification, telling a type parameter list from an array length. -/
def parseTypeSpec : Nat → Option CommentGroup → Parse Spec
  | 0, _ => throw ()
  | n + 1, doc => do
    let name ← parseIdent
    let s ← get
    let (tparams, assign, typ) : Option FieldList × Nat × Expr ←
      if s.tok == .lbrack then do
        let lbrack := s.pos
        next
        if (← get).tok == .ident then
          let mut x : Expr := .ident (← parseIdent)
          if (← get).tok != .lbrack then
            incLev
            let lhs ← parsePrimaryExpr n (some x)
            x ← parseBinaryExpr n (some lhs) 1
            decLev
          let t := (← get).tok
          match extractName x (t == .comma) with
          | (some pname, ptype) =>
            if ptype.isSome || t != .rbrack then
              let list ← parseParameterList n (some pname) ptype .rbrack false
              let closePos ← expect .rbrack
              let assign ← skipAssign
              pure (some (.mk lbrack list closePos), assign, ← parseType n)
            else pure (none, 0, ← parseArrayType n lbrack (some x))
          | (none, _) => pure (none, 0, ← parseArrayType n lbrack (some x))
        else pure (none, 0, ← parseArrayType n lbrack none)
      else do
        let assign ← skipAssign
        pure (none, assign, ← parseType n)
    let comment ← expectSemi
    return .typeSpec doc name tparams assign typ comment

/-- Reads one specification of a declaration introduced by `keyword`. -/
def parseSpec : Nat → Tok → Option CommentGroup → Parse Spec
  | 0, _, _ => throw ()
  | n + 1, keyword, doc =>
    match keyword with
    | .kwImport => parseImportSpec doc
    | .kwType => parseTypeSpec n doc
    | _ => parseValueSpec n doc keyword

/-- Reads an `import`, `const`, `type` or `var` declaration, grouped in parentheses or not. -/
def parseGenDecl : Nat → Tok → Parse Decl
  | 0, _ => throw ()
  | n + 1, keyword => do
    let doc := (← get).leadComment
    let pos ← expect keyword
    let s ← get
    if s.tok == .lparen then
      next
      let list ← inCtx "group" do
        let mut list : Array Spec := #[]
        for _ in [0:← bound] do
          let t := (← get).tok
          if t == .rparen || t == .eof then break
          list := list.push (← parseSpec n keyword (← get).leadComment)
        pure list
      let rparen ← expect .rparen
      discard expectSemi
      return .gen doc pos keyword s.pos list.toList rparen
    let sp ← parseSpec n keyword none
    return .gen doc pos keyword 0 [sp] 0

/-- Reads a function or method declaration. -/
def parseFuncDecl : Nat → Parse Decl
  | 0 => throw ()
  | n + 1 => do
    let doc := (← get).leadComment
    let pos ← expect .kwFunc
    let mut recv : Option FieldList := none
    if (← get).tok == .lparen then
      recv := some (← parseParameters n false false).2
    let ident ← parseIdent
    let (tparams, params) ← parseParameters n true true
    let mut tparams := tparams
    match recv, tparams with
    | some _, some tp =>
      error tp.opening "method must have no type parameters"
      tparams := none
    | _, _ => pure ()
    let results ← parseResult n
    let mut body : Option Block := none
    match (← get).tok with
    | .lbrace =>
      body := some (← parseBlockStmt n)
      discard expectSemi
    | .semicolon =>
      next
      if (← get).tok == .lbrace then
        error (← get).pos "unexpected semicolon or newline before \x7b"
        body := some (← parseBlockStmt n)
        discard expectSemi
    | _ => discard expectSemi
    return .func doc recv ident (.mk pos tparams params results) body

/-- Reads a declaration; after an error recovery resumes at a token of `sync`. -/
def parseDecl : Nat → (Tok → Bool) → Parse Decl
  | 0, _ => throw ()
  | n + 1, sync => do
    let s ← get
    match s.tok with
    | .kwImport | .kwConst | .kwVar | .kwType => parseGenDecl n s.tok
    | .kwFunc => parseFuncDecl n
    | _ =>
      errorExpected s.pos "declaration"
      advance sync
      return .bad s.pos (← get).pos

end

/-- Reads a whole file: the package clause, the imports, then the other declarations. An
error in the first token or the package clause stops the parse there, with no tree. -/
def parseFileBody (fuel : Nat) : Parse (Option File) := do
  if (← get).errors.size != 0 then return none
  let doc := (← get).leadComment
  let pos ← expect .kwPackage
  let ident ← parseIdent
  discard expectSemi
  if (← get).errors.size != 0 then return none
  let mut decls : Array Decl := #[]
  for _ in [0:← bound] do
    if (← get).tok != .kwImport then break
    decls := decls.push (← parseGenDecl fuel .kwImport)
  let mut prev := Tok.kwImport
  for _ in [0:← bound] do
    let s ← get
    if s.tok == .eof then break
    if s.tok == .kwImport && prev != .kwImport then
      error s.pos "imports must appear before other declarations"
    prev := s.tok
    decls := decls.push (← parseDecl fuel declStart)
  let s ← get
  return some
    { doc, packagePos := pos, name := ident, decls := decls.toList, imports := s.imports.toList,
      comments := s.comments.toList, fileEnd := s.lines.size + 1 }

end Parse

/-- The outcome of parsing a file: the tree (none when the package clause is broken), the
errors in the order they were recorded, the comments and the line table; then the first
error of the parser itself and the errors of the scanner. -/
structure Parsed where
  file : Option File
  errors : List (Nat × String)
  lines : Lines
  comments : List CommentGroup
  first : Option FirstError := none
  scanErrors : List (Nat × String) := []

/-- Parses a source text; with `allErrors`, every error found is kept. -/
def parseFile (text : String) (allErrors : Bool := false) : Parsed :=
  let src := Source.ofString text
  let (toks, directives) := scanTokens src
  let lines := { Lines.ofText text with directives }
  let fuel := 8 * toks.size + 100
  let st : ParseState := { toks, lines, allErrors }
  match (do Parse.next; Parse.parseFileBody fuel : Parse (Option File)).run st with
  | .ok f s => ⟨f, s.errors.toList, lines, s.comments.toList, s.first, s.scanErrors.toList⟩
  | .error _ s => ⟨none, s.errors.toList, lines, s.comments.toList, s.first, s.scanErrors.toList⟩

/-- The file of a parse, or an empty one when the package clause is broken. -/
def Parsed.fileOrEmpty (p : Parsed) : File :=
  p.file.getD ⟨none, 0, ⟨0, ""⟩, [], [], [], 0⟩

/-- One syntax error with its place: the file a line directive names (none for the file
itself), the line and the column. -/
structure SyntaxError where
  file : Option String
  line : Nat
  column : Nat
  msg : String
  deriving DecidableEq, Inhabited

/-- Error order, for a file read at `path`: by file name, then line, then column, then
message. -/
def SyntaxError.before (path : String) (a b : SyntaxError) : Bool :=
  let fa := directiveFileName path a.file
  let fb := directiveFileName path b.file
  decide (fa < fb) || (fa == fb && (a.line < b.line || (a.line == b.line &&
    (a.column < b.column || (a.column == b.column && decide (a.msg < b.msg))))))

/-- The errors of a parse of the file at `path`, ordered by place. -/
def Parsed.sortedErrors (p : Parsed) (path : String) : List SyntaxError :=
  let errs := p.errors.map fun (pos, msg) =>
    let (file, line, column) := p.lines.place pos
    (⟨file, line, column, msg⟩ : SyntaxError)
  errs.mergeSort fun a b => !(SyntaxError.before path b a)

/-- How one error of the file at `path` is shown: `file:line:column: message`, without the
file when it has no name and without the column when it is unknown. -/
def SyntaxError.text (path : String) (e : SyntaxError) : String :=
  let file := directiveFileName path e.file
  let place :=
    if e.line == 0 then (if file == "" then "-" else file)
    else
      let lc := toString e.line ++ (if e.column != 0 then ":" ++ toString e.column else "")
      if file == "" then lc else file ++ ":" ++ lc
  if file != "" || e.line != 0 then place ++ ": " ++ e.msg else e.msg

/-- How a list of errors is shown: the first, and how many more there are. -/
def errorListText (path : String) : List SyntaxError → String
  | [] => "no errors"
  | [e] => e.text path
  | e :: rest => e.text path ++ " (and " ++ toString rest.length ++ " more errors)"

end StaticWrap.GoSource
