import StaticWrap.GoSource.PrintCore
import StaticWrap.GoSource.Parser
import StaticWrap.GoSource.BuildLines
/-!
**Printing Go syntax trees in the canonical layout.**

Each kind of node is printed by its own function, all on one fuel argument (one step per
nested call; the fuel given is more than the depth of any tree read from the source). The
layout follows the source where the language leaves room: line breaks between list elements,
statements and declarations are kept (at most one blank line); everything else is fixed:

* binary operators get blanks around them unless the expression is compact (nested in a call
  with several arguments, an index, ...) and the operator binds more tightly than others in it;
* struct and interface types written on one line stay on one line when they are empty or
  hold one short field (30 characters at most); otherwise one field per line, with names,
  types, tags and comments aligned in columns;
* a function body with at most five statements, written on one line, stays on one line when
  the function header and body fit in 100 characters;
* consecutive elements of a list broken over lines are aligned in columns (keyed elements by
  their keys) unless their sizes differ too much.

Sizes are found by printing the node on its own without alignment (`exprSize`, `stmtSize`).

* `printFileText`: the formatted text of a file.
* `printExprText`: the formatted text of an expression on its own.
-/

namespace StaticWrap.GoSource

namespace Printer

/-- How a parameter list is printed: parameters, type parameters of a function, or type
parameters of a type. -/
inductive ParamMode where
  | funcParam
  | funcTParam
  | typeTParam
  deriving DecidableEq

/-- How an expression list is printed: with a trailing comma when the closing token is on a
later line, and without extra indentation. -/
structure ListMode where
  commaTerm : Bool := false
  noIndent : Bool := false

/-- A number literal with lower-case base prefixes and exponent letters, and without the
leading zeros of an integer imaginary literal. Hexadecimal digits are left alone. -/
def normalizedNumber (kind : Tok) (v : String) : String :=
  if !(kind == .int || kind == .float || kind == .imag) then v
  else
    let cs := v.toList
    if cs.length < 2 then v
    else
      let replaceLast (cs : List Char) (a b : Char) : Option (List Char) :=
        match (cs.reverse.findIdx? (· == a)) with
        | some k =>
          let i := cs.length - 1 - k
          some (cs.take i ++ [b] ++ cs.drop (i + 1))
        | none => none
      match cs with
      | '0' :: 'X' :: rest =>
        let x := '0' :: 'x' :: rest
        String.ofList ((replaceLast x 'P' 'p').getD x)
      | '0' :: 'x' :: _ =>
        match replaceLast cs 'P' 'p' with
        | some x => String.ofList x
        | none => v
      | '0' :: 'O' :: rest => String.ofList ('0' :: 'o' :: rest)
      | '0' :: 'o' :: _ => v
      | '0' :: 'B' :: rest => String.ofList ('0' :: 'b' :: rest)
      | '0' :: 'b' :: _ => v
      | _ =>
        match replaceLast cs 'E' 'e' with
        | some x => String.ofList x
        | none =>
          if cs.getLast? == some 'i' && !cs.contains '.' && !cs.contains 'e' then
            let x := cs.dropWhile (fun c => c == '0' || c == '_')
            if x == ['i'] then "0i" else String.ofList x
          else v

/-- Looks through a binary expression (not into parenthesised parts) for operators of
precedence 4 and 5, and for operator pairs that would run together without blanks
(`/*`, `&&`, `&^` need precedence 6, `++`, `--` need 5). -/
def walkBinary : Expr → Bool × Bool × Nat
  | .binary x _ op y =>
    let prec := op.precedence
    let has4 := prec == 4
    let has5 := prec == 5
    let (has4, has5, mp) := match x with
      | .binary _ _ lop _ =>
        if lop.precedence < prec then (has4, has5, 0)
        else
          let (h4, h5, m) := walkBinary x
          (has4 || h4, has5 || h5, m)
      | _ => (has4, has5, 0)
    match y with
    | .binary _ _ rop _ =>
      if rop.precedence ≤ prec then (has4, has5, mp)
      else
        let (h4, h5, m) := walkBinary y
        (has4 || h4, has5 || h5, max mp m)
    | .star .. => (has4, has5, if op == .quo then 5 else mp)
    | .unary _ rop _ =>
      let pair := op.text ++ rop.text
      if pair == "/*" || pair == "&&" || pair == "&^" then (has4, has5, 5)
      else if pair == "++" || pair == "--" then (has4, has5, max mp 4)
      else (has4, has5, mp)
    | _ => (has4, has5, mp)
  | _ => (false, false, 0)

/-- The precedence from which operators of a binary expression get blanks around them. -/
def cutoffOf (e : Expr) (depth : Nat) : Nat :=
  let (has4, has5, maxProblem) := walkBinary e
  if maxProblem > 0 then maxProblem + 1
  else if has4 && has5 then (if depth == 1 then 5 else 4)
  else if depth == 1 then 6 else 4

/-- 0 when an operand is a binary expression of the same precedence, 1 otherwise. -/
def diffPrec (x : Expr) (prec : Nat) : Nat :=
  match x with
  | .binary _ _ op _ => if op.precedence == prec then 0 else 1
  | _ => 1

/-- One level of depth less, but at least 1. -/
def reduceDepth (depth : Nat) : Nat := if depth ≤ 1 then 1 else depth - 1

/-- The expression inside all its parentheses. -/
def stripParensAlways : Expr → Expr
  | .paren _ x _ => stripParensAlways x
  | x => x

/-- Whether an expression is a (qualified) name. -/
def isTypeName : Expr → Bool
  | .ident _ => true
  | .selector x _ => isTypeName x
  | _ => false

mutual

/-- Whether an expression holds, outside parentheses, a composite literal whose type is a
name: parentheses around such an expression in a control clause must stay. -/
def hasNamedLiteral : Expr → Bool
  | .paren .. => false
  | .composite (some t) _ _ _ => isTypeName t
  | .composite none _ _ _ => false
  | .selector x _ | .star _ x | .unary _ _ x | .typeAssert x _ _ _ => hasNamedLiteral x
  | .index x _ i _ => hasNamedLiteral x || hasNamedLiteral i
  | .indexList x _ l _ => hasNamedLiteral x || anyNamedLiteral l
  | .slice x _ a b c _ _ =>
    hasNamedLiteral x || optNamedLiteral a || optNamedLiteral b || optNamedLiteral c
  | .call f _ args _ _ => hasNamedLiteral f || anyNamedLiteral args
  | .binary x _ _ y | .keyValue x _ y => hasNamedLiteral x || hasNamedLiteral y
  | _ => false

/-- Whether one of a list of expressions holds such a literal. -/
def anyNamedLiteral : List Expr → Bool
  | [] => false
  | x :: rest => hasNamedLiteral x || anyNamedLiteral rest

/-- Whether an optional expression holds such a literal. -/
def optNamedLiteral : Option Expr → Bool
  | some x => hasNamedLiteral x
  | none => false

end

/-- The expression of a control clause without its parentheses, unless they protect a
composite literal. -/
def stripParens (x : Expr) : Expr :=
  match x with
  | .paren _ inner _ => if hasNamedLiteral inner then x else stripParensAlways inner
  | _ => x

/-- Whether a type parameter's name followed by its constraint would read as an expression
(as `P *T` reads as `P*T`), so that a comma must follow. -/
def combinesWithName : Expr → Bool
  | .star _ x => !Parse.isTypeElem x
  | .binary x _ _ y => combinesWithName x && !Parse.isTypeElem y
  | _ => false

/-- The length of a list of names written with commas, counted up to `maxSize`. -/
def identListSize (list : List Ident) (maxSize : Nat) : Nat := Id.run do
  let mut size := 0
  let mut i := 0
  for x in list do
    if i > 0 then size := size + 2
    size := size + x.name.length
    if size ≥ maxSize then break
    i := i + 1
  return size

/-- For each specification of a grouped `const` or `var` declaration, whether its type column
must be kept: in each run of specifications with values, when one of them has a type. -/
def keepTypeColumn (specs : List Spec) : List Bool := Id.run do
  let n := specs.length
  let mut m := Array.replicate n false
  let mut i0 : Option Nat := none
  let mut keepType := false
  let mut i := 0
  for s in specs do
    let (hasValues, hasType) := match s with
      | .value _ _ t vs _ => (!vs.isEmpty, t.isSome)
      | _ => (false, false)
    if hasValues then
      if i0.isNone then
        i0 := some i
        keepType := false
    else
      match i0 with
      | some a =>
        if keepType then
          for k in [a:i] do m := m.set! k true
        i0 := none
      | none => pure ()
    if hasType then keepType := true
    i := i + 1
  match i0 with
  | some a =>
    if keepType then
      for k in [a:n] do m := m.set! k true
  | none => pure ()
  return m.toList

/-- An import path literal in double quotes, when it is a valid path. -/
def sanitizeImportPath (lit : String) : String :=
  match Text.unquote? lit with
  | some s =>
    let illegal := "!\"#$%&'()*,:;<=>?[\\]^\x7b|\x7d".toList ++ [Text.backQuote, '�']
    if s == "" || s.toList.any (fun c => !Text.isPrint c || Text.isSpace c || illegal.contains c) then lit
    else Text.quote s
  | none => lit

/-- The length of printed text when it fits on one line of at most `maxSize` characters;
`maxSize + 1` otherwise. -/
def measure (text : String) (maxSize : Nat) : Nat :=
  let size := text.utf8ByteSize
  if size ≤ maxSize && !text.toList.contains '\n' then size else maxSize + 1

/-- The number of labels in front of a statement. -/
def labelDepth : Stmt → Nat
  | .labeled _ _ s => labelDepth s + 1
  | _ => 0

/-- Whether a result list looks better indented as a whole: it spans lines and has an element
not starting where the previous one ended, or several elements spanning lines. -/
def indentList (list : List Expr) : PM Bool := do
  if list.length < 2 then return false
  let b ← lineFor (list.headD (.bad 0 0)).pos
  let e ← lineFor (Expr.listEnd list)
  if !(0 < b && b < e) then return false
  let mut n := 0
  let mut line := b
  for x in list do
    let xb ← lineFor x.pos
    let xe ← lineFor x.end
    if line < xb then return true
    if xb < xe then n := n + 1
    line := xe
  return n > 1

mutual

/-- Prints an expression in a context of precedence `prec1` at a given depth (depth above 1
means a compact context). -/
def expr1 : Nat → Expr → Nat → Nat → PM Unit
  | 0, _, _, _ => pure ()
  | n + 1, e, prec1, depth => do
    setPos e.pos
    match e with
    | .bad .. => print (.text "BadExpr")
    | .ident id => print (.ident id.name)
    | .binary x opPos op y =>
      let depth := max depth 1
      binaryExpr n x opPos op y prec1 (cutoffOf e depth) depth
    | .keyValue k colon v =>
      expr1 n k 0 1
      setPos colon
      prints [.tok .colon, .ws .blank]
      expr1 n v 0 1
    | .star _ x =>
      if 6 < prec1 then
        prints [.tok .lparen, .tok .mul]
        expr1 n x 0 1
        printTok .rparen
      else
        printTok .mul
        expr1 n x 0 1
    | .unary _ op x =>
      if 6 < prec1 then
        printTok .lparen
        expr1 n e 0 1
        printTok .rparen
      else
        printTok op
        if op == .kwRange then space .blank
        expr1 n x 6 depth
    | .basic _ kind v =>
      let v := if (← get).normalizeNumbers then normalizedNumber kind v else v
      print (.lit kind v)
    | .funcLit sig body =>
      setPos sig.pos
      printTok .kwFunc
      let startCol : Int := ((← get).out.column : Int) - 4
      signature n sig
      let d ← distanceFrom sig.pos startCol
      funcBody n d .blank body
    | .paren _ x rparen =>
      match x with
      | .paren .. => expr1 n x 0 depth
      | _ =>
        printTok .lparen
        expr1 n x 0 (reduceDepth depth)
        setPos rparen
        printTok .rparen
    | .selector x sel => discard <| selectorExpr n x sel depth false
    | .typeAssert x lparen typ rparen =>
      expr1 n x 7 depth
      printTok .period
      setPos lparen
      printTok .lparen
      match typ with
      | some t => expr1 n t 0 1
      | none => printTok .kwType
      setPos rparen
      printTok .rparen
    | .index x lbrack idx rbrack =>
      expr1 n x 7 1
      setPos lbrack
      printTok .lbrack
      expr1 n idx 0 (depth + 1)
      setPos rbrack
      printTok .rbrack
    | .indexList x lbrack idxs rbrack =>
      expr1 n x 7 1
      setPos lbrack
      printTok .lbrack
      exprList n lbrack idxs (depth + 1) ⟨true, false⟩ rbrack
      setPos rbrack
      printTok .rbrack
    | .slice x lbrack low high mx _ rbrack =>
      expr1 n x 7 1
      setPos lbrack
      printTok .lbrack
      let indices := [low, high] ++ (if mx.isSome then [mx] else [])
      let isBin : Option Expr → Bool := fun i => match i with
        | some (.binary ..) => true
        | _ => false
      let needsBlanks := depth ≤ 1 && (indices.filter Option.isSome).length > 1 && indices.any isBin
      let mut i := 0
      let mut prevSome := false
      for ix in indices do
        if i > 0 then
          if prevSome && needsBlanks then space .blank
          printTok .colon
          if ix.isSome && needsBlanks then space .blank
        match ix with
        | some x => expr1 n x 0 (depth + 1)
        | none => pure ()
        prevSome := ix.isSome
        i := i + 1
      setPos rbrack
      printTok .rbrack
    | .call fn lparen args ellipsis rparen =>
      let depth := if args.length > 1 then depth + 1 else depth
      let paren : Bool := match fn with
        | .func _ => true
        | .chan _ _ dir _ => dir == .recv
        | _ => false
      if paren then printTok .lparen
      let wasIndented ← match fn with
        | .selector x sel => selectorExpr n x sel depth true
        | _ => do
          expr1 n fn 7 depth
          pure false
      if paren then printTok .rparen
      setPos lparen
      printTok .lparen
      if ellipsis != 0 then
        exprList n lparen args depth {} ellipsis
        setPos ellipsis
        printTok .ellipsis
        if rparen != 0 && (← lineFor ellipsis) < (← lineFor rparen) then
          prints [.tok .comma, .ws .formfeed]
      else
        exprList n lparen args depth ⟨true, false⟩ rparen
      setPos rparen
      printTok .rparen
      if wasIndented then space .unindent
    | .composite typ lbrace elts rbrace =>
      match typ with
      | some t => expr1 n t 7 depth
      | none => pure ()
      modify fun p => { p with level := p.level + 1 }
      setPos lbrace
      printTok .lbrace
      exprList n lbrace elts 1 ⟨true, false⟩ rbrace
      let noBlank := !elts.isEmpty
      prints [.ws .indent, .ws .unindent, .toggle noBlank true]
      setPos rbrace
      prints [.tok .rbrace, .toggle noBlank true]
      modify fun p => { p with level := p.level - 1 }
    | .ellipsis _ elt =>
      printTok .ellipsis
      match elt with
      | some t => expr1 n t 0 1
      | none => pure ()
    | .array _ len elt =>
      printTok .lbrack
      match len with
      | some l => expr1 n l 0 1
      | none => pure ()
      printTok .rbrack
      expr1 n elt 0 1
    | .struct _ fields =>
      printTok .kwStruct
      fieldList n fields true
    | .func sig =>
      printTok .kwFunc
      signature n sig
    | .iface _ methods =>
      printTok .kwInterface
      fieldList n methods false
    | .map _ k v =>
      prints [.tok .kwMap, .tok .lbrack]
      expr1 n k 0 1
      printTok .rbrack
      expr1 n v 0 1
    | .chan _ arrow dir v =>
      match dir with
      | .both => printTok .kwChan
      | .recv => prints [.tok .arrow, .tok .kwChan]
      | .send =>
        printTok .kwChan
        setPos arrow
        printTok .arrow
      space .blank
      expr1 n v 0 1

/-- Prints a binary expression with the blanks its cutoff calls for, breaking the line after
the operator where the source does. -/
def binaryExpr : Nat → Expr → Nat → Tok → Expr → Nat → Nat → Nat → PM Unit
  | 0, _, _, _, _, _, _, _ => pure ()
  | n + 1, x, opPos, op, y, prec1, cutoff, depth => do
    let prec := op.precedence
    if prec < prec1 then
      printTok .lparen
      expr1 n (.binary x opPos op y) 0 (reduceDepth depth)
      printTok .rparen
      return
    let mut printBlank := decide (prec < cutoff)
    let mut ws := Space.indent
    expr1 n x prec (depth + diffPrec x prec)
    if printBlank then space .blank
    let xline := (← get).pos.line
    let yline ← lineFor y.pos
    setPos opPos
    printTok op
    if xline != yline && xline > 0 && yline > 0 then
      if (← linebreak yline 1 ws true) > 0 then
        ws := .ignore
        printBlank := false
    if printBlank then space .blank
    expr1 n y (prec + 1) (depth + 1)
    if ws == .ignore then space .unindent

/-- Prints a selector; a line break before the selected name is kept (indented). Tells
whether it was. -/
def selectorExpr : Nat → Expr → Ident → Nat → Bool → PM Bool
  | 0, _, _, _, _ => pure false
  | n + 1, x, sel, depth, isMethod => do
    expr1 n x 7 depth
    printTok .period
    let line ← lineFor sel.pos
    let p ← get
    if p.pos.valid && p.pos.line < line then
      prints [.ws .indent, .ws .newline]
      setPos sel.pos
      print (.ident sel.name)
      if !isMethod then space .unindent
      return true
    setPos sel.pos
    print (.ident sel.name)
    return false

/-- Prints a list of expressions between the tokens at `prev0` and `next0`. On one line when
the source has it on the line of the opening token; otherwise line breaks follow the source,
and elements on successive lines are aligned (keyed ones by key) unless their sizes differ by
too much. -/
def exprList : Nat → Nat → List Expr → Nat → ListMode → Nat → PM Unit
  | 0, _, _, _, _, _ => pure ()
  | n + 1, prev0, list, depth, mode, next0 => do
    let first := match list with
      | x :: _ => x
      | [] => .bad 0 0
    if list.isEmpty then return
    let prev ← posFor prev0
    let next ← posFor next0
    let line0 ← lineFor first.pos
    let endLine ← lineFor (Expr.listEnd list)
    if prev.valid && prev.line == line0 && line0 == endLine then
      let mut i := 0
      for x in list do
        if i > 0 then
          setPos x.pos
          prints [.tok .comma, .ws .blank]
        expr1 n x 0 depth
        i := i + 1
      return
    let mut ws := if mode.noIndent then Space.ignore else .indent
    let mut prevBreak : Int := -1
    if prev.valid && prev.line < line0 then
      if (← linebreak line0 0 ws true) > 0 then
        ws := .ignore
        prevBreak := 0
    let mut size := 0
    let mut lnsum : Float := 0
    let mut count := 0
    let mut prevLine := prev.line
    let mut i := 0
    let lines := (← get).lines
    for x in list do
      let line ← lineFor x.pos
      let mut useFF := true
      let prevSize := size
      size := exprSize n lines x 1000000
      let pair : Option (Expr × Nat × Expr) := match x with
        | .keyValue k c v => some (k, c, v)
        | _ => none
      if size ≤ 1000000 && prev.valid && next.valid then
        match pair with
        | some (k, _, _) => size := exprSize n lines k 1000000
        | none => pure ()
      else size := 0
      if prevSize > 0 && size > 0 then
        if count == 0 || (prevSize ≤ 40 && size ≤ 40) then useFF := false
        else
          let geomean := Float.exp (lnsum / count.toFloat)
          let ratio := size.toFloat / geomean
          useFF := decide (2.5 * ratio ≤ 1) || decide (2.5 ≤ ratio)
      let needsLinebreak := 0 < prevLine && prevLine < line
      if i > 0 then
        if !needsLinebreak then setPos x.pos
        printTok .comma
        let mut needsBlank := true
        if needsLinebreak then
          let nbreaks ← linebreak line 0 ws (useFF || prevBreak + 1 < (i : Int))
          if nbreaks > 0 then
            ws := .ignore
            prevBreak := i
            needsBlank := false
          if nbreaks > 1 then
            lnsum := 0
            count := 0
        if needsBlank then space .blank
      match pair with
      | some (k, colon, v) =>
        if list.length > 1 && size > 0 && needsLinebreak then
          expr1 n k 0 1
          setPos colon
          prints [.tok .colon, .ws .vtab]
          expr1 n v 0 1
        else expr1 n x 0 depth
      | none => expr1 n x 0 depth
      if size > 0 then
        lnsum := lnsum + Float.log size.toFloat
        count := count + 1
      prevLine ← lineFor x.end
      i := i + 1
    if mode.commaTerm && next.valid && (← get).pos.line < next.line then
      printTok .comma
      if ws == .ignore && !mode.noIndent then space .unindent
      space .formfeed
      return
    if ws == .ignore && !mode.noIndent then space .unindent

/-- Prints a list of names; `indent` indents continuation lines. -/
def identList : Nat → List Ident → Bool → PM Unit
  | 0, _, _ => pure ()
  | n + 1, list, indent =>
    exprList n 0 (list.map Expr.ident) 1 ⟨false, !indent⟩ 0

/-- Prints a parameter list in parentheses (brackets for type parameters), keeping the line
breaks of the source between parameters. -/
def parameters : Nat → FieldList → ParamMode → PM Unit
  | 0, _, _ => pure ()
  | n + 1, .mk opening list closing, mode => do
    let (openTok, closeTok) :=
      if mode == .funcParam then (Tok.lparen, Tok.rparen) else (Tok.lbrack, Tok.rbrack)
    setPos opening
    printTok openTok
    if !list.isEmpty then
      let mut prevLine ← lineFor opening
      let mut ws := Space.indent
      let mut i := 0
      for par in list do
        let parLineBeg ← lineFor par.pos
        let parLineEnd ← lineFor par.type.end
        let needsLinebreak := 0 < prevLine && prevLine < parLineBeg
        if i > 0 then
          if !needsLinebreak then setPos par.pos
          printTok .comma
        let mut broke := false
        if needsLinebreak then
          if (← linebreak parLineBeg 0 ws true) > 0 then
            ws := .ignore
            broke := true
        if !broke && i > 0 then space .blank
        if !par.names.isEmpty then
          identList n par.names (ws == .indent)
          space .blank
        expr1 n (stripParensAlways par.type) 0 1
        prevLine := parLineEnd
        i := i + 1
      let closingLine ← lineFor closing
      if 0 < prevLine && prevLine < closingLine then
        printTok .comma
        discard <| linebreak closingLine 0 .ignore true
      else if mode == .typeTParam && (FieldList.mk opening list closing).numFields == 1 then
        match list with
        | [f] => if combinesWithName (stripParensAlways f.type) then printTok .comma
        | _ => pure ()
      if ws == .ignore then space .unindent
    setPos closing
    printTok closeTok

/-- Prints a signature without the `func` keyword: type parameters, parameters, results (a
single unnamed result without parentheses). -/
def signature : Nat → Signature → PM Unit
  | 0, _ => pure ()
  | n + 1, .mk _ tparams params results => do
    match tparams with
    | some tp => parameters n tp .funcTParam
    | none => pure ()
    parameters n params .funcParam
    match results with
    | some res =>
      let nf := res.numFields
      if nf > 0 then
        space .blank
        match res.list with
        | [f] =>
          if nf == 1 && f.names.isEmpty then
            expr1 n (stripParensAlways f.type) 0 1
            return
        | _ => pure ()
        parameters n res .funcParam
    | none => pure ()

/-- Whether a field list is short enough for one line: one field without tag or comment, its
names and type at most 30 characters. -/
def isOneLineFieldList : Nat → List Field → PM Bool
  | 0, _ => pure false
  | n + 1, list => do
    match list with
    | [f] =>
      if f.tag.isSome || f.comment.isSome then return false
      let namesSize := if identListSize f.names 30 > 0 then 1 else 0
      let typeSize := exprSize n (← get).lines f.type 30
      return namesSize + typeSize ≤ 30
    | _ => return false

/-- Prints the braced fields of a struct or the methods of an interface. -/
def fieldList : Nat → FieldList → Bool → PM Unit
  | 0, _, _ => pure ()
  | n + 1, .mk lbrace list rbrace, isStruct => do
    let hasComments ← commentBefore (← posFor rbrace)
    let srcIsOneLine := lbrace != 0 && rbrace != 0 && (← lineFor lbrace) == (← lineFor rbrace)
    if !hasComments && srcIsOneLine then
      if list.isEmpty then
        setPos lbrace
        printTok .lbrace
        setPos rbrace
        printTok .rbrace
        return
      else if ← isOneLineFieldList n list then
        setPos lbrace
        prints [.tok .lbrace, .ws .blank]
        let f := list.headD (.mk none [] (.bad 0 0) none none)
        if isStruct then
          let mut i := 0
          for x in f.names do
            if i > 0 then prints [.tok .comma, .ws .blank]
            expr1 n (.ident x) 0 1
            i := i + 1
          if !f.names.isEmpty then space .blank
          expr1 n f.type 0 1
        else
          match f.names, f.type with
          | name :: _, .func sig =>
            expr1 n (.ident name) 0 1
            signature n sig
          | _, t => expr1 n t 0 1
        space .blank
        setPos rbrace
        printTok .rbrace
        return
    space .blank
    setPos lbrace
    prints [.tok .lbrace, .ws .indent]
    if hasComments || !list.isEmpty then space .formfeed
    let slot ← newSlot
    if isStruct then
      let sep := if list.length == 1 then Space.blank else .vtab
      let mut i := 0
      for f in list do
        if i > 0 then
          discard <| linebreak (← lineFor f.pos) 1 .ignore ((← linesFrom slot) > 0)
        let mut extraTabs := 0
        setComment f.doc
        recordLine slot
        if !f.names.isEmpty then
          identList n f.names false
          space sep
          expr1 n f.type 0 1
          extraTabs := 1
        else
          expr1 n f.type 0 1
          extraTabs := 2
        match f.tag with
        | some tag =>
          if !f.names.isEmpty && sep == .vtab then space sep
          space sep
          expr1 n tag 0 1
          extraTabs := 0
        | none => pure ()
        match f.comment with
        | some c =>
          for _ in [0:extraTabs] do space sep
          setComment (some c)
        | none => pure ()
        i := i + 1
    else
      let mut i := 0
      for f in list do
        if i > 0 then
          discard <| linebreak (← lineFor f.pos) 1 .ignore ((← linesFrom slot) > 0)
        setComment f.doc
        recordLine slot
        match f.names, f.type with
        | name :: _, .func sig =>
          expr1 n (.ident name) 0 1
          signature n sig
        | _, t => expr1 n t 0 1
        setComment f.comment
        i := i + 1
    prints [.ws .unindent, .ws .formfeed]
    setPos rbrace
    printTok .rbrace

/-- Prints statements, indented by `nindent` levels, with the line breaks of the source
between them (at most one blank line); empty statements are left out. -/
def stmtList : Nat → List Stmt → Nat → Bool → PM Unit
  | 0, _, _, _ => pure ()
  | n + 1, list, nindent, nextIsRBrace => do
    if nindent > 0 then space .indent
    let slot ← newSlot
    let total := list.length
    let mut i := 0
    for s in list do
      match s with
      | .empty .. => pure ()
      | _ =>
        if (← get).output.size > 0 then
          let far := (← linesFrom slot) > 0
          discard <| linebreak (← lineFor s.pos) 1 .ignore (i == 0 || nindent == 0 || far)
        recordLine slot
        stmt n s (nextIsRBrace && i == total - 1)
        for _ in [0:labelDepth s] do bumpSlot slot
        i := i + 1
    if nindent > 0 then space .unindent

/-- Prints a block over at least two lines. -/
def block : Nat → Block → Nat → PM Unit
  | 0, _, _ => pure ()
  | n + 1, .mk lbrace list rbrace, nindent => do
    setPos lbrace
    printTok .lbrace
    stmtList n list nindent true
    discard <| linebreak (← lineFor rbrace) 1 .ignore true
    setPos rbrace
    printTok .rbrace

/-- Prints the header of an `if`, `switch` or `for` statement. -/
def controlClause : Nat → Bool → Option Stmt → Option Expr → Option Stmt → PM Unit
  | 0, _, _, _, _ => pure ()
  | n + 1, isFor, init, cond, post => do
    space .blank
    let mut needsBlank := false
    if init.isNone && post.isNone then
      match cond with
      | some e =>
        expr1 n (stripParens e) 0 1
        needsBlank := true
      | none => pure ()
    else
      match init with
      | some s => stmt n s false
      | none => pure ()
      prints [.tok .semicolon, .ws .blank]
      match cond with
      | some e =>
        expr1 n (stripParens e) 0 1
        needsBlank := true
      | none => pure ()
      if isFor then
        prints [.tok .semicolon, .ws .blank]
        needsBlank := false
        match post with
        | some s =>
          stmt n s false
          needsBlank := true
        | none => pure ()
    if needsBlank then space .blank

/-- Prints a statement; `nextIsRBrace` tells that a closing brace follows it. -/
def stmt : Nat → Stmt → Bool → PM Unit
  | 0, _, _ => pure ()
  | n + 1, s, nextIsRBrace => do
    setPos s.pos
    match s with
    | .bad .. => print (.text "BadStmt")
    | .decl d => decl n d
    | .empty .. => pure ()
    | .labeled label colon inner =>
      space .unindent
      expr1 n (.ident label) 0 1
      setPos colon
      prints [.tok .colon, .ws .indent]
      match inner with
      | .empty epos _ =>
        if !nextIsRBrace then
          space .newline
          setPos epos
          printTok .semicolon
        else stmt n inner nextIsRBrace
      | _ =>
        discard <| linebreak (← lineFor inner.pos) 1 .ignore true
        stmt n inner nextIsRBrace
    | .expr x => expr1 n x 0 1
    | .send ch arrow v =>
      expr1 n ch 0 1
      space .blank
      setPos arrow
      prints [.tok .arrow, .ws .blank]
      expr1 n v 0 1
    | .incDec x tokPos tok =>
      expr1 n x 0 2
      setPos tokPos
      printTok tok
    | .assign lhs tokPos tok rhs =>
      let depth := if lhs.length > 1 && rhs.length > 1 then 2 else 1
      exprList n s.pos lhs depth {} tokPos
      space .blank
      setPos tokPos
      prints [.tok tok, .ws .blank]
      exprList n tokPos rhs depth {} 0
    | .go _ call =>
      prints [.tok .kwGo, .ws .blank]
      expr1 n call 0 1
    | .defer _ call =>
      prints [.tok .kwDefer, .ws .blank]
      expr1 n call 0 1
    | .ret _ results =>
      printTok .kwReturn
      if !results.isEmpty then
        space .blank
        if ← indentList results then
          space .indent
          exprList n 0 results 1 ⟨false, true⟩ 0
          space .unindent
        else exprList n 0 results 1 {} 0
    | .branch _ tok label =>
      printTok tok
      match label with
      | some l =>
        space .blank
        expr1 n (.ident l) 0 1
      | none => pure ()
    | .block b => block n b 1
    | .ifStmt _ init cond body els =>
      printTok .kwIf
      controlClause n false init (some cond) none
      block n body 1
      match els with
      | some e =>
        prints [.ws .blank, .tok .kwElse, .ws .blank]
        match e with
        | .block _ | .ifStmt .. => stmt n e nextIsRBrace
        | _ =>
          prints [.tok .lbrace, .ws .indent, .ws .formfeed]
          stmt n e true
          prints [.ws .unindent, .ws .formfeed, .tok .rbrace]
      | none => pure ()
    | .caseClause pos list colon body =>
      if !list.isEmpty then
        prints [.tok .kwCase, .ws .blank]
        exprList n pos list 1 {} colon
      else printTok .kwDefault
      setPos colon
      printTok .colon
      stmtList n body 1 nextIsRBrace
    | .switchStmt _ init tag body =>
      printTok .kwSwitch
      controlClause n false init tag none
      block n body 0
    | .typeSwitch _ init assign body =>
      printTok .kwSwitch
      match init with
      | some st =>
        space .blank
        stmt n st false
        printTok .semicolon
      | none => pure ()
      space .blank
      stmt n assign false
      space .blank
      block n body 0
    | .commClause _ comm colon body =>
      match comm with
      | some c =>
        prints [.tok .kwCase, .ws .blank]
        stmt n c false
      | none => printTok .kwDefault
      setPos colon
      printTok .colon
      stmtList n body 1 nextIsRBrace
    | .select _ body =>
      prints [.tok .kwSelect, .ws .blank]
      if body.list.isEmpty && !(← commentBefore (← posFor body.rbrace)) then
        setPos body.lbrace
        printTok .lbrace
        setPos body.rbrace
        printTok .rbrace
      else block n body 0
    | .forStmt _ init cond post body =>
      printTok .kwFor
      controlClause n true init cond post
      block n body 1
    | .range _ key value tokPos tok _ x body =>
      prints [.tok .kwFor, .ws .blank]
      match key with
      | some k =>
        expr1 n k 0 1
        match value with
        | some v =>
          setPos v.pos
          prints [.tok .comma, .ws .blank]
          expr1 n v 0 1
        | none => pure ()
        space .blank
        setPos tokPos
        prints [.tok tok, .ws .blank]
      | none => pure ()
      prints [.tok .kwRange, .ws .blank]
      expr1 n (stripParens x) 0 1
      space .blank
      block n body 1

/-- Prints a function body after a header of the given size: on the header's line when both
fit in 100 characters and the body is short and written on one line. -/
def funcBody : Nat → Nat → Space → Block → PM Unit
  | 0, _, _, _ => pure ()
  | n + 1, headerSize, sep, b => do
    let savedLevel := (← get).level
    modify fun p => { p with level := 0 }
    let maxSize := 100
    if headerSize + (← bodySize n b maxSize) ≤ maxSize then
      space sep
      setPos b.lbrace
      printTok .lbrace
      if !b.list.isEmpty then
        space .blank
        let total := b.list.length
        let mut i := 0
        for s in b.list do
          if i > 0 then prints [.tok .semicolon, .ws .blank]
          stmt n s (i == total - 1)
          i := i + 1
        space .blank
      print (.toggle false true)
      setPos b.rbrace
      prints [.tok .rbrace, .toggle false true]
    else
      if sep != .ignore then space .blank
      block n b 1
    modify fun p => { p with level := savedLevel }

/-- The size of a body printed on one line, or more than `maxSize` when it cannot be. -/
def bodySize : Nat → Block → Nat → PM Nat
  | 0, _, maxSize => pure (maxSize + 1)
  | n + 1, .mk lbrace list rbrace, maxSize => do
    if lbrace != 0 && rbrace != 0 && (← lineFor lbrace) != (← lineFor rbrace) then
      return maxSize + 1
    if list.length > 5 then return maxSize + 1
    let mut size ← commentSizeBefore (← posFor rbrace)
    let lines := (← get).lines
    let mut i := 0
    for s in list do
      if size > maxSize then break
      if i > 0 then size := size + 2
      size := size + stmtSize n lines s maxSize
      i := i + 1
    return size

/-- Prints a specification of a grouped `const` or `var` declaration in aligned columns. -/
def valueSpec : Nat → Spec → Bool → PM Unit
  | 0, _, _ => pure ()
  | n + 1, s, keepType => do
    match s with
    | .value doc names typ values comment =>
      setComment doc
      identList n names false
      let mut extraTabs := 3
      if typ.isSome || keepType then
        space .vtab
        extraTabs := extraTabs - 1
      match typ with
      | some t => expr1 n t 0 1
      | none => pure ()
      if !values.isEmpty then
        prints [.ws .vtab, .tok .assign, .ws .blank]
        exprList n 0 values 1 {} 0
        extraTabs := extraTabs - 1
      match comment with
      | some c =>
        for _ in [0:extraTabs] do space .vtab
        setComment (some c)
      | none => pure ()
    | other => spec n other 1 false

/-- Prints a specification; `count` is the number of specifications of its declaration. -/
def spec : Nat → Spec → Nat → Bool → PM Unit
  | 0, _, _, _ => pure ()
  | n + 1, s, count, doIndent => do
    match s with
    | .importSpec doc name pathPos path comment endPos =>
      setComment doc
      match name with
      | some nm =>
        expr1 n (.ident nm) 0 1
        space .blank
      | none => pure ()
      expr1 n (.basic pathPos .string (sanitizeImportPath path)) 0 1
      setComment comment
      setPos endPos
    | .value doc names typ values comment =>
      setComment doc
      identList n names doIndent
      match typ with
      | some t =>
        space .blank
        expr1 n t 0 1
      | none => pure ()
      if !values.isEmpty then
        prints [.ws .blank, .tok .assign, .ws .blank]
        exprList n 0 values 1 {} 0
      setComment comment
    | .typeSpec doc name tparams assign typ comment =>
      setComment doc
      expr1 n (.ident name) 0 1
      match tparams with
      | some tp => parameters n tp .typeTParam
      | none => pure ()
      space (if count == 1 then .blank else .vtab)
      if assign != 0 then prints [.tok .assign, .ws .blank]
      expr1 n typ 0 1
      setComment comment

/-- Prints an `import`, `const`, `type` or `var` declaration. -/
def genDecl : Nat → Option CommentGroup → Nat → Tok → Nat → List Spec → Nat → PM Unit
  | 0, _, _, _, _, _, _ => pure ()
  | n + 1, doc, pos, tok, lparen, specs, rparen => do
    setComment doc
    setPos pos
    prints [.tok tok, .ws .blank]
    if lparen != 0 || specs.length != 1 then
      setPos lparen
      printTok .lparen
      let count := specs.length
      if count > 0 then
        prints [.ws .indent, .ws .formfeed]
        let slot ← newSlot
        let keep := keepTypeColumn specs
        let grouped := count > 1 && (tok == .kwConst || tok == .kwVar)
        let mut i := 0
        for s in specs do
          if i > 0 then
            discard <| linebreak (← lineFor s.pos) 1 .ignore ((← linesFrom slot) > 0)
          recordLine slot
          if grouped then valueSpec n s (keep.getD i false)
          else spec n s count false
          i := i + 1
        prints [.ws .unindent, .ws .formfeed]
      setPos rparen
      printTok .rparen
    else
      match specs with
      | [s] => spec n s 1 true
      | _ => pure ()

/-- Prints a declaration. -/
def decl : Nat → Decl → PM Unit
  | 0, _ => pure ()
  | n + 1, d => do
    match d with
    | .bad s _ =>
      setPos s
      print (.text "BadDecl")
    | .gen doc pos tok lparen specs rparen => genDecl n doc pos tok lparen specs rparen
    | .func doc recv name sig body =>
      setComment doc
      setPos d.pos
      prints [.tok .kwFunc, .ws .blank]
      let startCol : Int := ((← get).out.column : Int) - 5
      match recv with
      | some r =>
        parameters n r .funcParam
        space .blank
      | none => pure ()
      expr1 n (.ident name) 0 1
      signature n sig
      match body with
      | some b => funcBody n (← distanceFrom d.pos startCol) .vtab b
      | none => pure ()

/-- The size of an expression printed on its own on one line, or `maxSize + 1`. -/
def exprSize : Nat → Lines → Expr → Nat → Nat
  | 0, _, _, maxSize => maxSize + 1
  | n + 1, lines, x, maxSize =>
    let st := ((do expr1 n x 0 1; finish) : PM Unit).run { lines, useNodeComments := true } |>.2
    measure (trimOutput st.output) maxSize

/-- The size of a statement printed on its own on one line, or `maxSize + 1`. -/
def stmtSize : Nat → Lines → Stmt → Nat → Nat
  | 0, _, _, maxSize => maxSize + 1
  | n + 1, lines, s, maxSize =>
    let start : Printer := { lines, useNodeComments := true, indent := if labelDepth s > 0 then 1 else 0 }
    let st := ((do stmt n s false; finish) : PM Unit).run start |>.2
    measure (trimOutput st.output) maxSize

end

/-- The keyword of a declaration (`func` for functions). -/
def declToken : Decl → Tok
  | .gen _ _ tok _ _ _ => tok
  | .func .. => .kwFunc
  | .bad .. => .illegal

/-- The documentation comment of a declaration. -/
def declDoc : Decl → Option CommentGroup
  | .gen doc .. => doc
  | .func doc .. => doc
  | .bad .. => none

/-- The number of source lines a declaration spans. -/
def numLines (d : Decl) : PM Nat := do
  if d.pos != 0 && d.end != 0 then
    return (← lineFor d.end) + 1 - (← lineFor d.pos)
  return farAway

/-- Prints the declarations of a file: a blank line between declarations of different kinds
or before a documented one, and a new section before a function spanning several lines. -/
def declList (fuel : Nat) (list : List Decl) : PM Unit := do
  let mut tok := Tok.illegal
  for d in list do
    let prev := tok
    tok := declToken d
    if (← get).output.size > 0 then
      let min := if prev != tok || (declDoc d).isSome then 2 else 1
      let newSection := tok == .kwFunc && (← numLines d) > 1
      discard <| linebreak (← lineFor d.pos) min .ignore newSection
    decl fuel d

/-- Prints a file: package clause, declarations, final line break. -/
def fileBody (fuel : Nat) (f : File) : PM Unit := do
  setComment f.doc
  setPos f.packagePos
  prints [.tok .kwPackage, .ws .blank]
  expr1 fuel (.ident f.name) 0 1
  declList fuel f.decls
  space .newline

end Printer

/-- The formatted text of a file whose line table is `lines`. `normalize` writes number
literals in canonical form; `baseIndent` indents every line. -/
def printFileText (lines : Lines) (f : File) (normalize : Bool) (baseIndent : Int) : String :=
  let fuel := 4 * lines.size + 100
  let start : Printer :=
    { lines, normalizeNumbers := normalize, baseIndent, comments := f.comments.toArray,
      useNodeComments := f.comments.isEmpty }
  let act : PM Unit := do
    Printer.nextComment
    Printer.fileBody fuel f
    Printer.finish
  let st := (act.run start).2
  trimOutput (alignColumns (fixBuildLines st.output st.goBuild.toList st.plusBuild.toList))

/-- The formatted text of an expression of a file whose line table is `lines`, printed on its
own: line breaks of the source are kept as in a whole file, and number literals are written in
canonical form. -/
def printExprText (lines : Lines) (e : Expr) : String :=
  let fuel := 4 * lines.size + 100
  let start : Printer := { lines, normalizeNumbers := true, useNodeComments := true }
  let act : PM Unit := do
    Printer.expr1 fuel e 0 1
    Printer.finish
  trimOutput (alignColumns (act.run start).2.output)

end StaticWrap.GoSource
