import StaticWrap.Text.Basic
/-!
**Build constraint expressions.**

A `//go:build` line holds an expression over tags with `!`, `&&`, `||` and parentheses; `!`
binds tightest, then `&&`, then `||`, and a double negation is refused. A tag is a run of
letters, digits, `_` and `.`. A `// +build` line holds space-separated alternatives, each a
comma-separated conjunction of tags that may be negated once; a malformed tag stands for the
tag `ignore`, which no configuration sets.

* `goBuildText?`, `plusBuildText?`: the expression text of a line of either form.
* `parseExpr`: the expression, or a fault: a syntax fault, or more than 1000 operands;
  `plusBuildExpr`: the expression of an old
  line (never refused, except when it has more than 100 operators).
* `Expr.eval`: the truth of an expression given which tags are set.
* `Expr.goMinor`: the least language version `go1.N` an expression needs.
-/

namespace StaticWrap.Build

/-- A build constraint expression. -/
inductive Expr where
  | tag (name : String)
  | not (x : Expr)
  | and (x y : Expr)
  | or (x y : Expr)
  deriving Repr, Inhabited

/-- The truth of an expression. -/
def Expr.eval (holds : String → Bool) : Expr → Bool
  | .tag n => holds n
  | .not x => !x.eval holds
  | .and x y => x.eval holds && y.eval holds
  | .or x y => x.eval holds || y.eval holds

/-- A token of an expression. -/
inductive Tok where
  | word (s : String)
  | notOp
  | andOp
  | orOp
  | lparen
  | rparen
  deriving DecidableEq, Repr

def isTagChar (c : Char) : Bool := Text.isLetter c || Text.isDigit c || c == '_' || c == '.'

/-- The tokens of an expression, or none when it holds a character no token starts with. -/
def tokens : List Char → Option (List Tok)
  | [] => some []
  | ' ' :: rest | '\t' :: rest => tokens rest
  | '(' :: rest => (Tok.lparen :: ·) <$> tokens rest
  | ')' :: rest => (Tok.rparen :: ·) <$> tokens rest
  | '!' :: rest => (Tok.notOp :: ·) <$> tokens rest
  | '&' :: '&' :: rest => (Tok.andOp :: ·) <$> tokens rest
  | '|' :: '|' :: rest => (Tok.orOp :: ·) <$> tokens rest
  | c :: rest =>
    if isTagChar c then
      let w := rest.takeWhile isTagChar
      (Tok.word (String.ofList (c :: w)) :: ·) <$> tokens (rest.drop w.length)
    else none
  termination_by l => l.length
  decreasing_by
    all_goals apply Nat.lt_succ_of_le
    -- a token of one or two characters leaves the tail, a word drops its characters
    all_goals first
      | exact Nat.le_refl _
      | exact Nat.le_succ _
      | exact Text.length_drop_le _ _

/-- Reading an expression: the expression and the tokens after it, or a fault. The fuel
bounds the nesting. -/
def parseOr : Nat → List Tok → Option (Expr × List Tok)
  | 0, _ => none
  | fuel + 1, ts => do
    let (x, rest) ← parseAnd fuel ts
    orTail fuel x rest
where
  /-- Alternatives after the first one. -/
  orTail : Nat → Expr → List Tok → Option (Expr × List Tok)
    | 0, _, _ => none
    | fuel + 1, x, .orOp :: ts => do
      let (y, rest) ← parseAnd fuel ts
      orTail fuel (.or x y) rest
    | _, x, ts => some (x, ts)
  /-- A conjunction. -/
  parseAnd : Nat → List Tok → Option (Expr × List Tok)
    | 0, _ => none
    | fuel + 1, ts => do
      let (x, rest) ← parseNot fuel ts
      andTail fuel x rest
  /-- Conjuncts after the first one. -/
  andTail : Nat → Expr → List Tok → Option (Expr × List Tok)
    | 0, _, _ => none
    | fuel + 1, x, .andOp :: ts => do
      let (y, rest) ← parseNot fuel ts
      andTail fuel (.and x y) rest
    | _, x, ts => some (x, ts)
  /-- A negation or an atom; a second `!` is refused. -/
  parseNot : Nat → List Tok → Option (Expr × List Tok)
    | 0, _ => none
    | _, .notOp :: .notOp :: _ => none
    | fuel + 1, .notOp :: ts => do
      let (x, rest) ← parseAtom fuel ts
      pure (.not x, rest)
    | fuel + 1, ts => parseAtom fuel ts
  /-- A tag or a parenthesised expression. -/
  parseAtom : Nat → List Tok → Option (Expr × List Tok)
    | 0, _ => none
    | _, .word w :: ts => some (.tag w, ts)
    | fuel + 1, .lparen :: ts => do
      let (x, rest) ← parseOr fuel ts
      match rest with
      | .rparen :: more => pure (x, more)
      | _ => none
    | _, _ => none

/-- The number of operands of an expression's tokens: its tags and parenthesised groups. -/
def operandCount (ts : List Tok) : Nat :=
  (ts.filter fun t => match t with
    | .word _ | .lparen => true
    | _ => false).length

/-- The greatest number of operands an expression may have. -/
def maxOperands : Nat := 1000

/-- The expression of a `//go:build` text, or none when it is malformed or has more than
`maxOperands` operands. -/
def parseExpr (text : String) : Option Expr := do
  let ts ← tokens text.toList
  if operandCount ts > maxOperands then none
  let (x, rest) ← parseOr (4 * ts.length + 4) ts
  if rest.isEmpty then some x else none

/-- The text after a prefix when the prefix is followed by white space or nothing. -/
def afterWord (line pre : String) : Option String := do
  let rest ← Text.cutPrefix? line pre
  let trimmed := Text.trimSpace rest
  if rest.length == trimmed.length && !rest.isEmpty then none else some trimmed

/-- The expression text of a `//go:build` line. -/
def goBuildText? (line : String) : Option String :=
  let line := (Text.cutSuffix? line "\n").getD line
  if Text.containsText line "\n" || !Text.hasPrefix line "//go:build" then none
  else afterWord (Text.trimSpace line) "//go:build"

/-- The expression text of a `// +build` line. -/
def plusBuildText? (line : String) : Option String :=
  let line := (Text.cutSuffix? line "\n").getD line
  if Text.containsText line "\n" then none
  else do
    let rest ← Text.cutPrefix? line "//"
    afterWord (Text.trimSpace rest) "+build"

/-- A tag of an old line is well formed. -/
def isValidTag (w : String) : Bool := !w.isEmpty && w.toList.all isTagChar

/-- One literal of an old line. -/
def plusLiteral (lit : String) : Expr :=
  if Text.hasPrefix lit "!!" || lit == "!" then .tag "ignore"
  else
    match Text.cutPrefix? lit "!" with
    | some w => .not (if isValidTag w then .tag w else .tag "ignore")
    | none => if isValidTag lit then .tag lit else .tag "ignore"

/-- Joins expressions with an operator, left to right. -/
def joinWith (op : Expr → Expr → Expr) : List Expr → Option Expr
  | [] => none
  | x :: xs => some (xs.foldl op x)

/-- The expression of an old line's text, or none when it has too many operators. -/
def plusBuildExpr (text : String) : Option Expr :=
  let clauses := (Text.fields text).map fun c => (Text.splitOn c ",").map plusLiteral
  let size := (clauses.map fun c => c.length - 1).foldr (· + ·) 0 + (clauses.length - 1)
  if size > 100 then none
  else
    match joinWith .or (clauses.filterMap (joinWith .and)) with
    | some x => some x
    | none => some (.tag "ignore")

/-- The minor number of a tag `go1.N` (`go1` is 0); -1 for another tag. -/
def goTagMinor (tag : String) : Int :=
  if tag == "go1" then 0
  else match Text.cutPrefix? tag "go1." with
    | some ds => if !ds.isEmpty && ds.toList.all Char.isDigit then Int.ofNat ds.toNat! else -1
    | none => -1

/-- The minor number `N` of the least `go1.N` an expression needs when it holds (`pos`) or
when it does not: a tag `go1.N` needs `N` when it holds and nothing when it does not; a
conjunction that holds needs the larger of its sides' needs, an alternative the smaller, and
the other way round when they do not hold. -1 stands for no need. -/
def Expr.goMinor : Expr → Bool → Int
  | .tag n, pos => if pos then goTagMinor n else -1
  | .not x, pos => x.goMinor !pos
  | .and x y, pos => if pos then max (x.goMinor pos) (y.goMinor pos) else min (x.goMinor pos) (y.goMinor pos)
  | .or x y, pos => if pos then min (x.goMinor pos) (y.goMinor pos) else max (x.goMinor pos) (y.goMinor pos)

end StaticWrap.Build
