import StaticWrap.Build.Constraint
/-!
**Writing build constraints back.**

* `Expr.text`: an expression in `//go:build` form, with parentheses only where `&&` holds an
  `||` or the other way round, and around what `!` negates when it is not a tag.
* `parseLine`: the expression of a `//go:build` or `// +build` line, or none.
* `plusBuildLines`: `// +build` lines that hold exactly when an expression does. Negations are
  first pushed down to the tags; the expression is then split into a conjunction of
  alternatives of conjunctions of (possibly negated) tags, one line per conjunct (or one line
  for all when no conjunct has alternatives). An expression that does not split so is too
  complex for the old form.
-/

namespace StaticWrap.Build

/-- The expression is a disjunction. -/
def Expr.isOr : Expr → Bool
  | .or _ _ => true
  | _ => false

/-- The expression is a conjunction. -/
def Expr.isAnd : Expr → Bool
  | .and _ _ => true
  | _ => false

/-- The expression in `//go:build` form. -/
def Expr.text : Expr → String
  | .tag n => n
  | .not x => "!" ++ (if x.isOr || x.isAnd then "(" ++ x.text ++ ")" else x.text)
  | .and x y =>
    (if x.isOr then "(" ++ x.text ++ ")" else x.text) ++ " && " ++
      (if y.isOr then "(" ++ y.text ++ ")" else y.text)
  | .or x y =>
    (if x.isAnd then "(" ++ x.text ++ ")" else x.text) ++ " || " ++
      (if y.isAnd then "(" ++ y.text ++ ")" else y.text)

/-- The expression of a constraint line of either form; none for another line or a malformed
`//go:build` expression. -/
def parseLine (line : String) : Option Expr :=
  match goBuildText? line with
  | some text => parseExpr text
  | none => (plusBuildText? line).bind plusBuildExpr

/-- The expression with its negations pushed down to the tags (`!(x && y)` is `!x || !y`);
`neg` tells whether the expression is negated. -/
def pushNot : Expr → Bool → Expr
  | .tag n, neg => if neg then .not (.tag n) else .tag n
  | .not x, neg =>
    match x, neg with
    | .tag n, false => .not (.tag n)
    | _, _ => pushNot x !neg
  | .and x y, neg => if neg then .or (pushNot x neg) (pushNot y neg) else .and (pushNot x neg) (pushNot y neg)
  | .or x y, neg => if neg then .and (pushNot x neg) (pushNot y neg) else .or (pushNot x neg) (pushNot y neg)

/-- The conjuncts of an expression, its top-level `&&` split apart. -/
def splitAnd : Expr → List Expr
  | .and x y => splitAnd x ++ splitAnd y
  | x => [x]

/-- The alternatives of an expression, its top-level `||` split apart. -/
def splitOr : Expr → List Expr
  | .or x y => splitOr x ++ splitOr y
  | x => [x]

/-- A tag or a negated tag. -/
def isLiteral : Expr → Bool
  | .tag _ => true
  | .not _ => true
  | _ => false

/-- The `// +build` lines of an expression, or the fault of one too complex for them. -/
def plusBuildLines (x : Expr) : Except String (List String) := do
  let x := pushNot x false
  let split : List (List (List Expr)) := (splitAnd x).map fun alt => (splitOr alt).map splitAnd
  if split.any (fun ors => ors.any (fun lits => !lits.all isLiteral)) then
    throw "expression too complex for // +build lines"
  let widest := split.foldl (fun m ors => max m ors.length) 0
  let split := if widest == 1 then [[split.flatMap fun ors => ors.headD []]] else split
  pure (split.map fun ors =>
    "// +build" ++ String.join (ors.map fun lits => " " ++ ",".intercalate (lits.map Expr.text)))

end StaticWrap.Build
