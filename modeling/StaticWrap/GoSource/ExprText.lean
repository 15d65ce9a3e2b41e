import StaticWrap.GoSource.Syntax
/-!
**Expressions written back on one line.**

Messages quote the expressions they are about as the expression printer of the language's
tools writes them: on one line, operators between blanks, a composite literal's elements as
`…` and a function literal as `(func(…) literal)`. The printer runs on fuel: each level of
nesting takes at least one byte of the text.
-/

namespace StaticWrap.GoSource

/-- The spelling of an operator token. -/
def opText (t : Tok) : String := t.text

mutual

/-- An expression written back on one line, nested at most `fuel` deep. -/
def exprTextN : Nat → Expr → String
  | 0, _ => "…"
  | n + 1, e =>
    match e with
    | .bad _ _ => "(ast: *ast.BadExpr)"
    | .ident id => id.name
    | .ellipsis _ none => "..."
    | .ellipsis _ (some e) => "..." ++ exprTextN n e
    | .basic _ _ v => v
    | .funcLit sig _ => "(func" ++ sigExprText n sig ++ " literal)"
    | .composite t _ elts _ =>
      optText n t ++ "\x7b" ++ (if elts.isEmpty then "" else "…") ++ "\x7d"
    | .paren _ x _ => "(" ++ exprTextN n x ++ ")"
    | .selector x s => exprTextN n x ++ "." ++ s.name
    | .index x _ i _ => exprTextN n x ++ "[" ++ exprTextN n i ++ "]"
    | .indexList x _ is _ => exprTextN n x ++ "[" ++ exprListText n is ++ "]"
    | .slice x _ lo hi mx s3 _ =>
      exprTextN n x ++ "[" ++ optText n lo ++ ":" ++ optText n hi ++
        (if s3 then ":" ++ optText n mx else "") ++ "]"
    | .typeAssert x _ t _ =>
      exprTextN n x ++ ".(" ++ (if t.isNone then "type" else optText n t) ++ ")"
    | .call f _ args ell _ =>
      exprTextN n f ++ "(" ++ exprListText n args ++ (if ell != 0 then "..." else "") ++ ")"
    | .star _ x => "*" ++ exprTextN n x
    | .unary _ op x => opText op ++ exprTextN n x
    | .binary x _ op y => exprTextN n x ++ " " ++ opText op ++ " " ++ exprTextN n y
    | .keyValue _ _ _ => "(ast: *ast.KeyValueExpr)"
    | .array _ len elt => "[" ++ optText n len ++ "]" ++ exprTextN n elt
    | .struct _ fl => "struct\x7b" ++ fieldsExprText n fl.list "; " false ++ "\x7d"
    | .func sig => "func" ++ sigExprText n sig
    | .iface _ fl => "interface\x7b" ++ fieldsExprText n fl.list "; " true ++ "\x7d"
    | .map _ k v => "map[" ++ exprTextN n k ++ "]" ++ exprTextN n v
    | .chan _ _ dir v =>
      (match dir with
        | .send => "chan<- "
        | .recv => "<-chan "
        | .both => "chan ") ++ exprTextN n v

/-- An optional expression, empty when absent. -/
def optText : Nat → Option Expr → String
  | 0, _ => "…"
  | n + 1, some e => exprTextN n e
  | _ + 1, none => ""

/-- Expressions separated by commas. -/
def exprListText : Nat → List Expr → String
  | 0, _ => "…"
  | _ + 1, [] => ""
  | n + 1, [e] => exprTextN n e
  | n + 1, e :: es => exprTextN n e ++ ", " ++ exprListText n es

/-- The parameters and results of a signature. -/
def sigExprText : Nat → Signature → String
  | 0, _ => "…"
  | n + 1, .mk _ _ params results =>
    let ps := "(" ++ fieldsExprText n params.list ", " false ++ ")"
    match results with
    | none => ps
    | some r =>
      match r.list with
      | [] => ps
      | [.mk _ [] t _ _] => ps ++ " " ++ exprTextN n t
      | fs => ps ++ " (" ++ fieldsExprText n fs ", " false ++ ")"

/-- Fields separated by `sep`; in an interface a method is its name and signature. -/
def fieldsExprText : Nat → List Field → String → Bool → String
  | 0, _, _, _ => "…"
  | _ + 1, [], _, _ => ""
  | n + 1, [f], _, iface => fieldExprText n f iface
  | n + 1, f :: fs, sep, iface => fieldExprText n f iface ++ sep ++ fieldsExprText n fs sep iface

/-- One field: its names, then its type. -/
def fieldExprText : Nat → Field → Bool → String
  | 0, _, _ => "…"
  | n + 1, .mk _ names t _ _, iface =>
    let ns := ", ".intercalate (names.map (·.name))
    match t, iface with
    | .func sig, true => ns ++ sigExprText n sig
    | _, _ => ns ++ (if names.isEmpty then "" else " ") ++ exprTextN n t

end

/-- An expression written back on one line. Nesting is bounded by the position just after
the expression, since each level takes at least one byte. -/
def exprText (e : Expr) : String := exprTextN (2 * e.end + 2) e

end StaticWrap.GoSource
