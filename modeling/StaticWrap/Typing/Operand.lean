import StaticWrap.Typing.Const
import StaticWrap.Types.Text
import StaticWrap.GoSource.ExprText
/-!
**Operands and how messages show them.**

An operand is what checking an expression yields: how it may be used (its mode), its type and
the expression itself. Messages show an operand as its expression followed, in parentheses,
by what it is: `"x" (untyped string constant)`, `x (variable of type int)`,
`F() (value of type string)`; the type of a named type is described by its structure
(`t (variable of struct type T)`, `d (variable of int64 type time.Duration)`); a constant's
value follows the mode when it reads differently from the expression
(`c (untyped int constant 3)`), and `nil` stands alone.

* `typeMessage`: a type as messages write it: the checked package's own names bare, other
  packages' names with the package name.
* `typesSummary`: a list of types as `(int, string)`, an untyped number as `number` and other
  untyped values by their kind alone.

The type `invalid` stands for a type this reading does not know; no message is built from it.
-/

namespace StaticWrap.Types

/-- The names of the untyped kinds. -/
def untypedBool : GoType := .basic "untyped bool"
/-- The untyped whole-number kind. -/
def untypedInt : GoType := .basic "untyped int"
/-- The untyped character kind. -/
def untypedRune : GoType := .basic "untyped rune"
/-- The untyped fraction kind. -/
def untypedFloat : GoType := .basic "untyped float"
/-- The untyped complex kind. -/
def untypedComplex : GoType := .basic "untyped complex"
/-- The untyped string kind. -/
def untypedString : GoType := .basic "untyped string"
def untypedNil : GoType := .basic "untyped nil"

/-- The type is one of the untyped kinds. -/
def GoType.isUntyped : GoType → Bool
  | .basic n => n.startsWith "untyped "
  | _ => false

def GoType.isNilType : GoType → Bool
  | .basic "untyped nil" => true
  | _ => false

/-- The type an untyped kind takes where a typed value is needed. -/
def GoType.defaultType : GoType → GoType
  | .basic "untyped bool" => .basic "bool"
  | .basic "untyped int" => .basic "int"
  | .basic "untyped rune" => .basic "rune"
  | .basic "untyped float" => .basic "float64"
  | .basic "untyped complex" => .basic "complex128"
  | .basic "untyped string" => .basic "string"
  | t => t

end StaticWrap.Types

namespace StaticWrap.Typing

open StaticWrap.GoSource
open StaticWrap.Types
open StaticWrap.Model

/-- How an operand may be used. -/
inductive Mode where
  /-- Nothing is known: no check applies. -/
  | invalid
  /-- A call without results. -/
  | novalue
  /-- A built-in function, which may only be called. -/
  | builtin (name : String)
  /-- A type. -/
  | typexpr
  /-- A constant with its value. -/
  | constant (v : ConstValue)
  /-- An addressable variable. -/
  | variable
  /-- An element of a map. -/
  | mapindex
  /-- Any other value. -/
  | value
  /-- A value that may also give a second boolean result. -/
  | commaok
  deriving Inhabited

/-- What checking an expression yields. -/
structure Operand where
  mode : Mode
  type : GoType
  expr : Expr
  /-- The results of a call with several of them. -/
  tuple : List GoType := []
  deriving Inhabited

/-- An operand about which nothing is known. -/
def Operand.unknown (e : Expr) : Operand := ⟨.invalid, .invalid, e, []⟩

/-- The operand is known: checks may apply to it. -/
def Operand.isKnown (x : Operand) : Bool :=
  match x.mode with
  | .invalid => false
  | _ => true

def Operand.isNil (x : Operand) : Bool := x.type.isNilType

/-- The constant value of an operand, if it is a constant. -/
def Operand.value? (x : Operand) : Option ConstValue :=
  match x.mode with
  | .constant v => some v
  | _ => none

/-- A type as messages write it, seen from the package `own`. -/
def typeMessage (own : String) (t : GoType) : String :=
  let (s, refs) := (typeText refText t).run []
  Id.run (resolveQualifiers s refs fun r => pure (if r.path == own then "" else r.name))

/-- The word for an operand's mode. -/
def Mode.word : Mode → String
  | .invalid => "invalid operand"
  | .novalue => "no value"
  | .builtin _ => "built-in"
  | .typexpr => "type"
  | .constant _ => "constant"
  | .variable => "variable"
  | .mapindex => "map index expression"
  | .value => "value"
  | .commaok => "comma, ok expression"

/-- An operand as messages show it; `desc` gives the word for the structure of a named type
(`struct `, `int `, or nothing when not known). -/
def operandText (own : String) (desc : GoType → String) (x : Operand) : String :=
  if x.isNil then "nil"
  else
    let expr := exprText x.expr
    let hasType := match x.mode with
      | .invalid | .novalue | .builtin _ | .typexpr => false
      | _ => true
    let untyped := hasType && x.type.isUntyped
    let kind := if untyped then typeMessage own x.type ++ " " else ""
    let valueText := match x.mode with
      | .constant v => let s := v.text; if s != expr then " " ++ s else ""
      | _ => ""
    let typePart :=
      if hasType && !untyped then
        match x.tuple with
        | [] => " of " ++ desc x.type ++ "type " ++ typeMessage own x.type
        | ts => " of type (" ++ ", ".intercalate (ts.map (typeMessage own)) ++ ")"
      else ""
    expr ++ " (" ++ kind ++ x.mode.word ++ valueText ++ typePart ++ ")"

/-- A list of types as `(A, B)`: an untyped number as `number`, another untyped value by its
kind alone; with `variadic` the last (a slice) as `...E`, with `hasDots` the last followed
by `...` (an argument spread with `...`). -/
def typesSummary (own : String) (ts : List GoType) (variadic : Bool) (hasDots : Bool := false) :
    String :=
  let n := ts.length
  let parts := ts.zipIdx.map fun (t, i) =>
    let s := match t with
      | .basic "untyped int" | .basic "untyped rune" | .basic "untyped float"
      | .basic "untyped complex" => "number"
      | .basic name => if name.startsWith "untyped " then (name.drop 8).toString else name
      | .invalid => "unknown type"
      | t => typeMessage own t
    if variadic && i + 1 == n then
      match t with
      | .slice e => "..." ++ typeMessage own e
      | _ => s
    else if hasDots && i + 1 == n then s ++ "..."
    else s
  "(" ++ ", ".intercalate parts ++ ")"

/-- The type mentions a type this reading does not know. -/
def hasUnknown : Nat → GoType → Bool
  | 0, _ => true
  | _ + 1, .invalid => true
  | n + 1, .named _ args | n + 1, .aliased _ args => args.any (hasUnknown n)
  | n + 1, .pointer e | n + 1, .slice e | n + 1, .array _ e | n + 1, .chan _ e =>
    hasUnknown n e
  | n + 1, .map k v => hasUnknown n k || hasUnknown n v
  | n + 1, .func (.mk ps rs _) =>
    ps.any (fun v => hasUnknown n v.type) || rs.any (fun v => hasUnknown n v.type)
  | n + 1, .struct fs => fs.any fun f => match f with
    | .mk _ _ _ t _ => hasUnknown n t
  | _ + 1, _ => false

end StaticWrap.Typing
