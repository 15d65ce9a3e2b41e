import StaticWrap.Model.TypeParam
/-!
**Facts: the signature of a function that a wrapper forwards to.**

A fact names the function, its owner (the identity of the target it belongs to), the
placeholder of the package that declares it (empty when the call needs no qualifier), its
parameters (a variadic parameter keeps the element type), result types, type parameters, the
packages behind the placeholders, its deprecation notice and its position.

* `Fact.key`: owner, name, the parameter types in canonical text joined by commas (a variadic
  one prefixed with `...`), and the arity. Two facts with one key are the same function.
-/

namespace StaticWrap.Model

/-- How a parameter is passed. -/
inductive Passing where
  | plain
  | variadic
  deriving DecidableEq, Repr, Inhabited

/-- The name of a passing kind. -/
def Passing.name : Passing → String
  | .plain => "none"
  | .variadic => "variadic"

/-- A parameter: name, type (the element type when variadic) and passing kind. -/
structure Param where
  name : String
  type : String
  passing : Passing := .plain
  deriving DecidableEq, Repr, Inhabited

/-- A function that a wrapper forwards to. -/
structure Fact where
  name : String
  owner : String := ""
  qualifier : String := ""
  params : List Param := []
  results : List String := []
  typeParams : List TypeParam := []
  imports : List PackageRef := []
  deprecated : String := ""
  position : String := ""
  deriving DecidableEq, Repr, Inhabited

/-- The identity of a function's signature. -/
structure SignatureKey where
  owner : String
  name : String
  params : String
  arity : Nat
  deriving DecidableEq, Repr

/-- The identity of a fact's signature. -/
def Fact.key (f : Fact) : SignatureKey :=
  { owner := f.owner, name := f.name,
    params := ",".intercalate (f.params.map fun p =>
      (if p.passing == .variadic then "..." else "") ++ canonicalText p.type f.imports),
    arity := f.params.length }

/-- The function returns nothing. -/
def Fact.returnsVoid (f : Fact) : Bool := f.results.isEmpty

/-- The function has type parameters. -/
def Fact.isGeneric (f : Fact) : Bool := !f.typeParams.isEmpty

/-- The last parameter is variadic. -/
def Fact.isVariadic (f : Fact) : Bool :=
  match f.params.getLast? with
  | some p => p.passing == .variadic
  | none => false

/-- The function is deprecated. -/
def Fact.isDeprecated (f : Fact) : Bool := !f.deprecated.isEmpty

end StaticWrap.Model
