import StaticWrap.Model.Package
/-!
**Type parameter lists.**

A type parameter has a name and a constraint text (empty means `any`).

* `declText`: `[T any, U c]`, or `""` for no parameters.
* `argsText`: `[T, U]`, or `""`.
* `sameParams`: same names in the same order, and constraints equal after collapsing white
  space, with `""` and `interface{}` read as `any`.
* `canonical`: each constraint with its placeholders written as quoted paths.
-/

namespace StaticWrap.Model

/-- A type parameter: its name and constraint text. -/
structure TypeParam where
  name : String
  constraint : String := ""
  deriving DecidableEq, Repr, Inhabited

def declText (tps : List TypeParam) : String :=
  if tps.isEmpty then ""
  else "[" ++ ", ".intercalate (tps.map fun p =>
    p.name ++ " " ++ (if p.constraint.isEmpty then "any" else p.constraint)) ++ "]"

/-- The argument list of type parameters. -/
def argsText (tps : List TypeParam) : String :=
  if tps.isEmpty then "" else "[" ++ ", ".intercalate (tps.map (·.name)) ++ "]"

/-- A constraint with white space collapsed, and the empty interface read as `any`. -/
def normalizeConstraint (c : String) : String :=
  let c := " ".intercalate (Text.fields c)
  if c.isEmpty || c == "interface{}" then "any" else c

/-- Two lists declare the same type parameters. -/
def sameParams : List TypeParam → List TypeParam → Bool
  | [], [] => true
  | p :: ps, q :: qs =>
    p.name == q.name && normalizeConstraint p.constraint == normalizeConstraint q.constraint &&
      sameParams ps qs
  | _, _ => false

/-- The list with constraints in canonical text. -/
def canonicalParams (tps : List TypeParam) (refs : List PackageRef) : List TypeParam :=
  tps.map fun p => { p with constraint := canonicalText p.constraint refs }

end StaticWrap.Model
