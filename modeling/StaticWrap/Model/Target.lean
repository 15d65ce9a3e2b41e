import StaticWrap.Model.Fact
import StaticWrap.Model.Names
/-!
**Targets and units.**

A target says whose functions to wrap: a package (optionally narrowed to the functions
associated with one of its types) or, in self mode, the annotated type's own package. It
carries the package's path and name, the type, an alias for the wrapper's base name, the
type's parameters and embedded fields (self mode), the packages behind their placeholders,
include and exclude globs, and the marker's position.

A unit is a target with its facts; it becomes one interface and one wrapper struct.

* `Target.identity`: the path, or `path.Type`.
* `Target.baseName`: the alias, the type name, or the package name in Pascal case.
* `Target.key`: the identity, then ` +includes` and ` -excludes` when there are any.
* `Fact.liftsOnto`: a function can be carried by a target's wrapper when it is not generic, or
  when its type parameters are the target's (same names, same constraints once placeholders
  are resolved).
* The unit's names: `WrapUnit.wrapperName` splices `Wrapper` into `base[T c]`, and
  `WrapUnit.interfaceName` puts an `I` before it; the `Ref` variants use `[T]`.
-/

namespace StaticWrap.Model

/-- Whose functions a target wraps. -/
inductive WrapMode where
  | external
  | self
  deriving DecidableEq, Repr, Inhabited

def WrapMode.name : WrapMode → String
  | .external => "external"
  | .self => "self"

/-- A target of wrapping. -/
structure Target where
  mode : WrapMode := .external
  pkgPath : String := ""
  pkgName : String := ""
  typeName : String := ""
  customName : String := ""
  typeParams : List TypeParam := []
  embeds : List String := []
  imports : List PackageRef := []
  included : List String := []
  excluded : List String := []
  file : String := ""
  line : Int := 0
  column : Int := 0
  annotatedType : String := ""
  annotatedDir : String := ""
  deriving DecidableEq, Repr, Inhabited

/-- The identity of a target: its package path, with the type name when there is one. -/
def Target.identity (t : Target) : String :=
  if t.typeName.isEmpty then t.pkgPath else t.pkgPath ++ "." ++ t.typeName

/-- The base of the wrapper's name. -/
def Target.baseName (t : Target) : String :=
  if !t.customName.isEmpty then t.customName
  else if !t.typeName.isEmpty then t.typeName
  else pascalCase t.pkgName

/-- The key of a target's facts: its identity and its include and exclude globs. -/
def Target.key (t : Target) : String :=
  t.identity ++ (if t.included.isEmpty then "" else " +" ++ ",".intercalate t.included) ++
    (if t.excluded.isEmpty then "" else " -" ++ ",".intercalate t.excluded)

/-- The function's type parameters can be carried by the target's wrapper: it has none, or
the same as the target. -/
def Fact.liftsOnto (f : Fact) (t : Target) : Bool :=
  f.typeParams.isEmpty ||
    sameParams (canonicalParams f.typeParams f.imports) (canonicalParams t.typeParams t.imports)

/-- A target with the facts to wrap. -/
structure WrapUnit where
  target : Target
  facts : List Fact := []
  deriving DecidableEq, Repr, Inhabited

/-- The name with the declared type parameters. -/
def WrapUnit.displayName (u : WrapUnit) : String := u.target.baseName ++ declText u.target.typeParams

/-- The wrapper struct's declared name. -/
def WrapUnit.wrapperName (u : WrapUnit) : String := spliceWrapper u.displayName

/-- The interface's declared name. -/
def WrapUnit.interfaceName (u : WrapUnit) : String := "I" ++ u.wrapperName

/-- The wrapper struct's name as a type, with type arguments. -/
def WrapUnit.wrapperRef (u : WrapUnit) : String :=
  spliceWrapper (u.target.baseName ++ argsText u.target.typeParams)

/-- The interface's name as a type, with type arguments. -/
def WrapUnit.interfaceRef (u : WrapUnit) : String := "I" ++ u.wrapperRef

/-- The unit has type parameters. -/
def WrapUnit.isGeneric (u : WrapUnit) : Bool := !u.target.typeParams.isEmpty

end StaticWrap.Model
