import StaticWrap.GoSource.Syntax
import StaticWrap.Go.Ident
/-!
**Types of Go declarations.**

The types a package's signatures are made of, after names are resolved: each named type or
alias points to the object that declares it (its package, or none for the predeclared
`error`, `comparable` and `any`), a type parameter is known by its name, and the composite
types carry their parts. A struct field and an interface method also record the package that
wrote them, because an unexported one is visible from that package only.

* `TypeObj`: the declaring object of a named type or alias.
* `GoType`, with `Var` (a parameter or result), `FuncType`, `StructField`, `Method` and `Term`
  (a union term, `~` or not).
* `GoType.errorType`, `GoType.anyType`, `GoType.comparableType`: the predeclared ones that are
  not basic.
-/

namespace StaticWrap.Types

open StaticWrap.GoSource

/-- The object that declares a named type or alias: its package (empty for the predeclared
ones) and its name; a type declared inside a function also has a number that tells it apart
from the package's other types of that name (0 for a type declared at package level). -/
structure TypeObj where
  pkgPath : String
  pkgName : String
  name : String
  scope : Nat := 0
  deriving DecidableEq, Repr, Inhabited

/-- The object is predeclared. -/
def TypeObj.isPredeclared (o : TypeObj) : Bool := o.pkgPath.isEmpty

/-- The object's name is exported. -/
def TypeObj.isExported (o : TypeObj) : Bool := Go.isExported o.name

mutual

/-- A type. -/
inductive GoType where
  | basic (name : String)
  | named (obj : TypeObj) (args : List GoType)
  | aliased (obj : TypeObj) (args : List GoType)
  | param (name : String)
  | pointer (elem : GoType)
  | slice (elem : GoType)
  | array (len : Nat) (elem : GoType)
  | map (key value : GoType)
  | chan (dir : ChanDir) (elem : GoType)
  | func (sig : FuncType)
  | struct (fields : List StructField)
  | iface (implicit : Bool) (methods : List Method) (embeddeds : List GoType)
  | union (terms : List Term)
  | invalid

/-- A parameter or result: its name (possibly empty) and type. -/
inductive Var where
  | mk (name : String) (type : GoType)

/-- A function type: parameters, results, and whether the last parameter is variadic (its
type is then the slice of the element type). -/
inductive FuncType where
  | mk (params : List Var) (results : List Var) (variadic : Bool)

/-- A field of a struct type: its name (the type's name when embedded), the package that
wrote it, whether it is embedded, its type and its tag (empty for none). -/
inductive StructField where
  | mk (name : String) (pkgPath : String) (embedded : Bool) (type : GoType) (tag : String)

/-- A method of an interface type: its name, the package that wrote it and its signature. -/
inductive Method where
  | mk (name : String) (pkgPath : String) (sig : FuncType)

/-- A term of a union: `~T` or `T`. -/
inductive Term where
  | mk (tilde : Bool) (type : GoType)

end

instance : Inhabited GoType := ⟨.invalid⟩
instance : Inhabited FuncType := ⟨.mk [] [] false⟩

namespace Var
def name : Var → String | .mk n _ => n
def type : Var → GoType | .mk _ t => t
end Var

namespace FuncType
def params : FuncType → List Var | .mk p _ _ => p
def results : FuncType → List Var | .mk _ r _ => r
/-- The last parameter is variadic. -/
def variadic : FuncType → Bool | .mk _ _ v => v
end FuncType

namespace Method
def name : Method → String | .mk n _ _ => n
/-- The writing package. -/
def pkgPath : Method → String | .mk _ p _ => p
end Method

/-- The predeclared interface `error`. -/
def GoType.errorType : GoType := .named ⟨"", "", "error", 0⟩ []

/-- The predeclared alias `any` of the empty interface. -/
def GoType.anyType : GoType := .aliased ⟨"", "", "any", 0⟩ []

/-- The predeclared constraint `comparable`. -/
def GoType.comparableType : GoType := .named ⟨"", "", "comparable", 0⟩ []

/-- The names of the predeclared basic types; `byte` and `rune` keep their own names. -/
def basicNames : List String :=
  ["bool", "byte", "complex64", "complex128", "float32", "float64", "int", "int8", "int16",
   "int32", "int64", "rune", "string", "uint", "uint8", "uint16", "uint32", "uint64",
   "uintptr"]

/-- The predeclared type of a name, if it names one. -/
def predeclaredType? (name : String) : Option GoType :=
  if basicNames.contains name then some (.basic name)
  else if name == "error" then some .errorType
  else if name == "any" then some .anyType
  else if name == "comparable" then some .comparableType
  else none

/-- The order of interface methods: exported names first, then by name, then (for unexported
names) by writing package. -/
def Method.before (a b : Method) : Bool :=
  let ea := Go.isExported a.name
  let eb := Go.isExported b.name
  if ea != eb then ea
  else if a.name != b.name then decide (a.name < b.name)
  else !ea && decide (a.pkgPath < b.pkgPath)

end StaticWrap.Types
