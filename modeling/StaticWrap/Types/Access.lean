import StaticWrap.Types.Basic
import StaticWrap.Types.Equality
import StaticWrap.Check.ImportPath
/-!
**Which types a package can write.**

A generated file lives in the package at import path `importer` and must spell out every type
of the signatures it copies. A type stands in the way (`Barrier`) when it names:

* a type declared inside a function;
* an object of another package that is unexported, or that lies in an internal package
  `importer` may not import;
* a type parameter that is not one of the function's own;
* a struct field or interface method that another package wrote with an unexported name.

Predeclared objects and the package-level objects of `importer` itself are always writable. The
parts of a type are visited in order (type arguments after the object; map keys before values;
interface methods, sorted, before embedded types; type parameter constraints, then parameters,
then results of a signature) and the first barrier found is the answer. The underlying type of a
named type or alias is not visited: its name is all the generated file writes.

`typeBarrier` and its companions say what the first barrier is; `checkType` and its companions
are the check as it runs, which keeps the types it has met and passes a type met before at once
(`funcBarrier` runs it on a function).
-/

namespace StaticWrap.Types

/-- Why a function cannot be copied onto a wrapper. -/
inductive Barrier where
  /-- Its type parameters differ from those of the wrapper, or it mentions a type parameter
  that is not its own. -/
  | generic
  /-- It mentions a type declared inside a function. -/
  | local (name : String)
  /-- It mentions an unexported object of another package. -/
  | unexported (pkgPath name : String)
  /-- It mentions an object of an internal package that cannot be imported. -/
  | internal (pkgPath : String)
  /-- It mentions a struct type with an unexported field written by another package. -/
  | field (name : String)
  /-- It mentions an interface type with an unexported method written by another package. -/
  | method (name : String)
  deriving DecidableEq, Repr

/-- The start of every message about an inaccessible type. -/
def inaccessibleText : String :=
  "signature mentions a type that is not accessible from the generated package"

def Barrier.message : Barrier → String
  | .generic => "generic function cannot be lifted onto the wrapper"
  | .local n => inaccessibleText ++ ": " ++ n ++ " is declared inside a function"
  | .unexported p n => inaccessibleText ++ ": " ++ p ++ "." ++ n ++ " is unexported"
  | .internal p => inaccessibleText ++ ": package " ++ p ++ " is internal"
  | .field n => inaccessibleText ++ ": struct field " ++ n ++ " is unexported"
  | .method n => inaccessibleText ++ ": interface method " ++ n ++ " is unexported"

/-- The barrier of an object, seen from the package at `importer`. -/
def objBarrier (importer : String) (o : TypeObj) : Option Barrier :=
  if o.isPredeclared then none
  else if o.scope != 0 then some (.local o.name)
  else if o.pkgPath == importer then none
  else if !o.isExported then some (.unexported o.pkgPath o.name)
  else if !Check.importable o.pkgPath importer then some (.internal o.pkgPath)
  else none

mutual

/-- The first barrier of a type. -/
def typeBarrier (importer : String) (own : List String) : GoType → Option Barrier
  | .named o args => (objBarrier importer o).orElse fun _ => typesBarrier importer own args
  | .aliased o args => (objBarrier importer o).orElse fun _ => typesBarrier importer own args
  | .pointer e => typeBarrier importer own e
  | .slice e => typeBarrier importer own e
  | .array _ e => typeBarrier importer own e
  | .chan _ e => typeBarrier importer own e
  | .map k v => (typeBarrier importer own k).orElse fun _ => typeBarrier importer own v
  | .func sig => sigBarrier importer own sig
  | .struct fields => fieldsBarrier importer own fields
  | .iface _ methods embeddeds =>
    (methodsBarrier importer own methods).orElse fun _ => typesBarrier importer own embeddeds
  | .union terms => termsBarrier importer own terms
  | .param n => if own.contains n then none else some .generic
  | .basic _ | .invalid => none

/-- The first barrier of a list of types. -/
def typesBarrier (importer : String) (own : List String) : List GoType → Option Barrier
  | [] => none
  | t :: ts => (typeBarrier importer own t).orElse fun _ => typesBarrier importer own ts

/-- The first barrier of a signature: parameters, then results. -/
def sigBarrier (importer : String) (own : List String) : FuncType → Option Barrier
  | .mk params results _ =>
    (varsBarrier importer own params).orElse fun _ => varsBarrier importer own results

/-- The first barrier of parameters or results. -/
def varsBarrier (importer : String) (own : List String) : List Var → Option Barrier
  | [] => none
  | .mk _ t :: rest => (typeBarrier importer own t).orElse fun _ => varsBarrier importer own rest

/-- The first barrier of struct fields: the field's name, then its type. -/
def fieldsBarrier (importer : String) (own : List String) : List StructField → Option Barrier
  | [] => none
  | .mk name pkg _ t _ :: rest =>
    if !Go.isExported name && !pkg.isEmpty && pkg != importer then some (.field name)
    else (typeBarrier importer own t).orElse fun _ => fieldsBarrier importer own rest

/-- The first barrier of interface methods: the method's name, then its signature. -/
def methodsBarrier (importer : String) (own : List String) : List Method → Option Barrier
  | [] => none
  | .mk name pkg sig :: rest =>
    if !Go.isExported name && !pkg.isEmpty && pkg != importer then some (.method name)
    else (sigBarrier importer own sig).orElse fun _ => methodsBarrier importer own rest

/-- The first barrier of union terms. -/
def termsBarrier (importer : String) (own : List String) : List Term → Option Barrier
  | [] => none
  | .mk _ t :: rest => (typeBarrier importer own t).orElse fun _ => termsBarrier importer own rest

end

/-! ### The check as it runs -/

/-- Two checks in turn: the second runs only when the first finds no barrier. -/
def andThenCheck (first second : StateM (List GoType) (Option Barrier)) :
    StateM (List GoType) (Option Barrier) := do
  match ← first with
  | some b => pure (some b)
  | none => second

/-- Runs the check of a type once: a type met before passes at once; any other is marked as met,
then checked. -/
def checkOnce (t : GoType) (check : StateM (List GoType) (Option Barrier)) :
    StateM (List GoType) (Option Barrier) := do
  if (← get).contains t then return none
  modify (t :: ·)
  check

mutual

/-- Checks a type once: its own names, then its parts. -/
def checkType (importer : String) (own : List String) (t : GoType) :
    StateM (List GoType) (Option Barrier) :=
  checkOnce t <| match t with
  | .named o args | .aliased o args =>
    match objBarrier importer o with
    | some b => pure (some b)
    | none => checkTypes importer own args
  | .param n => pure (if own.contains n then none else some .generic)
  | .pointer e | .slice e | .array _ e | .chan _ e => checkType importer own e
  | .map k v => andThenCheck (checkType importer own k) (checkType importer own v)
  | .func sig => checkSig importer own sig
  | .struct fields => checkFields importer own fields
  | .iface _ methods embeddeds =>
    andThenCheck (checkMethods importer own methods) (checkTypes importer own embeddeds)
  | .union terms => checkTerms importer own terms
  | .basic _ | .invalid => pure none

/-- Checks a list of types in order. -/
def checkTypes (importer : String) (own : List String) :
    List GoType → StateM (List GoType) (Option Barrier)
  | [] => pure none
  | t :: ts => andThenCheck (checkType importer own t) (checkTypes importer own ts)

/-- Checks a signature: parameters, then results. -/
def checkSig (importer : String) (own : List String) :
    FuncType → StateM (List GoType) (Option Barrier)
  | .mk params results _ =>
    andThenCheck (checkVars importer own params) (checkVars importer own results)

/-- Checks parameters or results in order. -/
def checkVars (importer : String) (own : List String) :
    List Var → StateM (List GoType) (Option Barrier)
  | [] => pure none
  | .mk _ t :: rest => andThenCheck (checkType importer own t) (checkVars importer own rest)

/-- Checks struct fields in order: the field's name, then its type. -/
def checkFields (importer : String) (own : List String) :
    List StructField → StateM (List GoType) (Option Barrier)
  | [] => pure none
  | .mk name pkg _ t _ :: rest =>
    if !Go.isExported name && !pkg.isEmpty && pkg != importer then pure (some (.field name))
    else andThenCheck (checkType importer own t) (checkFields importer own rest)

/-- Checks interface methods in order: the method's name, then its signature. -/
def checkMethods (importer : String) (own : List String) :
    List Method → StateM (List GoType) (Option Barrier)
  | [] => pure none
  | .mk name pkg sig :: rest =>
    if !Go.isExported name && !pkg.isEmpty && pkg != importer then pure (some (.method name))
    else andThenCheck (checkSig importer own sig) (checkMethods importer own rest)

/-- Checks union terms in order. -/
def checkTerms (importer : String) (own : List String) :
    List Term → StateM (List GoType) (Option Barrier)
  | [] => pure none
  | .mk _ t :: rest => andThenCheck (checkType importer own t) (checkTerms importer own rest)

end

/-- The first barrier of a function with type parameters (names and constraints) and a
signature: the constraints, then the parameters, then the results, with one list of the types
met for the whole function. -/
def funcBarrier (importer : String) (typeParams : List (String × GoType)) (sig : FuncType) :
    Option Barrier :=
  let own := typeParams.map (·.1)
  (Id.run ((andThenCheck (checkTypes importer own (typeParams.map (·.2)))
    (checkSig importer own sig)).run [])).1

end StaticWrap.Types
