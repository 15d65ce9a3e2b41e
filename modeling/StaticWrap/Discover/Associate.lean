import StaticWrap.GoSource.Syntax
/-!
**Which functions belong to a type.**

A package-level function without receiver is a factory of a type declared in its package
when its results name exactly one local type. The package's files are read in two passes:

1. Declarations other than functions: every type declaration (except `_`) declares a name;
   embedded fields of declared struct and interface types, and the dominant type of a `const`
   or `var` group (named by at least three quarters of its specifications), make a name known
   without declaring it.
2. Functions: each result field counts when its type, after one slice or array level, comes
   down (through pointers, parentheses and type arguments) to a local name that is neither `_`
   nor one of the function's type parameters, nor a predeclared type name (`int`, `error`, ...)
   that the first pass did not make known. A function with exactly one counted result belongs
   to that name.

`associated files name` lists the functions that belong to the type `name`, or tells that the
package declares no such type.
-/

namespace StaticWrap.Discover

open StaticWrap.GoSource

/-- The predeclared type names. -/
def predeclaredTypes : List String :=
  ["any", "bool", "byte", "comparable", "complex64", "complex128", "error", "float32", "float64",
   "int", "int8", "int16", "int32", "int64", "rune", "string", "uint", "uint8", "uint16",
   "uint32", "uint64", "uintptr"]

/-- The name a type expression comes down to, and whether it is taken from another package. -/
def baseTypeName : Expr → Option (String × Bool)
  | .ident id => some (id.name, false)
  | .index x _ _ _ => baseTypeName x
  | .indexList x _ _ _ => baseTypeName x
  | .selector (.ident _) sel => some (sel.name, true)
  | .paren _ x _ => baseTypeName x
  | .star _ x => baseTypeName x
  | _ => none

/-- The local name a type expression comes down to, if any. -/
def localTypeName (e : Expr) : Option String :=
  match baseTypeName e with
  | some (n, false) => some n
  | _ => none

/-- A name that can stand for a type entry: not empty and not `_`. -/
def isEntryName (n : String) : Bool := n != "" && n != "_"

/-- The fields of a struct type or the elements of an interface type. -/
def typeFields : Expr → List Field
  | .struct _ fl => fl.list
  | .iface _ fl => fl.list
  | _ => []

/-- The type name a `const` or `var` group is dominated by: the only type name its
specifications give (an untyped constant without value repeats the previous one), named by
at least three quarters of the specifications. -/
def dominantType (tok : Tok) (specs : List Spec) : Option String := Id.run do
  let mut domName := ""
  let mut domFreq := 0
  let mut prev := ""
  let mut n := 0
  for s in specs do
    match s with
    | .value _ _ typ values _ =>
      let name := match typ with
        | some t => (localTypeName t).getD ""
        | none => if tok == .kwConst && values.isEmpty then prev else ""
      if name != "" then
        if domName != "" && domName != name then
          domName := ""
          break
        domName := name
        domFreq := domFreq + 1
      prev := name
      n := n + 1
    | _ => pure ()
  if n == 0 || domName == "" || domFreq < specs.length * 3 / 4 then return none
  return some domName

/-- What the first pass finds: the declared type names and the names made known. -/
structure TypeNames where
  declared : List String := []
  known : List String := []

/-- Records the declarations of one file (functions apart). -/
def TypeNames.addFile (t : TypeNames) (f : File) : TypeNames := Id.run do
  let mut t := t
  for d in f.decls do
    match d with
    | .gen _ _ tok _ specs _ =>
      if tok == .kwType then
        for s in specs do
          match s with
          | .typeSpec _ name _ _ typ _ =>
            if isEntryName name.name then
              t := { t with declared := t.declared ++ [name.name], known := t.known ++ [name.name] }
              for fld in typeFields typ do
                if fld.names.isEmpty then
                  match localTypeName fld.type with
                  | some n => if isEntryName n then t := { t with known := t.known ++ [n] }
                  | none => pure ()
          | _ => pure ()
      else if tok == .kwConst || tok == .kwVar then
        match dominantType tok specs with
        | some n => if isEntryName n then t := { t with known := t.known ++ [n] }
        | none => pure ()
    | _ => pure ()
  return t

/-- The names of a function's type parameters. -/
def typeParamNames (sig : Signature) : List String :=
  match sig.typeParams with
  | some fl => fl.list.flatMap fun f => f.names.map (·.name)
  | none => []

/-- The type a function without receiver belongs to, if any. -/
def factoryOf (names : TypeNames) (sig : Signature) : Option String := Id.run do
  let results := match sig.results with
    | some fl => fl.list
    | none => []
  let tparams := typeParamNames sig
  let mut found : Option String := none
  let mut count := 0
  for r in results do
    let t := match r.type with
      | .array _ _ elt => elt
      | other => other
    match localTypeName t with
    | some n =>
      let predeclared := predeclaredTypes.contains n && !names.known.contains n
      if !predeclared && !tparams.contains n && isEntryName n then
        found := some n
        count := count + 1
        if count > 1 then break
    | none => pure ()
  if count == 1 then return found else return none

/-- The functions that belong to the type `name` in the package of `files`, in file and
declaration order, or none when the package declares no type of that name. -/
def associated (files : List File) (name : String) : Option (List String) :=
  let names := files.foldl TypeNames.addFile {}
  if !names.declared.contains name then none
  else
    some (files.flatMap fun f => f.decls.filterMap fun d =>
      match d with
      | .func _ none fname sig _ => if factoryOf names sig == some name then some fname.name else none
      | _ => none)

end StaticWrap.Discover
