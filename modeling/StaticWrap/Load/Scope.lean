import StaticWrap.GoSource.Parser
import StaticWrap.Text.Quote
import StaticWrap.Types.Basic
/-!
**The declarations of a package.**

What name resolution needs to know about a package: its path and declared name, its parsed
files with the imports of each, and the names it declares at package level: type
declarations (with their parameter lists and right-hand sides, to be resolved on demand) and
the other names (constants with their value expressions, variables and functions). A package
whose declarations are not known (`isOpen`) is taken to declare every exported name as a
type; one known in part declares some types whose structure is not known (`shapeless`), and
may not declare every exported name (`complete`).

A `World` is the list of packages that a load has read, the one loaded and those it imports.

* `SourceUnit`: a parsed file of a package.
* `PackageDecls.ofFiles`: the declarations of parsed files.
* `World.find?`: a package of the world by import path.
* `SourceUnit.importPath?`: the import path that a name of a file stands for, the name of an
  unnamed import being the imported package's declared name.
-/

namespace StaticWrap.Load

open StaticWrap.GoSource StaticWrap.Types

/-- A parsed file of a package: its absolute path, syntax and line table. -/
structure SourceUnit where
  path : String
  file : File
  lines : Lines

/-- A type declared at package level. -/
structure TypeDecl where
  name : String
  isAlias : Bool
  typeParams : Option FieldList
  rhs : Expr
  /-- The index of the declaring file. -/
  fileIndex : Nat

/-- What a package-level name other than a type stands for. -/
inductive ValueKind where
  | const (value : Option Expr)
  | var
  | func
  deriving Inhabited

/-- The declarations of a package. -/
structure PackageDecls where
  path : String
  name : String
  files : List SourceUnit := []
  types : List TypeDecl := []
  values : List (String × ValueKind) := []
  /-- The declarations are not known: every exported name is taken as a type. -/
  isOpen : Bool := false
  /-- Types whose structure and methods are not known. -/
  shapeless : List String := []
  /-- Every exported name is declared: a name not found does not exist. -/
  complete : Bool := true
  /-- The language version of the package's module (the minor number of `go1.N`); none when
  the uses of features are not checked against one. -/
  lang : Option Nat := none
  /-- The definitions of the types declared inside its functions met so far, by the number
  that tells each apart (`TypeObj.scope`). -/
  localTypes : List (Nat × GoType) := []

/-- The package a world reads for an import path it knows nothing of. -/
def PackageDecls.opened (path name : String) : PackageDecls :=
  { path, name, isOpen := true }

/-- The type declared under a name. -/
def PackageDecls.typeDecl? (p : PackageDecls) (name : String) : Option TypeDecl :=
  p.types.find? (·.name == name)

/-- What a name other than a type stands for. -/
def PackageDecls.value? (p : PackageDecls) (name : String) : Option ValueKind :=
  (p.values.find? (·.1 == name)).map (·.2)

/-- The package-level declarations of one file: types, then other names. -/
def fileDecls (index : Nat) (f : File) : List TypeDecl × List (String × ValueKind) :=
  f.decls.foldl (fun (ts, vs) d =>
    match d with
    | .func _ none name _ _ => (ts, if name.name == "_" || name.name == "init" then vs
        else vs ++ [(name.name, .func)])
    | .gen _ _ tok _ specs _ =>
      -- an untyped constant without value repeats the previous specification's values
      let (ts, vs, _) := specs.foldl (fun (acc : List TypeDecl × List (String × ValueKind) ×
          List Expr) s =>
        let (ts, vs, prevValues) := acc
        match s with
        | .typeSpec _ name tps assign rhs _ =>
          (ts ++ [⟨name.name, assign != 0, tps, rhs, index⟩], vs, prevValues)
        | .value _ names _ values _ =>
          let values := if tok == .kwConst && values.isEmpty then prevValues else values
          let kinds := names.zipIdx.map fun (n, i) =>
            (n.name, if tok == .kwConst then ValueKind.const values[i]? else .var)
          (ts, vs ++ kinds.filter (·.1 != "_"), values)
        | _ => (ts, vs, prevValues)) (ts, vs, [])
      (ts, vs)
    | _ => (ts, vs)) ([], [])

/-- The declarations of a package's parsed files. -/
def PackageDecls.ofFiles (path name : String) (files : List SourceUnit) : PackageDecls :=
  let (types, values) := files.zipIdx.foldl (fun (ts, vs) (u, i) =>
    let (t, v) := fileDecls i u.file
    (ts ++ t, vs ++ v)) ([], [])
  { path, name, files, types := types.filter (·.name != "_"), values }

/-- The packages a load has read. -/
abbrev World := List PackageDecls

/-- A package of the world by import path. -/
def World.find? (w : World) (path : String) : Option PackageDecls := List.find? (·.path == path) w

/-- The import paths of a file, each with the name it was given (if any). -/
def fileImportSpecs (f : File) : List (Option String × String) :=
  f.imports.filterMap fun s =>
    match s with
    | .importSpec _ name _ lit _ _ => (Text.unquote? lit).map fun p => (name.map (·.name), p)
    | _ => none

/-- The import path that a name stands for in a file: the last import given that name, or
whose package declares it when the import gives none. Blank and dot imports name nothing. -/
def SourceUnit.importPath? (u : SourceUnit) (w : World) (name : String) : Option String :=
  ((fileImportSpecs u.file).filter fun (given, path) =>
    match given with
    | some g => g == name
    | none => match w.find? path with
      | some p => p.name == name
      | none => false).getLast?.map (·.2)

end StaticWrap.Load
