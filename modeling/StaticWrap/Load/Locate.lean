import StaticWrap.Load.Std
import StaticWrap.Stdlib.Catalogue
import StaticWrap.Run.Module
import StaticWrap.Build.Match
/-!
**Where a package comes from.**

An import path names a package of the standard library or of the main module, the module
whose `go.mod` is found at or above the directory the lookup starts from. A package of the
main module is the directory that its path names below the module root; it must hold a Go
source file the build uses (`.go`, not a test, not hidden, build constraints satisfied).

A pattern may also be a relative directory (`./lib`, `..`), read from the starting
directory, or end in `/...`, which matches the path before it and every package below it;
such a pattern that matches nothing yields no package at all.

The faults are the ones the package lister reports:

* `stat DIR: directory not found` for a relative directory that does not exist;
* `no required module provides package P; to add it: go get P` for a path that no module
  provides, which includes a missing directory of the main module;
* `package P is not in std (ROOT/src/P)` for a path without a dot in its first element that
  the standard library does not have;
* `no Go files in DIR` for a directory without buildable sources.

A module that the main module requires and replaces by a directory provides the packages of
that directory; one replaced but not required is named in the fault instead. The main
module's `go.mod` is read strictly: a fault there stops the lister before anything else.
-/

namespace StaticWrap.Load

open StaticWrap.Disk

/-- The root of the standard library's sources. -/
def stdRoot : String := "$GOROOT/src"

/-- Where a package's declarations come from. -/
inductive Origin where
  /-- A directory of the main module, with the package's import path. -/
  | module (path dir : String)
  /-- A catalogued package of the standard library. -/
  | std (pkg : StdPackage)
  /-- A package of the standard library whose declarations are not catalogued. -/
  | stdOpen (path : String)

/-- The import path of an origin. -/
def Origin.path : Origin → String
  | .module p _ => p
  | .std p => p.path
  | .stdOpen p => p

/-- A module that a `replace` line of the main module's `go.mod` puts in a directory: its
path, the directory, and whether the module is also required (only then does it provide its
packages). -/
structure Replaced where
  path : String
  dir : String
  required : Bool

/-- The main module: its root directory, module path, and the modules replaced by
directories. -/
structure MainModule where
  root : String
  path : String
  replaced : List Replaced := []

/-- The modules a module file replaces by directories, read from its root. -/
def replacedModules (root : String) (info : GoMod.ModInfo) : List Replaced :=
  info.replaces.filterMap fun r =>
    if !GoMod.isDirectoryPath r.target || r.targetVersion != "" then none
    else
      let dir := if Text.hasPrefix r.target "/" then Text.cleanPath r.target
        else Text.cleanPath (root ++ "/" ++ r.target)
      let required := info.requires.any fun (p, v) =>
        p == r.path && (r.version.isEmpty || some r.version == GoMod.Version.canonical? v)
      some ⟨r.path, dir, required⟩

/-- The main module of a directory, if one is found. -/
def mainModule? (t : Tree) (dir : String) : Option MainModule := do
  let modFile ← Run.findGoMod t (t.depth + 2) dir
  match Run.parseModuleName t modFile with
  | .ok name =>
    let root := Text.dirName modFile
    let replaced := match t.readFile modFile with
      | .ok content =>
        match GoMod.readModInfo modFile content true with
        | .ok info => replacedModules root info
        | .error _ => []
      | .error _ => []
    some ⟨root, name, replaced⟩
  | .error _ => none

/-- The fault the package lister stops with when the main module's `go.mod`, read strictly,
does not parse: its faults, with the file named relative to the directory. -/
def modFileFault? (t : Tree) (dir : String) : Option String := do
  let modFile ← Run.findGoMod t (t.depth + 2) dir
  let content ← (t.readFile modFile).toOption
  let short := (Text.relPath dir modFile).getD modFile
  match GoMod.readModInfo short content true with
  | .ok _ => none
  | .error e => some ("go: errors parsing " ++ short ++ ":\n" ++ e ++ "\n")

/-- A Go source file of a directory that the build reads, tests included: `.go`, not hidden,
build constraints satisfied. -/
def isSourceFile (t : Tree) (tags : List String) (dir : String) (e : Entry) : Bool :=
  !e.isDir && Text.hasSuffix e.name ".go" && !Text.hasPrefix e.name "_" &&
    !Text.hasPrefix e.name "." &&
    match t.readFile (dir ++ "/" ++ e.name) with
    | .ok content => Build.matchFile tags e.name content
    | .error _ => false

/-- The names of a directory's source files, tests included, in name order. A directory is a
package when it has one. -/
def sourceFiles (t : Tree) (tags : List String) (dir : String) : List String :=
  match t.readDir dir with
  | .ok entries => (entries.filter (isSourceFile t tags dir)).map (·.name)
  | .error _ => []

/-- A test file: its name ends in `_test.go`. -/
def isTestFile (name : String) : Bool := Text.hasSuffix name "_test.go"

/-- The first element of a path has a dot: the path belongs to a module, not to the
standard library. -/
def hasDomain (path : String) : Bool := Text.containsText ((Text.splitOn path "/").headD "") "."

/-- The fault for an import path that no module provides. -/
def noModuleText (path : String) : String :=
  "no required module provides package " ++ path ++ "; to add it:\n\tgo get " ++ path

/-- Where the package of an import path comes from. -/
def locatePath (t : Tree) (tags : List String) (main : Option MainModule) (path : String) :
    Except String Origin :=
  if isStdPath path then
    match Stdlib.catalogued? path with
    | some p => .ok (.std p)
    | none => .ok (.stdOpen path)
  else
    let inMain : Option String := main.bind fun m =>
      if path == m.path then some m.root
      else (Text.cutPrefix? path (m.path ++ "/")).map fun rest => m.root ++ "/" ++ rest
    match inMain with
    | some dir =>
      if !t.isDir dir then .error (noModuleText path)
      else if (sourceFiles t tags dir).isEmpty then .error ("no Go files in " ++ dir)
      else .ok (.module path dir)
    | none =>
      let inReplaced : Option (Replaced × String) := main.bind fun m =>
        (m.replaced.filterMap fun r =>
          if path == r.path then some (r, r.dir)
          else (Text.cutPrefix? path (r.path ++ "/")).map fun rest => (r, r.dir ++ "/" ++ rest)).head?
      match inReplaced with
      | some (r, dir) =>
        if !t.isDir dir || (sourceFiles t tags dir).isEmpty then .error (noModuleText path)
        else if !r.required then
          .error ("module " ++ r.path ++ " provides package " ++ path ++
            " and is replaced but not required; to add it:\n\tgo get " ++ r.path)
        else .ok (.module path dir)
      | none =>
        if hasDomain path then .error (noModuleText path)
        else .error ("package " ++ path ++ " is not in std (" ++ stdRoot ++ "/" ++ path ++ ")")

/-- The import path of a directory of the main module. -/
def dirImportPath (main : Option MainModule) (dir : String) : Option String := do
  let m ← main
  match Text.relPath m.root dir with
  | some "." => some m.path
  | some rel => if Text.hasPrefix rel ".." then none else some (m.path ++ "/" ++ rel)
  | none => none

/-- The directories below a directory, itself included, in walk order. -/
def dirsBelow (t : Tree) : Nat → String → List String
  | 0, _ => []
  | n + 1, dir =>
    match t.readDir dir with
    | .ok entries =>
      dir :: entries.flatMap fun e =>
        if e.isDir && !Text.hasPrefix e.name "." && !Text.hasPrefix e.name "_" &&
            e.name != "testdata" then dirsBelow t n (dir ++ "/" ++ e.name)
        else []
    | .error _ => []

/-- The packages a pattern names, read from the directory `dir`. -/
def locatePattern (t : Tree) (tags : List String) (dir pattern : String) :
    Except String (List Origin) :=
  let main := mainModule? t dir
  let isRelative := pattern == "." || pattern == ".." || Text.hasPrefix pattern "./" ||
    Text.hasPrefix pattern "../"
  match Text.cutSuffix? pattern "/..." with
  | some base =>
    let baseDir? : Option String :=
      if isRelative then some (Text.cleanPath (dir ++ "/" ++ base))
      else main.bind fun m =>
        if base == m.path then some m.root
        else (Text.cutPrefix? base (m.path ++ "/")).map fun rest => m.root ++ "/" ++ rest
    match baseDir? with
    | none => .ok ((Stdlib.catalogue.filter fun p =>
        p.path == base || Text.hasPrefix p.path (base ++ "/")).map Origin.std)
    | some d =>
      .ok ((dirsBelow t (t.depth + 1) d).filterMap fun sub =>
        if (sourceFiles t tags sub).isEmpty then none
        else (dirImportPath main sub).map fun p => .module p sub)
  | none =>
    if isRelative then
      let d := Text.cleanPath (dir ++ "/" ++ pattern)
      if !t.isDir d then .error ("stat " ++ d ++ ": directory not found")
      else if (sourceFiles t tags d).isEmpty then .error ("no Go files in " ++ d)
      else match dirImportPath main d with
        | some p => .ok [.module p d]
        | none => .error ("directory " ++ pattern ++ " outside main module or its selected dependencies")
    else (locatePath t tags main pattern).map fun o => [o]

end StaticWrap.Load
