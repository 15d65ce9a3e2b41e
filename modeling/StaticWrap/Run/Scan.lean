import StaticWrap.Disk.Tree
import StaticWrap.Build.Match
import StaticWrap.Failure.Build
import StaticWrap.Run.Watch
/-!
**Finding package directories.**

A directory holds a package when it has a Go source file that is not a test, not generated
and that the build uses. A tree is walked from its root in name order; directories whose
name starts with `.` or `_`, and `vendor`, `node_modules`, `testdata`, `build` and `dist`
are skipped, and so is every directory with its own `go.mod` (another module).

A directory argument names one directory, or a whole tree when it ends in `/...` (or is
`...`): the tree's root is what comes before the suffix, `.` when nothing does.

* `splitPattern`: the root of a directory argument and whether it names a tree.
* `scanDirectories`: the package directories the arguments name, each once, in the order
  found; a directory argument is taken when it holds a package.
* `roots`: the absolute root of each argument.
-/

namespace StaticWrap.Run

open StaticWrap.Disk

/-- The suffix that makes a directory argument name a whole tree. -/
def treeSuffix : String := "/..."

/-- The root of a directory argument, and whether it names a whole tree. -/
def splitPattern (arg : String) : String × Bool :=
  if arg == "..." then (".", true)
  else match Text.cutSuffix? arg treeSuffix with
    | none => (arg, false)
    | some root => (if root.isEmpty then "." else root, true)

/-- A file name that can be a package source: a `.go` file that is neither a test nor
generated. -/
def isSourceName (name : String) : Bool :=
  Text.hasSuffix name ".go" && !Text.hasSuffix name "_test.go" && !Text.hasPrefix name generatedPrefix

/-- The build uses the file of a directory. -/
def isBuildSource (t : Tree) (tags : List String) (dir : String) (e : Entry) : Bool :=
  !e.isDir && isSourceName e.name &&
    match t.readFile (dir ++ "/" ++ e.name) with
    | .ok content => Build.matchFile tags e.name content
    | .error _ => true

/-- A fault of the file system: the operation's text, caused by the system's reason, the text
after the last `": "`. -/
def diskFailure (e : String) : Failure :=
  match Text.lastIndexOf? e ": " with
  | some i => .wrapped e (.plain (Text.dropChars e (i + 2)))
  | none => .plain e

/-- The directory holds a package's source. -/
def hasGoFiles (t : Tree) (tags : List String) (dir : String) : Except String Bool := do
  let entries ← t.readDir dir
  pure (entries.any (isBuildSource t tags dir))

/-- Directory names a walk does not enter. -/
def skippedDirNames : List String := ["vendor", "node_modules", "testdata", "build", "dist"]

/-- A walk enters a directory of this name. -/
def entersDir (name : String) : Bool :=
  !((Text.hasPrefix name "." || Text.hasPrefix name "_") && name != "." && name != "..") &&
    !skippedDirNames.contains name

/-- The package directories below and at a directory; `fuel` bounds the depth. -/
def scanTree (t : Tree) (tags : List String) : Nat → String → Except Failure (List String)
  | 0, _ => .ok []
  | fuel + 1, dir => do
    let here ← match hasGoFiles t tags dir with
      | .ok b => .ok b
      | .error e => .error (fileFailure "scan" dir (some (diskFailure e)))
    let entries ← match t.readDir dir with
      | .ok es => .ok es
      | .error e => .error (fileFailure "read" dir (some (diskFailure e)))
    let subdirs := entries.filter fun e =>
      e.isDir && entersDir e.name && !t.exists? (dir ++ "/" ++ e.name ++ "/go.mod")
    let below ← subdirs.mapM fun e => scanTree t tags fuel (Text.joinPath [dir, e.name])
    pure ((if here then [dir] else []) ++ below.flatten)

/-- Adds directories not seen before. -/
def addNew (seen : List String) (found : List String) : List String :=
  found.foldl (fun acc d => if acc.contains d then acc else acc ++ [d]) seen

/-- The package directories that the arguments name. -/
def scanDirectories (t : Tree) (tags : List String) (cwd : String) (args : List String) :
    Except Failure (List String) :=
  args.foldlM (fun dirs arg => do
    let (root, recursive) := splitPattern arg
    let abs := t.absolute cwd root
    if recursive then
      let found ← scanTree t tags t.depth abs
      pure (addNew dirs found)
    else
      match hasGoFiles t tags abs with
      | .error e => .error (fileFailure "scan" abs (some (diskFailure e)))
      | .ok true => pure (addNew dirs [abs])
      | .ok false => pure dirs) []

/-- The absolute root of each argument. -/
def roots (t : Tree) (cwd : String) (args : List String) : List String :=
  args.map fun arg => t.absolute cwd (splitPattern arg).1

end StaticWrap.Run
