import StaticWrap.Run.Scan
import StaticWrap.Failure.Build
/-!
**Removing generated files.**

For each argument, the generated file is removed from the directory it names, or from every
directory of the tree it names (walked in name order, skipping the directories a scan skips
below the root). A root is looked up as written, and a missing one is passed over. The removed
paths are given as the arguments spell them, joined with the file name.

* `removeGenerated`: removes one generated file, or an empty directory in its place; a
  directory with entries there, or a path below a file, is a fault.
* `cleanGenerated`: the removed paths, the tree after, and the fault that stopped the
  cleaning, if any (`failed to clean directory …`).
-/

namespace StaticWrap.Run

open StaticWrap.Disk

/-- The directories of a tree in walk order, as paths joined to `shown`. -/
def walkDirs (t : Tree) : Nat → String → String → List String
  | 0, _, _ => []
  | fuel + 1, abs, shown =>
    match t.readDir abs with
    | .error _ => [shown]
    | .ok entries =>
      shown :: (entries.filter fun e => e.isDir && entersDir e.name).flatMap fun e =>
        walkDirs t fuel (abs ++ "/" ++ e.name) (Text.joinPath [shown, e.name])

/-- The directories an argument names, its root looked up as written: a missing root names
none, and a root below a file is taken as named but not walked. -/
def cleanDirs (t : Tree) (cwd : String) (root : String) (recursive : Bool) : List String :=
  let abs := t.absolute cwd root
  match t.lookupFault? cwd root with
  | some .missing => []
  | some .notDir => if recursive then [] else [root]
  | none =>
    if !recursive then [root]
    else if !t.isDir abs then []
    else walkDirs t t.depth abs root

/-- Removes the generated file at a path (as the caller names it, read from `cwd`) if
something is there: whether it was removed, and the tree after. -/
def removeGenerated (t : Tree) (cwd path : String) : Except Failure (Bool × Tree) :=
  let abs := t.absolute cwd path
  if !t.exists? abs then
    if t.underFile abs then
      .error (fileFailure "check" path (some (.plain ("stat " ++ path ++ ": not a directory"))))
    else .ok (false, t)
  else match t.unlink abs with
    | .ok t => .ok (true, t)
    | .error reason =>
      .error (fileFailure "remove" path (some (.plain ("remove " ++ path ++ ": " ++ reason))))

/-- The state of a cleaning: the removed paths, the tree, and the fault that stopped it. -/
structure Cleaning where
  removed : List String := []
  tree : Tree
  fault : Option Failure := none

/-- Removes the generated file of one directory, unless the cleaning has stopped. -/
def Cleaning.clean (c : Cleaning) (cwd fileName dir : String) : Cleaning :=
  if c.fault.isSome then c
  else
    let target := Text.joinPath [dir, fileName]
    match removeGenerated c.tree cwd target with
    | .ok (true, tree) => { c with removed := c.removed ++ [target], tree }
    | .ok (false, _) => c
    | .error e =>
      { c with fault := some (.wrapped ("failed to clean directory " ++ dir ++ ": " ++ e.message) e) }

/-- Removes the generated file from the directories the arguments name. -/
def cleanGenerated (t : Tree) (cwd fileName : String) (args : List String) : Cleaning :=
  args.foldl (fun c arg =>
    let (root, recursive) := splitPattern arg
    (cleanDirs c.tree cwd root recursive).foldl (fun c dir => c.clean cwd fileName dir) c)
    { tree := t }

end StaticWrap.Run
