import StaticWrap.Disk.Tree
import StaticWrap.Module.GoMod
import StaticWrap.Failure.Basic
/-!
**The module a directory belongs to.**

The module is found by looking for a non-blank `go.mod` in the directory and its parents;
its `module` line names it, unless the user gave a module path, which then replaces the
name (the file must still be found and read).

* `moduleRoot`: the directory of the `go.mod` and the module path, or the fault, which wraps
  the reason the module could not be read.
* `importPath`: the import path of a directory: the module path joined with the directory's
  path inside the module; a directory outside the module is refused.
-/

namespace StaticWrap.Run

open StaticWrap.Disk

/-- The first non-blank `go.mod` at or above a directory; `fuel` bounds the climb. -/
def findGoMod (t : Tree) : Nat → String → Option String
  | 0, _ => none
  | fuel + 1, dir =>
    let p := Text.joinPath [dir, "go.mod"]
    match t.readFile p with
    | .ok content => if (Text.trimSpace content).isEmpty then up fuel dir else some p
    | .error _ => up fuel dir
where
  /-- Goes on with the parent directory. -/
  up (fuel : Nat) (dir : String) : Option String :=
    let parent := Text.dirName dir
    if parent == dir then none else findGoMod t fuel parent

/-- The module name in a `go.mod` file. -/
def parseModuleName (t : Tree) (path : String) : Except Failure String :=
  match t.readFile path with
  | .error e => .error (.wrapped ("failed to read go.mod file: " ++ e) (.plain e))
  | .ok content =>
    match GoMod.readModFile path content with
    | .error e => .error (.wrapped ("failed to parse go.mod file: " ++ e) (.plain e))
    | .ok none => .error (.plain "no module declaration found in go.mod")
    | .ok (some m) => .ok m

/-- The module root directory and module path of a directory. -/
def moduleRoot (t : Tree) (cwd custom dir : String) : Except Failure (String × String) :=
  let found := findGoMod t (t.depth + 2) (t.absolute cwd dir)
  let result : Except Failure (String × String) :=
    match found with
    | none => .error (.plain ("go.mod file not found above " ++ dir))
    | some p => (Text.dirName p, ·) <$> parseModuleName t p
  match result with
  | .error e =>
    .error (.wrapped ("failed to determine module name: " ++ e.message ++
      " (consider using --module flag)") e)
  | .ok (root, name) => .ok (root, if custom.isEmpty then name else custom)

/-- The import path of a directory. -/
def importPath (t : Tree) (cwd custom dir : String) : Except Failure String := do
  let (root, name) ← moduleRoot t cwd custom dir
  let abs := t.absolute cwd dir
  match Text.relPath root abs with
  | none => .error (.plain "failed to calculate relative path")
  | some "." => pure name
  | some rel =>
    if Text.hasPrefix rel "../" then
      .error (.plain ("directory " ++ dir ++ " is outside module " ++ name))
    else pure (Text.joinPath [name, rel])

end StaticWrap.Run
