import StaticWrap.Text.SlashPath
import StaticWrap.Text.Basic
/-!
**A tree of files.**

The files a run sees: each file is an absolute slash path with its content, and directories
are the explicitly created ones, every parent of a file or directory, and the root. Paths are
compared after cleaning.

* `Tree.readDir`: the entries directly inside a directory, sorted by name, each a name and
  whether it is a directory; reading a missing path or a file fails as opening it would.
* `Tree.readFile`: the content of a file; a directory or a missing path fails.
* `Tree.write`, `Tree.remove`: replace or drop a file; the directories a removed file lay in
  stay.
* `Tree.unlink`: drops a file or an empty directory; a directory with entries stays and is a
  fault, as is a missing path (the fault is the reason alone).
* `Tree.lookupFault?`: looks a path up as written, element by element, so that `missing/..`
  and the empty path name nothing and `file/..` meets a file where a directory is needed.
-/

namespace StaticWrap.Disk

/-- Files and directories by absolute path. -/
structure Tree where
  root : String
  files : List (String × String) := []
  dirs : List String := []
  deriving Repr, Inhabited

/-- An entry of a directory: its name and whether it is a directory. -/
structure Entry where
  name : String
  isDir : Bool
  deriving DecidableEq, Repr

/-- The path lies strictly below the directory. -/
def isBelow (dir p : String) : Bool := Text.hasPrefix p (dir ++ "/")

/-- The prefixes of a path that end right before one of its slashes, shortest first; `seen` is
the part already read, reversed. A leading slash ends no prefix. -/
def slashPrefixes (seen : List Char) : List Char → List (List Char)
  | [] => []
  | c :: rest =>
    (if c = '/' && !seen.isEmpty then [seen.reverse] else []) ++ slashPrefixes (c :: seen) rest

/-- The directories a path lies in: each prefix that ends before a slash. -/
def parentDirs (p : String) : List String := (slashPrefixes [] p.toList).map String.ofList

namespace Tree

/-- The path is a file. -/
def isFile (t : Tree) (p : String) : Bool :=
  let p := Text.cleanPath p
  t.files.any (·.1 == p)

/-- The clean path is a directory: the root or above it, an explicit directory or above one,
or above a file. -/
def hasDir (t : Tree) (p : String) : Bool :=
  p == t.root || Text.hasPrefix t.root (p ++ "/") || t.dirs.any (fun d => d == p || isBelow p d) ||
    t.files.any (fun f => isBelow p f.1)

/-- The path is a directory. -/
def isDir (t : Tree) (p : String) : Bool := t.hasDir (Text.cleanPath p)

/-- Something is at the path. -/
def exists? (t : Tree) (p : String) : Bool := t.isFile p || t.isDir p

/-- The first element of a path below a directory. -/
def childName (dir p : String) : Option String :=
  (Text.cutPrefix? p (dir ++ "/")).map fun rest => (Text.splitOn rest "/").headD ""

/-- The entries directly inside a directory, sorted by name. -/
def readDir (t : Tree) (p : String) : Except String (List Entry) :=
  let d := Text.cleanPath p
  if t.isFile d then .error ("open " ++ p ++ ": not a directory")
  else if !t.isDir d then .error ("open " ++ p ++ ": no such file or directory")
  else
    let names := (t.files.map (·.1) ++ t.dirs).filterMap (childName d)
    let names := (Text.sortTexts names).eraseDups
    .ok (names.map fun n => ⟨n, t.isDir (d ++ "/" ++ n)⟩)

/-- The content of a file. -/
def readFile (t : Tree) (p : String) : Except String String :=
  let c := Text.cleanPath p
  match t.files.find? (·.1 == c) with
  | some (_, content) => .ok content
  | none =>
    if t.isDir c then .error ("read " ++ p ++ ": is a directory")
    else .error ("open " ++ p ++ ": no such file or directory")

/-- Writes a file, replacing its content when it exists. -/
def write (t : Tree) (p content : String) : Tree :=
  let c := Text.cleanPath p
  if t.files.any (·.1 == c) then
    { t with files := t.files.map fun f => if f.1 == c then (c, content) else f }
  else { t with files := t.files ++ [(c, content)] }

/-- Removes a file; the directories it lay in stay. -/
def remove (t : Tree) (p : String) : Tree :=
  let c := Text.cleanPath p
  if t.files.any (·.1 == c) then
    { t with files := t.files.filter (·.1 != c), dirs := t.dirs ++ parentDirs c }
  else t

/-- Removes a file or an empty directory; the fault is the reason it cannot be removed. -/
def unlink (t : Tree) (p : String) : Except String Tree :=
  let c := Text.cleanPath p
  if t.isFile c then .ok (t.remove c)
  else if !t.isDir c then .error "no such file or directory"
  else if t.files.any (fun f => isBelow c f.1) || t.dirs.any (isBelow c) then
    .error "directory not empty"
  else .ok { t with dirs := t.dirs.filter (· != c) ++ parentDirs c }

/-- The path lies below a file, so that no directory on the way to it can exist. -/
def underFile (t : Tree) (p : String) : Bool :=
  let c := Text.cleanPath p
  t.files.any fun f => isBelow f.1 c

/-- Creates a directory. -/
def makeDir (t : Tree) (p : String) : Tree :=
  let c := Text.cleanPath p
  if t.isDir c then t else { t with dirs := t.dirs ++ [c] }

/-- A bound on the depth of the tree: more than the number of elements of any path. -/
def depth (t : Tree) : Nat :=
  ((t.files.map (·.1) ++ t.dirs).map fun p => (Text.splitOn p "/").length).foldl max 0 + 1

/-- The path is absolute: rooted, or the tree's root or below it. -/
def isAbsolute (t : Tree) (p : String) : Bool :=
  Text.isRooted p || p == t.root || Text.hasPrefix p (t.root ++ "/")

/-- The absolute form of a path, relative paths read from the working directory. -/
def absolute (t : Tree) (cwd p : String) : String :=
  if t.isAbsolute p then Text.cleanPath p else Text.cleanPath (cwd ++ "/" ++ p)

/-- Why looking a path up fails: nothing is there, or a file stands where a directory is
needed. -/
inductive LookupFault where
  | missing
  | notDir
  deriving DecidableEq, Repr

/-- Looks a path up as it is written, read from `cwd`, the way the system walks it: each element
but the last must lead to a directory, so a path through a missing directory fails even where a
later `..` would lead back out of it; the empty path names nothing. -/
def lookupFault? (t : Tree) (cwd p : String) : Option LookupFault :=
  if p.isEmpty then some .missing
  else match (parentDirs p).find? (fun q => !t.isDir (t.absolute cwd q)) with
    | some q => some (if t.isFile (t.absolute cwd q) then .notDir else .missing)
    | none => if t.exists? (t.absolute cwd p) then none else some .missing

end Tree

end StaticWrap.Disk
