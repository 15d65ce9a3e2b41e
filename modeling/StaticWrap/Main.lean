import StaticWrap.Command.Run
/-!
**The command line.**

Reads the files of the module the working directory belongs to, runs the command over them
(`Command.plan`, `Command.run`), writes back the files it changed and prints its two streams.
A generation pass is timed for its closing lines. In watch mode the sources below the watched
roots are polled; after a change, once they have been quiet for the debounce delay, a new pass
runs.
-/

namespace StaticWrap.Host

open System

/-- Directories never read: version control data and package caches. -/
def skippedDirs : List String := [".git", ".hg", ".svn", "node_modules"]

/-- A file whose text the command may read: Go sources, module files and settings files. -/
def readsText (name : String) : Bool :=
  Text.hasSuffix name ".go" || name == "go.mod" || Text.hasPrefix name ".mockable" ||
    ["yaml", "yml", "json", "toml", "env", "dotenv"].contains (Settings.formatOf name)

/-- The files below a directory, each with its text (empty for files not read), and the
directories. -/
partial def walk (dir : String) : IO (List (String × String) × List String) := do
  let entries ← FilePath.readDir dir
  let mut files : List (String × String) := []
  let mut dirs : List String := [dir]
  for e in entries.toList do
    let path := dir ++ "/" ++ e.fileName
    if ← FilePath.isDir path then
      if !skippedDirs.contains e.fileName then
        let (fs, ds) ← walk path
        files := files ++ fs
        dirs := dirs ++ ds
    else if readsText e.fileName then
      let text ← try IO.FS.readFile path catch _ => pure ""
      files := files ++ [(path, text)]
    else files := files ++ [(path, "")]
  pure (files, dirs)

/-- The directory of the nearest `go.mod` at or above `d`, or `start` when there is none. -/
partial def climb (start d : String) : IO String := do
  if ← FilePath.pathExists (d ++ "/go.mod") then pure d
  else
    let parent := Text.dirName d
    if parent == d then pure start else climb start parent

/-- The directory of the nearest `go.mod` at or above a directory, or the directory itself. -/
def moduleRoot (dir : String) : IO String := climb dir dir

/-- The tree of files of the module the directory belongs to. -/
def loadTree (cwd : String) : IO Disk.Tree := do
  let root ← moduleRoot cwd
  let (files, dirs) ← walk root
  pure { root, files, dirs }

/-- Writes back what a run changed: new and changed files, removed files and directories. -/
def writeBack (before after : Disk.Tree) : IO Unit := do
  for (p, text) in after.files do
    if before.files.find? (·.1 == p) != some (p, text) then
      IO.FS.createDirAll (Text.dirName p)
      IO.FS.writeFile p text
  for (p, _) in before.files do
    if !after.files.any (·.1 == p) then
      try IO.FS.removeFile p catch _ => pure ()
  for d in before.dirs.reverse do
    if !after.dirs.contains d && !after.isDir d then
      try IO.FS.removeDirAll d catch _ => pure ()

/-- A fresh pass identity: eight hexadecimal digits. -/
def newPassId : IO String := do
  let n ← IO.rand 0 (Nat.pow 2 32 - 1)
  let digits := (Nat.toDigits 16 n)
  pure (String.ofList (List.replicate (8 - digits.length) '0' ++ digits))

/-- Prints the two streams of a run. -/
def emit (stdout stderr : String) : IO Unit := do
  IO.print stdout
  IO.eprint stderr
  (← IO.getStdout).flush
  (← IO.getStderr).flush

/-- The texts of the sources whose change starts a new pass in watch mode. -/
def watchedSources (roots : List String) (t : Disk.Tree) : List (String × String) :=
  t.files.filter fun (p, _) =>
    roots.any (fun r => p == r || Disk.isBelow r p) &&
      Run.relevant (Text.baseName p) [.write]

/-- Waits until the sources stop changing for the debounce delay; gives the tree then. -/
partial def settle (cwd : String) (roots : List String) (quietMs : UInt32)
    (seen : List (String × String)) : IO Disk.Tree := do
  IO.sleep quietMs
  let t ← loadTree cwd
  let now := watchedSources roots t
  if now == seen then pure t else settle cwd roots quietMs now

/-- Polls the sources and runs a pass after each change. -/
partial def watchLoop (inv : Command.Invocation) (c : Run.Config) (g : Run.Generator)
    (roots : List String) (seen : List (String × String)) : IO UInt32 := do
  IO.sleep 200
  let t ← loadTree inv.cwd
  let now := watchedSources roots t
  if now == seen then watchLoop inv c g roots seen
  else
    let quiet := (c.debounce / 1000000).toNat.toUInt32
    let t ← settle inv.cwd roots quiet now
    let passId ← newPassId
    let log := (Command.runLog c).info "changes detected, regenerating"
    let (g, after, log, reports) := Command.watchPass { inv with passId } g t log
    writeBack t after
    emit log.text (log.errText ++ reports)
    watchLoop inv c g roots (watchedSources roots after)

end StaticWrap.Host

open StaticWrap

/-- Runs the command with the process's arguments, environment and working directory. -/
def main (args : List String) : IO UInt32 := do
  let cwd := (← IO.currentDir).toString
  let env ← Settings.settingKeys.filterMapM fun key => do
    let name := Settings.envName key
    pure ((← IO.getEnv name).map fun v => (name, v))
  let t ← Host.loadTree cwd
  let passId ← Host.newPassId
  let inv : Command.Invocation := { args, env, cwd, passId }
  match Command.plan inv t with
  | .done o =>
    Host.writeBack t o.tree
    Host.emit o.stdout o.stderr
    pure o.exit.toUInt32
  | .generate c =>
    let start ← IO.monoNanosNow
    let pass ← IO.lazyPure fun _ =>
      ({ config := c } : Run.Generator).runPass t cwd passId (Command.passLog c)
    let stop ← IO.monoNanosNow
    let elapsed := Text.nanosText (((stop - start + 500000) / 1000000 * 1000000 : Nat) : Int)
    let o := Command.passOutcome c pass elapsed
    Host.writeBack t o.tree
    Host.emit o.stdout o.stderr
    pure o.exit.toUInt32
  | .watch c =>
    let o := Command.runWatch inv c t
    Host.writeBack t o.tree
    Host.emit o.stdout o.stderr
    match o.watching with
    | none => pure o.exit.toUInt32
    | some (g, roots) => Host.watchLoop inv c g roots (Host.watchedSources roots o.tree)
