import StaticWrap.Run.Config
import StaticWrap.Run.Scan
import StaticWrap.Run.Clean
import StaticWrap.Run.Module
import StaticWrap.Discover.Package
import StaticWrap.Generate.Names
import StaticWrap.Generate.Emit
import StaticWrap.Report.Reporter
import StaticWrap.Report.Summary
import StaticWrap.Walk.Facts
import StaticWrap.Failure.Search
/-!
**A generation pass.**

A pass starts a new cache generation, finds the package directories the settings name and
handles each in turn:

1. its import path comes from the module it belongs to;
2. discovery reads its markers; a package whose sources cannot be read is skipped, reported
   as a problem, and its generated file is left in place;
3. the units whose wrapper names are free are kept, the others reported as problems;
4. the package's file is generated; when nothing is to be generated, a generated file left
   from an earlier pass is removed; otherwise the file is written unless it already holds
   the same text.

Problems are reported and the pass goes on. A failed scan, an import path that cannot be
found, a file that cannot be generated, and a generated file that cannot be written or
removed end the pass with a generator failure; what the pass did before stays done.

A marker whose target names another package is resolved from the tree: once discovery has
found that the annotated package may import it, the package is loaded from the annotated
package's directory, the target is completed from it, and its functions are walked; the facts
make the entry, the skipped functions are kept with their reasons, and a failure of the walk
fails the whole resolution (`Walk.externalResolver`).

* `Generator.runPass`: one pass over a tree, with the tree, log and reports it leaves and
  either its summary or the failure that ended it; the generator keeps the summary of the last
  pass that completed.
-/

namespace StaticWrap.Walk

open StaticWrap.Model

/-- Collects the items of a walk into an entry. -/
def entryOf (target : Target) (items : List Item) : Except Failure Discover.Entry :=
  items.foldlM (fun (e : Discover.Entry) item =>
    match item with
    | .fact f => pure { e with facts := e.facts ++ [f] }
    | .skipped func reason => pure { e with skipped := e.skipped ++ [.skip func (.plain reason)] }
    | .failed f => throw f) { target }

/-- Resolves external targets from the files of a tree, with the given build tags. -/
def externalResolver (t : Disk.Tree) (tags : List String) : Discover.ExternalResolver :=
  fun target dir importer => do
    let l ← Load.loadPackage t tags dir target.pkgPath
    let resolved ← resolveTarget l target
    entryOf resolved (walkFacts l resolved importer)

end StaticWrap.Walk

namespace StaticWrap.Run

open StaticWrap.Disk
open StaticWrap.Model

/-- What a generator keeps from pass to pass: its settings, discovery's cache, and the
summary of the last pass that completed. -/
structure Generator where
  config : Config
  discoverer : Discover.Discoverer := {}
  summary : Report.PassSummary := {}

/-- What a pass changes as it goes: the files, the log, the reporter's text, discovery's
cache and the counters. -/
structure PassState where
  tree : Tree
  log : Report.Log
  reports : String := ""
  discoverer : Discover.Discoverer
  summary : Report.PassSummary := {}

/-- A step of a pass: it may end the pass with a failure, and what it did before stays. -/
abbrev PassM := ExceptT Failure (StateM PassState)

/-- A generator failure: its class, message, hints and context, over a cause. -/
def generatorFailure (type : ProblemType) (message : String) (hints : List String)
    (context : List (String × String)) (cause : Failure) : Failure :=
  .problem { type, message, suggestions := hints, context } (some cause)

/-- A directory scan that failed. -/
def scanFailure (dirs : List String) (cause : Failure) : Failure :=
  generatorFailure .fileSystem ("Failed to scan directories: " ++ cause.message)
    ["Check that the specified directories exist",
     "Ensure you have read permissions for the directories"]
    [("directories", "[" ++ " ".intercalate dirs ++ "]")] cause

/-- A package directory whose import path cannot be found. -/
def importPathFailure (dir : String) (cause : Failure) : Failure :=
  generatorFailure .configuration
    ("Failed to resolve import path of " ++ dir ++ ": " ++ cause.message)
    ["Check your go.mod file exists and is valid", "Try specifying --module flag explicitly"]
    [("package_directory", dir)] cause

/-- A package whose file cannot be generated. -/
def emitFailure (name dir pkgPath : String) (cause : Failure) : Failure :=
  generatorFailure .generation
    ("Failed to generate wrappers for package " ++ name ++ ": " ++ cause.message) []
    [("package_directory", dir), ("import_path", pkgPath)] cause

/-- A generated file that cannot be written or removed. -/
def updateFailure (dir : String) (cause : Failure) : Failure :=
  generatorFailure .fileSystem
    ("Failed to update generated file in " ++ dir ++ ": " ++ cause.message)
    ["Check write permissions for the target directory"] [("package_directory", dir)] cause

/-- The error of a skipped package: it has the class of the first coded error among its
causes (a syntax error when that has none) and wraps the cause. -/
def skippedFailure (dir pkgPath : String) (cause : Failure) : Failure :=
  let code := match cause.firstCoded with
    | some (.coded c _) => if c.code == .unknown then .parse else c.code
    | _ => .parse
  .coded { code, message := "skipped package " ++ pkgPath,
           context := [("package_directory", dir)],
           hints := ["Check for syntax errors in Go files",
             "Ensure all files of the directory declare the same package, or exclude helpers " ++
               "with a //go:build line"] } (some cause)

/-- Writes a file (its path read from `cwd`) unless it already holds the text: whether it was
written, and the tree after. The temporary file is made beside it, so every directory on the way
must be there; a directory in the file's place is not replaced. -/
def writeIfChanged (t : Tree) (cwd path content : String) : Except Failure (Bool × Tree) :=
  let abs := t.absolute cwd path
  match t.readFile abs with
  | .ok existing => if existing == content then .ok (false, t) else .ok (true, t.write abs content)
  | .error _ =>
    let tmp := Text.dirName path ++ "/.mockable-<random>.tmp"
    match (parentDirs abs).find? (!t.hasDir ·) with
    | some missing =>
      .error (.plain ("open " ++ tmp ++ ": " ++
        if t.isFile missing then "not a directory" else "no such file or directory"))
    | none =>
      if t.isDir abs then .error (.plain ("rename " ++ tmp ++ " " ++ path ++ ": file exists"))
      else .ok (true, t.write abs content)

/-- Writes a line to the log. -/
def note (f : Report.Log → Report.Log) : PassM Unit :=
  modify fun s => { s with log := f s.log }

/-- Changes the counters. -/
def count (f : Report.PassSummary → Report.PassSummary) : PassM Unit :=
  modify fun s => { s with summary := f s.summary }

/-- Reports a problem and counts it. -/
def reportProblem (verbose : Bool) (e : Failure) : PassM Unit :=
  modify fun s => { s with reports := s.reports ++ Report.problemText verbose e,
                           summary := { s.summary with problems := s.summary.problems + 1 } }

/-- Records a package whose sources could not be read. -/
def skipPackage (g : Generator) (dir pkgPath : String) (cause : Failure) : PassM Unit := do
  let skipped := skippedFailure dir pkgPath cause
  count fun s => { s with skippedPackages := s.skippedPackages ++ [skipped] }
  reportProblem g.config.verbose skipped
  note (·.verbose ("skipped " ++ dir ++ ": " ++ cause.message))

/-- Brings the generated file of a package up to date with what discovery found. -/
def updatePackage (g : Generator) (cwd : String) (found : Discover.Discovery) : PassM Unit := do
  let (units, conflicts) := Generate.checkNames found.units found.declared
  for problem in found.problems ++ conflicts do
    reportProblem g.config.verbose problem
  let request : Generate.EmitRequest :=
    { packageName := found.packageName, pkgPath := found.pkgPath, dir := found.dir,
      units := units.map some, declared := found.declared }
  match Generate.emit (Generate.withFileName g.config.output) request with
  | .error e => throw (emitFailure found.packageName found.dir found.pkgPath e)
  | .ok none =>
    let path := Text.joinPath [found.dir, Generate.withFileName g.config.output]
    match removeGenerated (← get).tree cwd path with
    | .error e => throw (updateFailure found.dir e)
    | .ok (removed, tree) =>
      modify fun s => { s with tree }
      if removed then
        note (·.verbose ("removed stale " ++ path))
        count fun s => { s with removedFiles := s.removedFiles ++ [path] }
  | .ok (some artifact) =>
    count fun s => { s with unitsGenerated := s.unitsGenerated + artifact.units.length,
                            methodsWrapped := s.methodsWrapped + artifact.methodCount }
    match writeIfChanged (← get).tree cwd artifact.path artifact.source with
    | .error e => throw (updateFailure found.dir e)
    | .ok (false, _) =>
      count fun s => { s with filesUnchanged := s.filesUnchanged + 1 }
      note (·.debug (artifact.path ++ " is up to date"))
    | .ok (true, tree) =>
      modify fun s => { s with tree }
      note (·.verbose ("wrote " ++ artifact.path ++ " (" ++ toString artifact.units.length ++
        " wrappers)"))
      count fun s => { s with generatedFiles := s.generatedFiles ++ [artifact.path] }

/-- Handles one package directory. -/
def processPackage (g : Generator) (cwd dir : String) : PassM Unit := do
  let st ← get
  match importPath st.tree cwd g.config.module dir with
  | .error e => throw (importPathFailure dir e)
  | .ok pkgPath =>
    note (·.debug ("parsing " ++ dir ++ " (" ++ pkgPath ++ ")"))
    let st ← get
    let resolve := Walk.externalResolver st.tree g.config.tags
    let (result, discoverer, log) :=
      st.discoverer.parsePackage st.log st.tree g.config.tags resolve dir pkgPath
    modify fun s => { s with discoverer, log }
    match result with
    | .error e => skipPackage g dir pkgPath e
    | .ok found =>
      count fun s => { s with packagesProcessed := s.packagesProcessed + 1,
                              markersFound := s.markersFound + found.markers,
                              functionsSkipped := s.functionsSkipped + found.skipped }
      updatePackage g cwd found

/-- The steps of a pass after its generation has begun. -/
def passSteps (g : Generator) (cwd : String) : PassM Unit := do
  note (·.startStep "Scanning directories for Go packages")
  match scanDirectories (← get).tree g.config.tags cwd g.config.directories with
  | .error e =>
    note (·.endStep false "")
    throw (scanFailure g.config.directories e)
  | .ok dirs =>
    note (·.endStep true (toString dirs.length ++ " packages"))
    for dir in dirs do
      processPackage g cwd dir

/-- What a pass leaves: the generator for the next pass, the files, the log, the reporter's
text, and the summary or the failure that ended the pass. -/
structure PassOutcome where
  generator : Generator
  tree : Tree
  log : Report.Log
  reports : String
  result : Except Failure Report.PassSummary

/-- Runs one pass, named `passId`, over a tree from the working directory `cwd`. -/
def Generator.runPass (g : Generator) (t : Tree) (cwd passId : String) (log : Report.Log) :
    PassOutcome :=
  let (generation, discoverer, log) := g.discoverer.beginPass log
  let log := log.verbose ("pass started, cache generation " ++ toString generation)
  let start : PassState := { tree := t, log, discoverer, summary := { passId, generation := generation.toNat } }
  let (result, st) := ((passSteps g cwd).run).run start
  -- a failed pass keeps the summary of the last pass that completed
  let summary := match result with
    | .ok () => st.summary
    | .error _ => g.summary
  { generator := { g with discoverer := st.discoverer, summary }, tree := st.tree, log := st.log,
    reports := st.reports, result := result.map fun () => st.summary }

end StaticWrap.Run
