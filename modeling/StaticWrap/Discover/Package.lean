import StaticWrap.Discover.Markers
import StaticWrap.Check.ImportPath
import StaticWrap.Facts.Cache
import StaticWrap.Facts.Set
import StaticWrap.Failure.Build
import StaticWrap.Report.Diagnostics
import StaticWrap.Run.Scan
import StaticWrap.GoSource.Parser
/-!
**Discovering the wrappers of one package.**

`parsePackage` reads a package directory and turns its markers into units:

1. The directory's source files (build constraints applied, tests and generated files left
   out) are parsed in name order; they must declare one package. A file that does not parse
   stops discovery with a syntax failure.
2. The markers are found (`findMarkers`) and each is resolved in turn: a marker without
   target by reading the package itself (`scanSelf`), a marker with a target by the external
   resolver, once the package is known to be importable. Both are cached per pass, by the
   target's key and the annotating package (`Discoverer.entryOf`). A target that cannot be
   resolved is a problem, and discovery goes on.
3. The facts of each resolved marker join its unit (`Facts.Collector`); the log tells how many
   functions each marker brought and which were skipped.

The names the package declares at top level come along, so that generated names can keep
clear of them.
-/

namespace StaticWrap.Discover

open StaticWrap.GoSource
open StaticWrap.Model
open StaticWrap.Disk

/-- What discovery found in a package. -/
structure Discovery where
  dir : String
  packageName : String
  pkgPath : String
  units : List WrapUnit
  problems : List Failure
  markers : Nat
  skipped : Nat
  declared : List String

/-- The top-level names of the package's files: functions (not methods, `init` or `_`),
types, constants and variables (not `_`). -/
def declaredNames (files : List SourceFile) : List String :=
  files.flatMap fun sf => sf.file.decls.flatMap fun d =>
    match d with
    | .func _ none name _ _ => if name.name != "init" && name.name != "_" then [name.name] else []
    | .gen _ _ _ _ specs _ => specs.flatMap fun s =>
      match s with
      | .typeSpec _ name _ _ _ _ => [name.name]
      | .value _ names _ _ _ => (names.map (·.name)).filter (· != "_")
      | _ => []
    | _ => []

/-- The last element of a path. -/
def fileBase (p : String) : String := ((Text.splitOn p "/").getLast?).getD p

/-- Parses a source file of a directory. -/
def parseSource (t : Tree) (path : String) : Except Failure SourceFile := do
  let text ← match t.readFile path with
    | .ok s => pure s
    | .error e => throw (.plain e)
  let p := parseFile text
  match p.file with
  | some f =>
    if p.errors.isEmpty then pure ⟨path, f, p.lines⟩
    else throw (.plain ("failed to parse Go file " ++ fileBase path ++ ": " ++
      errorListText path (p.sortedErrors path)))
  | none => throw (.plain ("failed to parse Go file " ++ fileBase path ++ ": " ++
      errorListText path (p.sortedErrors path)))

/-- The parsed source files of a directory and the package they declare. -/
def readPackageFiles (t : Tree) (tags : List String) (dir : String) :
    Except Failure (List SourceFile × String) := do
  let entries ← match t.readDir dir with
    | .ok es => pure es
    | .error e => throw (fileFailure "read" dir (some (.plain e)))
  let mut files : List SourceFile := []
  let mut name := ""
  for e in entries do
    if !Run.isBuildSource t tags dir e then continue
    let sf ← match parseSource t (dir ++ "/" ++ e.name) with
      | .ok sf => pure sf
      | .error cause => throw (parseFailure e.name (some cause))
    if name.isEmpty then name := sf.file.name.name
    else if sf.file.name.name != name then
      throw (.plain ("multiple packages found in directory " ++ dir ++ ": " ++ name ++ " and " ++
        sf.file.name.name))
    files := files ++ [sf]
  if files.isEmpty then throw (.plain ("no Go files found in directory " ++ dir))
  return (files, name)

/-- A target that could not be resolved. -/
def unresolvedProblem (target : Target) (cause : Failure) : Failure :=
  .problem { type := .targetResolution, file := target.file, line := target.line,
             message := "cannot resolve target '" ++ target.identity ++ "' of type '" ++
               target.annotatedType ++ "', declaration skipped",
             suggestions := ["Check that '" ++ target.pkgPath ++ "' is a valid import path reachable from " ++
                 target.annotatedDir, "Run 'go mod tidy' so the package is listed in go.mod"] ++
               (if target.typeName.isEmpty then []
                else ["-Type must name a type declared in " ++ target.pkgPath]),
             context := [("target", target.identity), ("annotated_type", target.annotatedType)] }
    (some cause)

/-- Resolves a target that names a package the annotated package may import: from the target,
the annotated package's directory and its import path, the completed target with facts and
skipped functions. -/
abbrev ExternalResolver := Target → String → String → Except Failure Entry

/-- The failure of a target whose package the annotated package may not import. -/
def internalImportFailure (target : Target) (importer : String) : Failure :=
  targetFailure target.identity ("package " ++ target.pkgPath ++
    " is internal and cannot be imported from " ++ importer) none

/-- What discovery keeps from pass to pass: the entries of self-wrapped types and of resolved
packages, each keyed by the target's key and the annotating package. -/
structure Discoverer where
  selfCache : Facts.Cache Entry := {}
  externalCache : Facts.Cache Entry := {}

/-- Starts a pass in both caches: the new generation, with a debug line when self-wrap entries
of the last pass were dropped. -/
def Discoverer.beginPass (d : Discoverer) (log : Report.Log) : UInt64 × Discoverer × Report.Log :=
  let ((gen, evicted), cache) := d.selfCache.beginPass
  let log := if evicted > 0 then
      log.debug ("dropped " ++ toString evicted ++ " self-wrap entries from generation " ++
        toString (gen - 1))
    else log
  (gen, { d with selfCache := cache, externalCache := d.externalCache.beginPass.2 }, log)

/-- A marker's entry computed afresh: the self-wrapped type read from its package, or the
named package resolved, once it is known that the annotated package may import it. -/
def freshEntry (resolve : ExternalResolver) (src : PackageSource) (m : Found) :
    Except Failure Entry :=
  let target := targetOf src m
  if target.mode == .self then scanSelf src m.source m.typeName m.typeParams m.typeExpr target
  else if !Check.importable target.pkgPath src.pkgPath then
    .error (internalImportFailure target src.pkgPath)
  else resolve target src.dir src.pkgPath

/-- The stored entry of a target's key for the annotating package, or the computed one, stored
when it succeeds. -/
def cachedEntry (cache : Facts.Cache Entry) (target : Target) (importer : String)
    (compute : Except Failure Entry) : Except Failure Entry × Facts.Cache Entry :=
  Id.run (cache.getOrCompute (Facts.targetKey target) importer (pure compute))

/-- A marker's entry as discovery obtains it: through the self-wrap cache, or through the
cache of resolved packages; a package that may not be imported fails before that cache is
consulted. -/
def Discoverer.entryOf (d : Discoverer) (resolve : ExternalResolver) (src : PackageSource)
    (m : Found) : Except Failure Entry × Discoverer :=
  let target := targetOf src m
  if target.mode == .self then
    let (r, cache) := cachedEntry d.selfCache target src.pkgPath (freshEntry resolve src m)
    (r, { d with selfCache := cache })
  else if !Check.importable target.pkgPath src.pkgPath then (freshEntry resolve src m, d)
  else
    let (r, cache) := cachedEntry d.externalCache target src.pkgPath (freshEntry resolve src m)
    (r, { d with externalCache := cache })

/-- An entry as a marker uses it: cached entries are shared between markers, so the naming and
the location are the marker's own. -/
def Entry.placedAt (entry : Entry) (target : Target) : Target :=
  { entry.target with
    customName := target.customName, file := target.file, line := target.line,
    column := target.column, annotatedType := target.annotatedType,
    annotatedDir := target.annotatedDir }

/-- The state of one package's discovery. -/
structure Progress where
  discoverer : Discoverer
  log : Report.Log
  collector : Facts.Collector := {}
  problems : List Failure := []
  skipped : Nat := 0

/-- Adds the outcome of a marker's resolution: a failure is a problem; an entry's skipped
functions are logged, and its facts join the marker's unit. -/
def Progress.addEntry (st : Progress) (target : Target) (pos : String)
    (result : Except Failure Entry) : Progress :=
  match result with
  | .error e => { st with problems := st.problems ++ [unresolvedProblem target e] }
  | .ok entry =>
    let log := entry.skipped.foldl (fun (l : Report.Log) s =>
      l.verbose (pos ++ ": " ++ target.identity ++ " skipped: " ++ s.message)) st.log
    let st := { st with log, skipped := st.skipped + entry.skipped.length }
    if entry.facts.isEmpty then
      { st with log := st.log.verbose (pos ++ ": no eligible functions for " ++ target.identity ++
        ", declaration '" ++ target.annotatedType ++ "' skipped") }
    else
      let (added, collector) := st.collector.add (entry.placedAt target) entry.facts
      { st with collector, log := st.log.debug (pos ++ ": " ++ toString entry.facts.length ++
        " functions from " ++ target.identity ++ " (" ++ toString added ++ " new)") }

/-- Resolves one marker and adds its facts. -/
def processMarker (resolve : ExternalResolver) (src : PackageSource) (st : Progress) (m : Found) :
    Progress :=
  let (result, discoverer) := st.discoverer.entryOf resolve src m
  { st with discoverer }.addEntry (targetOf src m) (locationText m.location) result

/-- Discovers the markers of the package in `dir` whose import path is `pkgPath`. -/
def Discoverer.parsePackage (d : Discoverer) (log : Report.Log) (t : Tree) (tags : List String)
    (resolve : ExternalResolver) (dir pkgPath : String) :
    Except Failure Discovery × Discoverer × Report.Log :=
  match readPackageFiles t tags dir with
  | .error e => (.error e, d, log)
  | .ok (files, name) =>
    let src : PackageSource := ⟨dir, name, pkgPath, files⟩
    let (markers, problems) := findMarkers src
    let st := markers.foldl (processMarker resolve src) { discoverer := d, log, problems }
    let found : Discovery :=
      { dir, packageName := name, pkgPath, units := st.collector.units, problems := st.problems,
        markers := markers.length, skipped := st.skipped, declared := declaredNames files }
    (.ok found, st.discoverer, st.log)

end StaticWrap.Discover
