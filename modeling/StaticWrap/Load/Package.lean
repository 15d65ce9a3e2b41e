import StaticWrap.Load.Locate
import StaticWrap.Load.Resolve
import StaticWrap.Failure.Build
import StaticWrap.Model.Names
import StaticWrap.Typing.Package
import StaticWrap.GoSource.CompilerSyntax
/-!
**Loading a package.**

`loadPackage` reads the package a pattern names from a directory, together with every package
it imports (transitively), and checks its declarations:

1. The directory must exist; a pattern that matches nothing is `no packages found`; a pattern
   that cannot be located reports the lister's fault. The first package matched is loaded.
2. The package's files are parsed; each file must parse, and all must declare one package.
3. Imported packages are located from the package's own directory; one that cannot be located
   is read as an open package of the name its path suggests.
4. Every package-level declaration is resolved (`checkPackage`): type declarations, the types
   of constants and variables, and the signatures of functions and methods. The faults of a
   package are reported twice, as the lister's compiler output (`# path` and each fault at its
   path relative to the starting directory, at most ten) and as the type checker's (each at
   its absolute path). A package without faults whose functions lack bodies gets the
   compiler's `missing function body` instead.
-/

namespace StaticWrap.Load

open StaticWrap.Disk
open StaticWrap.GoSource
open StaticWrap.Model

/-- A loaded package and the packages read for it. -/
structure Loaded where
  world : World
  pkg : PackageDecls

/-- A package read from its directory: its declarations (the files that declare its name),
what the lister reports of the directory's files, the syntax errors of the package's
files (each as `file:line:column: message`), and the files that declare another package,
each as a fault at its package clause. -/
structure ReadPackage where
  decls : PackageDecls
  listError : Option String := none
  parseErrors : List String := []
  strays : List TypeFault := []
  /-- The errors the compiler finds while it parses the package's files, in its words. -/
  compilerErrors : List TypeFault := []

/-- Reads a directory's package. Every source file (the tests too) names the package: the
first file's name is the package's (a test file's name loses a `_test` ending that makes it
an external test), and the first file naming another is the lister's fault. The files that
are not tests are parsed in full: those of the package's name are its declarations, the
others are reported where they name their package. A file whose package clause does not
parse fails the read. -/
def readModule (t : Tree) (tags : List String) (path dir : String) :
    Except String ReadPackage := do
  let mut units : List SourceUnit := []
  let mut name := ""
  let mut firstFile := ""
  let mut listError : Option String := none
  let mut parseErrors : List String := []
  let mut others : List (String × SourceUnit × List CompilerError) := []
  for fname in sourceFiles t tags dir do
    let fpath := dir ++ "/" ++ fname
    let text ← t.readFile fpath
    let p := parseFile text true
    match p.file with
    | none => throw (errorListText fpath (p.sortedErrors fpath))
    | some f =>
      let declared := f.name.name
      if declared == "documentation" then continue
      let test := isTestFile fname
      let own := if test && Text.hasSuffix declared "_test" && name != declared then
          (declared.dropEnd 5).toString
        else declared
      if name.isEmpty then
        name := own
        firstFile := fname
      else if own != name && listError.isNone then
        listError := some ("found packages " ++ name ++ " (" ++ firstFile ++ ") and " ++ own ++
          " (" ++ fname ++ ") in " ++ dir)
      if test then continue
      parseErrors := parseErrors ++ (p.sortedErrors fpath).map (·.text fpath)
      others := others ++ [(declared, ⟨fpath, f, p.lines⟩, compilerSyntaxErrors text p)]
  let mut strays : List TypeFault := []
  let mut compilerErrors : List TypeFault := []
  for (declared, u, errs) in others do
    if declared == name then
      compilerErrors := compilerErrors ++ errs.map fun e =>
        { file := u.path, fileIndex := units.length, pos := e.pos, line := u.lines.line e.pos,
          column := u.lines.column e.pos, message := e.msg }
      units := units ++ [u]
    else
      let pos := u.file.packagePos
      strays := strays ++ [{ file := u.path, fileIndex := 0, pos, line := u.lines.line pos,
                             column := u.lines.column pos,
                             message := "package " ++ declared ++ "; expected package " ++ name }]
  return { decls := PackageDecls.ofFiles path name units, listError, parseErrors, strays,
           compilerErrors }

/-- Parses the files of a catalogued package. -/
def readStd (p : StdPackage) : PackageDecls :=
  let name := stdName p.path
  let units := p.files.map fun f =>
    let parsed := parseFile (f.source name)
    (⟨stdRoot ++ "/" ++ p.path ++ "/" ++ f.name, parsed.fileOrEmpty, parsed.lines⟩ : SourceUnit)
  { PackageDecls.ofFiles p.path name units with shapeless := p.shapelessTypes, complete := p.complete }

def readOrigin (t : Tree) (tags : List String) : Origin → Except String ReadPackage
  | .module path dir => readModule t tags path dir
  | .std p => .ok { decls := readStd p }
  | .stdOpen path => .ok { decls := PackageDecls.opened path (stdName path) }

/-- Reads the declarations of an imported package; one that cannot be read whole is not
known. -/
def readImported (t : Tree) (tags : List String) (o : Origin) : Except String PackageDecls := do
  let r ← readOrigin t tags o
  if r.listError.isSome || !r.parseErrors.isEmpty then throw "unreadable"
  return r.decls

/-- The import paths the world's files name that it has not read. -/
def World.missing (w : World) : List String :=
  let paths := w.flatMap fun p => p.files.flatMap fun u => (fileImportSpecs u.file).map (·.2)
  (paths.eraseDups.filter fun p => p != "C" && (w.find? p).isNone)

/-- Reads the packages the world imports until none is missing; `fuel` bounds the rounds. -/
def completeWorld (t : Tree) (tags : List String) (main : Option MainModule) :
    Nat → World → World
  | 0, w => w
  | n + 1, w =>
    match w.missing with
    | [] => w
    | missing =>
      let read := missing.map fun path =>
        match (locatePath t tags main path).bind (readImported t tags) with
        | .ok p => p
        | .error _ => PackageDecls.opened path (guessPackageName path)
      completeWorld t tags main n (w ++ read)

/-- The functions of a package that have no body, as faults at their names. -/
def missingBodies (p : PackageDecls) : List TypeFault :=
  p.files.zipIdx.flatMap fun (u, i) => u.file.decls.filterMap fun d =>
    match d with
    | .func _ _ name _ none =>
      some { file := u.path, fileIndex := i, pos := name.pos, line := u.lines.line name.pos,
             column := u.lines.column name.pos, message := "missing function body" }
    | _ => none

/-- A fault as the compiler writes it: place, message, then each note on a line of its own,
indented, with its place when it has one. -/
def faultText (f : TypeFault) : String :=
  f.file ++ ":" ++ toString f.line ++ ":" ++ toString f.column ++ ": " ++ f.message ++
    String.join (f.notes.map fun n =>
      "\n\t" ++ (if n.line == 0 then "" else
        n.file ++ ":" ++ toString n.line ++ ":" ++ toString n.column ++ ": ") ++ n.message)

/-- A fault as the type checker writes it: as the compiler does when no note has a place;
otherwise the message and each note are errors of their own, each at its place, a note's
text indented by a tab. -/
def faultEntries (f : TypeFault) : List String :=
  if f.notes.all (·.line == 0) then [faultText f]
  else
    (f.file ++ ":" ++ toString f.line ++ ":" ++ toString f.column ++ ": " ++ f.message) ::
      f.notes.map fun n =>
        (if n.line == 0 then f.file ++ ":" ++ toString f.line ++ ":" ++ toString f.column
         else n.file ++ ":" ++ toString n.line ++ ":" ++ toString n.column) ++ ": \t" ++ n.message

/-- The fault as the compiler reports it, and whether it finds it while parsing; none when it
does not report it. -/
def compilerVersion (f : TypeFault) : Option (TypeFault × Bool) :=
  match f.compiler with
  | .same => some (f, false)
  | .parsing m => some ({ f with message := m }, true)
  | .typing l c m => some ({ f with line := l, column := c, message := m }, false)
  | .absent => none

/-- Replaces a directory by another where it starts the text or a line, or follows a blank
or a tab: how the build tool shortens the paths of the compiler's output. -/
def replaceDirPrefix (s old new : String) : String :=
  let s := Text.replaceAll s (" " ++ old) (" " ++ new)
  let s := Text.replaceAll s ("\n" ++ old) ("\n" ++ new)
  let s := Text.replaceAll s ("\n\t" ++ old) ("\n\t" ++ new)
  if Text.hasPrefix s old then new ++ (s.drop old.length).toString else s

/-- The faults the compiler reports (each in its own version), and the one it stops at: it
takes them in the order it finds them (those it finds while parsing first), drops one on the
line of the one before with the same text, and stops at the tenth. -/
def compilerFaults (faults : List TypeFault) : List TypeFault × Option TypeFault := Id.run do
  let versions := faults.filterMap compilerVersion
  let ordered := (versions.filter (·.2)).map (·.1) ++ (versions.filter (!·.2)).map (·.1)
  let mut kept : List TypeFault := []
  let mut last : Option TypeFault := none
  for f in ordered do
    match last with
    | some l =>
      if l.file == f.file && l.line == f.line && faultText l == faultText f then continue
    | none => pure ()
    last := some f
    kept := kept ++ [f]
    if kept.length ≥ 10 then return (kept, some f)
  return (kept, none)

/-- The compiler's report of a package's faults, as the lister passes it on: the package's
path, the faults it reports in order of place (a repeated line once), and where it stopped
if it stopped; paths in the package's directory are made relative to `dir`. The errors it
finds while parsing come first. -/
def compilerReport (dir pkgPath : String) (early faults : List TypeFault) : String :=
  let (kept, stop) := compilerFaults (early.map (fun f => { f with compiler := .parsing f.message }) ++ faults)
  let sorted := kept.mergeSort fun a b => a.fileIndex < b.fileIndex ||
    (a.fileIndex == b.fileIndex && (a.line < b.line || (a.line == b.line && a.column ≤ b.column)))
  let lines := (sorted.map faultText).foldl (fun acc l =>
    if acc.getLast? == some l then acc else acc ++ [l]) []
  let more := match stop with
    | some f => [f.file ++ ":" ++ toString f.line ++ ":" ++ toString f.column ++ ": too many errors"]
    | none => []
  let body := "\n".intercalate (lines ++ more)
  let body := match (early ++ faults).head? with
    | some f =>
      let pkgDir := Text.dirName f.file
      match Text.relPath dir pkgDir with
      | some rel => replaceDirPrefix body pkgDir rel
      | none => body
    | none => body
  "# " ++ pkgPath ++ "\n" ++ body

/-- The package imports itself: the lister's fault and the reason its import fails. -/
def selfImport? (p : PackageDecls) : Option (String × String) :=
  let imports := p.files.flatMap fun u => (fileImportSpecs u.file).map (·.2)
  if imports.contains p.path then
    some ("import cycle not allowed: import stack: [" ++ p.path ++ " " ++ p.path ++ "]",
      "import cycle: [" ++ p.path ++ "]")
  else none

/-- The errors a load reports for a package, in order: the lister's (its own fault, or the
compiler's report), the syntax errors, then the type checker's. -/
def packageErrors (dir : String) (rp : ReadPackage) (cycle : Option String)
    (faults : List TypeFault) (isStd : Bool) : List String :=
  let p := rp.decls
  let early := rp.compilerErrors
  let stops := early.any (·.message.startsWith "syntax error")
  let listErrors := match rp.listError, cycle with
    | some e, _ => ["-: " ++ e]
    | none, some e => ["-: " ++ e]
    | none, none =>
      if isStd then []
      else if stops then ["-: " ++ compilerReport dir p.path early []]
      else if !early.isEmpty || faults.any (·.compiler != .absent) then
        ["-: " ++ compilerReport dir p.path early faults]
      else match missingBodies p with
        | [] => []
        | missing => ["-: " ++ compilerReport dir p.path [] missing]
  listErrors ++ rp.parseErrors ++ (rp.strays ++ faults.filter (·.typeChecker)).flatMap faultEntries

/-- The language version of the module a directory belongs to, as the minor number of the
`go` line of its module file (`go1.16` without one). -/
def moduleLang (t : Tree) (dir : String) : Option Nat := do
  let modFile ← Run.findGoMod t (t.depth + 2) dir
  let content ← (t.readFile modFile).toOption
  match GoMod.readModInfo modFile content false with
  | .ok info => some (GoMod.langMinor info.goVersion)
  | .error _ => some 16

/-- Loads the package a pattern names, read from the directory `dir`. -/
def loadPackage (t : Tree) (tags : List String) (dir pattern : String) :
    Except Failure Loaded :=
  if !t.isDir dir then
    .error (targetLoadFailure pattern
      (some (.plain ("err: chdir " ++ dir ++ ": no such file or directory: stderr: "))))
  else
    let fail (msg : String) : Except Failure Loaded :=
      .error (targetFailure pattern ("package has errors: " ++ msg) none)
    match modFileFault? t dir with
    | some msg =>
      .error (targetLoadFailure pattern (some (.plain ("err: exit status 1: stderr: " ++ msg))))
    | none =>
    match locatePattern t tags dir pattern with
    | .error e => fail ("-: " ++ e)
    | .ok [] => .error (targetFailure pattern "no packages found" none)
    | .ok (origin :: _) =>
      match readOrigin t tags origin with
      | .error e => fail e
      | .ok rp =>
        let p := match origin with
          | .module _ pdir => { rp.decls with lang := moduleLang t pdir }
          | _ => rp.decls
        let main := mainModule? t dir
        let w := completeWorld t tags main (t.files.length + stdPaths.length + 2) [p]
        let isStd := match origin with
          | .module _ _ => false
          | _ => true
        let cycle := selfImport? p
        let broken := match cycle with
          | some (_, why) => [(p.path, why)]
          | none => []
        let faults := if isStd then [] else Typing.checkPackage w p broken
        match packageErrors dir rp (cycle.map (·.1)) faults isStd with
        | [] => .ok ⟨w, p⟩
        | errs => fail ("; ".intercalate errs)

end StaticWrap.Load
