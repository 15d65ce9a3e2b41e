import StaticWrap.Model.Target
import StaticWrap.Render.Imports
import StaticWrap.Render.Signature
import StaticWrap.Failure.Build
import StaticWrap.GoSource.Format
import StaticWrap.Text.SlashPath
/-!
**Writing the generated file of a package.**

Every unit with at least one fact becomes an interface listing the wrapped functions and a
wrapper struct whose methods forward to them, in one file:

1. The import table is started with the names a qualifier must not take: the package's own
   declarations, the generated type names and every type parameter.
2. Each unit's placeholders are replaced by qualifiers (type parameters, embedded fields,
   then each fact's parameters, results, qualifier and type parameters), so the qualifiers
   are handed out in order of first use.
3. Parameters are named and renamed clear of the qualifiers (`Render.normalizeParams`).
4. The text is rendered, formatted and its imports grouped; text that is not valid Go is a
   generation failure, while a failed grouping keeps the formatted text.

A generator writes under its file name, which `withFileName` sets from the name it is asked
for: an empty name keeps the default `autogen_mockable.go`.
-/

namespace StaticWrap.Generate

open StaticWrap.Model
open StaticWrap.Render

/-- The name of the generated file when none is given. -/
def defaultFileName : String := "autogen_mockable.go"

/-- The name of the file a generator writes when asked to write `name`: the default when
`name` is empty. -/
def withFileName (name : String) : String := if name.isEmpty then defaultFileName else name

@[simp, grind =] theorem withFileName_isEmpty (name : String) : (withFileName name).isEmpty = false := by
  unfold withFileName
  split
  · rfl
  · simpa using ‹¬name.isEmpty = true›

@[simp, grind =] theorem withFileName_withFileName (name : String) :
    withFileName (withFileName name) = withFileName name := by
  rw [withFileName, withFileName_isEmpty]
  rfl

/-- What to generate for one package: its name and import path, the directory of the file,
the units (a missing unit counts as empty) and the names the package declares. -/
structure EmitRequest where
  packageName : String
  pkgPath : String
  dir : String
  units : List (Option WrapUnit)
  declared : List String

/-- A generated file: where it goes, its imports, the resolved units and the text. -/
structure Artifact where
  packageName : String
  dir : String
  fileName : String
  imports : List ImportSpec
  units : List WrapUnit
  source : String

/-- The path of the generated file. -/
def Artifact.path (a : Artifact) : String :=
  Text.joinPath [a.dir, withFileName a.fileName]

/-- The number of forwarded functions. -/
def Artifact.methodCount (a : Artifact) : Nat :=
  a.units.foldl (fun n u => n + u.facts.length) 0

/-- Names an import qualifier must not take: the package's declarations, the wrapper and
interface names of every unit, and all type parameters. -/
def reservedNames (units : List WrapUnit) (declared : List String) : List String :=
  declared ++ units.flatMap fun u =>
    let base := spliceWrapper u.target.baseName
    [base, "I" ++ base] ++ u.target.typeParams.map (·.name) ++
      u.facts.flatMap fun f => f.typeParams.map (·.name)

/-- Type parameters with their constraints' placeholders resolved. -/
def resolveTypeParams (tps : List TypeParam) (refs : List PackageRef) :
    StateM ImportTable (List TypeParam) :=
  tps.mapM fun tp => do
    let c ← ImportTable.resolve tp.constraint refs
    pure ⟨tp.name, c⟩

/-- A fact with every placeholder resolved and no package references left. -/
def resolveFact (f : Fact) : StateM ImportTable Fact := do
  let refs := f.imports
  let params ← f.params.mapM fun p => do
    let ty ← ImportTable.resolve p.type refs
    pure { p with type := ty }
  let results ← f.results.mapM fun r => ImportTable.resolve r refs
  let qualifier ←
    if f.qualifier.isEmpty then pure ""
    else do
      let q ← ImportTable.resolve (f.qualifier ++ ".") refs
      pure (Text.trimSuffix q ".")
  let typeParams ← resolveTypeParams f.typeParams refs
  pure { f with params, results, qualifier, typeParams, imports := [] }

/-- A unit with the placeholders of its target and facts resolved. -/
def resolveUnit (u : WrapUnit) : StateM ImportTable WrapUnit := do
  let t := u.target
  let typeParams ← resolveTypeParams t.typeParams t.imports
  let embeds ← t.embeds.mapM fun e => ImportTable.resolve e t.imports
  let facts ← u.facts.mapM resolveFact
  pure ⟨{ t with typeParams, embeds }, facts⟩

/-- What the doc comments say the wrapper calls. -/
def describe (t : Target) : String :=
  if t.mode == .self then "the functions associated with " ++ t.typeName
  else if !t.typeName.isEmpty then "the functions associated with " ++ t.pkgName ++ "." ++ t.typeName
  else "the functions of package " ++ t.pkgName

/-- A name without its type parameter list. -/
def bareName (name : String) : String := String.ofList (name.toList.takeWhile (· != '['))

def interfaceText (u : WrapUnit) (source : String) : String :=
  "// " ++ bareName u.interfaceName ++ " mirrors " ++ source ++ ".\ntype " ++ u.interfaceName ++
    " interface \x7b\n" ++ String.join (u.facts.map fun f => "\t" ++ declarationText f ++ "\n") ++
    "\x7d\n"

/-- One forwarding method of the wrapper. -/
def methodText (u : WrapUnit) (f : Fact) : String :=
  "\n" ++ String.join ((deprecationLines f).map (· ++ "\n")) ++ "func (" ++ u.wrapperRef ++ ") " ++
    declarationText f ++ " \x7b\n\t" ++ (if f.returnsVoid then "" else "return ") ++ callText f ++
    "\n\x7d\n"

/-- The wrapper struct of a unit, its methods, and for a unit without type parameters the
assertion that it implements the interface. -/
def wrapperText (u : WrapUnit) (source : String) : String :=
  "// " ++ bareName u.wrapperName ++ " implements " ++ bareName u.interfaceName ++ " by calling " ++
    source ++ ".\ntype " ++ u.wrapperName ++ " struct \x7b\n" ++
    String.join (u.target.embeds.map fun e => "\t" ++ e ++ "\n") ++ "\x7d\n" ++
    String.join (u.facts.map (methodText u)) ++
    (if u.isGeneric then "" else "\nvar _ " ++ u.interfaceRef ++ " = " ++ u.wrapperRef ++ "\x7b\x7d\n")

def unitText (u : WrapUnit) : String :=
  let source := describe u.target
  interfaceText u source ++ "\n" ++ wrapperText u source

/-- The whole file before formatting. -/
def fileText (packageName imports : String) (blocks : List String) : String :=
  "// Code generated by mockable. DO NOT EDIT.\n\npackage " ++ packageName ++ "\n" ++
    (if imports.isEmpty then "" else "\n" ++ imports) ++ "\n" ++
    String.join (blocks.map (· ++ "\n"))

/-- Generates the file of a package under the generator's file name, or nothing when no unit
has facts. -/
def emit (fileName : String) (req : EmitRequest) : Except Failure (Option Artifact) :=
  let units := (req.units.filterMap id).filter fun u => !u.facts.isEmpty
  if units.isEmpty then .ok none
  else
    let start : ImportTable := { self := req.pkgPath, reserved := reservedNames units req.declared }
    let (resolved, table) := (units.mapM resolveUnit).run start
    let qualifiers := table.entries.map (·.qualifier)
    let resolved := resolved.map fun u =>
      { u with facts := u.facts.map fun f => { f with params := normalizeParams f.params qualifiers } }
    let source := fileText req.packageName table.importsText (resolved.map unitText)
    match GoSource.formatCode source with
    | .error e => .error (generateFailure "wrappers" fileName "format" (some (.plain e)))
    | .ok formatted =>
      let text := match GoSource.groupImports fileName formatted with
        | .ok grouped => grouped
        | .error _ => formatted
      .ok (some { packageName := req.packageName, dir := req.dir, fileName, imports := table.specs,
                  units := resolved, source := text })

end StaticWrap.Generate
