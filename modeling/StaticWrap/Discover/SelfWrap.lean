import StaticWrap.Discover.Associate
import StaticWrap.Discover.TypeText
import StaticWrap.Model.Target
import StaticWrap.Failure.Basic
import StaticWrap.Glob.Filter
import StaticWrap.Go.Ident
import StaticWrap.Walk.Facts
/-!
**Wrapping a type's own functions.**

A marker without a target wraps the functions its type's package associates with the type
(see `associated`), read from the syntax alone: parameter and result types are the source
text with placeholders for package qualifiers (`typeText`).

* A function qualifies when it is an exported package-level function other than `init`,
  `main` and `_`, belongs to the type, and passes the marker's include and exclude globs.
* A generic function qualifies only when its type parameter list is the type's (same names,
  same constraints once placeholders are resolved); otherwise it is skipped.
* The entry's target gets the type's parameters and its embedded fields, with the package
  references their text uses.
-/

namespace StaticWrap.Discover

open StaticWrap.GoSource
open StaticWrap.Model

/-- A parsed source file: its path, its syntax and its line table. -/
structure SourceFile where
  path : String
  file : File
  lines : Lines

/-- The parsed files of one package directory, in file name order. -/
structure PackageSource where
  dir : String
  name : String
  pkgPath : String
  files : List SourceFile

/-- What a target resolves to: the completed target, the facts to wrap and the functions left
out (each a skip failure with its reason). -/
structure Entry where
  target : Target
  facts : List Fact := []
  skipped : List Failure := []

/-- The reason a generic function is left out. -/
def genericReason : Failure := .plain "generic function cannot be lifted onto the wrapper"

/-- An exported package-level function other than `init`, `main` and `_`. -/
def isStaticFunc (recv : Option FieldList) (name : String) : Bool :=
  recv.isNone && name != "init" && name != "main" && name != "_" && Go.isExported name

/-- `file:line:column` of a position of a source file, after its line directives. -/
def positionText (sf : SourceFile) (pos : Nat) : String := sf.lines.placeText sf.path pos

/-- The doc comment texts of a function. -/
def docTexts (doc : Option CommentGroup) : Option (List String) :=
  doc.map fun g => g.list.map (·.text)

section Qualifier

variable {m : Type → Type} [Monad m] (q : PackageRef → m String)

/-- The texts of the fact of a function read from its source file, each qualifier written by
`q`. -/
def selfFactOf (sf : SourceFile) (doc : Option CommentGroup) (name : String) (sig : Signature)
    (target : Target) : m Fact := do
  let imports := fileImports sf.file
  let typeParams ← typeParamsText q sf.lines imports sig.typeParams
  let mut params : List Param := []
  for f in sig.params.list do
    let (ty, passing) := match f.type with
      | .ellipsis _ (some elt) => (elt, Passing.variadic)
      | t => (t, Passing.plain)
    let text ← exprText q sf.lines imports ty
    if f.names.isEmpty then params := params ++ [⟨"", text, passing⟩]
    else params := params ++ f.names.map fun n => ⟨n.name, text, passing⟩
  let mut results : List String := []
  match sig.results with
  | some fl =>
    for f in fl.list do
      let text ← exprText q sf.lines imports f.type
      results := results ++ List.replicate (max 1 f.names.length) text
  | none => pure ()
  pure { name, owner := target.identity, typeParams, params, results,
         deprecated := Walk.deprecationNotice (docTexts doc),
         position := positionText sf sig.pos }

/-- The texts a type's own target takes from its declaration: its type parameters and its
embedded fields. -/
def ownerTexts (sf : SourceFile) (typeParams : Option FieldList) (typeExpr : Expr) :
    m (List TypeParam × List String) := do
  let imports := fileImports sf.file
  let tps ← typeParamsText q sf.lines imports typeParams
  let embeds ← embedsText q sf.lines imports typeExpr
  pure (tps, embeds)

end Qualifier

/-- The fact of a function read from its source file. -/
def selfFact (sf : SourceFile) (doc : Option CommentGroup) (name : String) (sig : Signature)
    (target : Target) : Fact :=
  let (fact, refs) := (selfFactOf refText sf doc name sig target).run []
  { fact with imports := refs }

/-- Resolves a marker without target on the type `spec` of `file`. -/
def scanSelf (src : PackageSource) (sf : SourceFile) (typeName : String)
    (typeParams : Option FieldList) (typeExpr : Expr) (target : Target) : Except Failure Entry := do
  let names ← match associated (src.files.map (·.file)) typeName with
    | some ns => pure ns
    | none => throw (.plain ("type " ++ typeName ++ " not found in package " ++ src.pkgPath))
  let filter ← match Glob.NameFilter.compile target.included target.excluded with
    | .ok f => pure f
    | .error b => throw (.plain b.message)
  let ((tps, embeds), refs) := (ownerTexts refText sf typeParams typeExpr).run []
  let target := { target with typeParams := tps, embeds, imports := refs }
  let mut entry : Entry := { target }
  for file in src.files do
    for d in file.file.decls do
      match d with
      | .func doc recv fname sig _ =>
        if isStaticFunc recv fname.name && names.contains fname.name &&
            filter.accepts fname.name then
          let fact := selfFact file doc fname.name sig target
          if !fact.liftsOnto target then
            entry := { entry with skipped := entry.skipped ++ [.skip fname.name genericReason] }
          else entry := { entry with facts := entry.facts ++ [fact] }
      | _ => pure ()
  return entry

end StaticWrap.Discover
