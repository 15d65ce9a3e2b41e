import StaticWrap.Load.Package
import StaticWrap.Types.Text
import StaticWrap.Types.Access
import StaticWrap.Discover.Associate
import StaticWrap.Glob.Filter
import StaticWrap.Model.Target
import StaticWrap.GoSource.Comment
/-!
**The functions of a loaded package, as facts.**

`resolveTarget` completes a target from its loaded package: the package's declared name and,
when the target names a type, that type's parameter list. An alias stands for the type it
resolves to, and an instantiated generic type has the parameters of its generic declaration.

`walkFacts` visits the exported package-level functions (not `init` or `main`) in file and
declaration order, keeps those associated with the target's type (when it names one) and
those the target's globs accept, and yields for each either its fact or the reason it is
skipped:

* a signature that mentions a type the generated package cannot write (`Barrier`);
* a generic function whose type parameters are not the target's.

A fact's texts share one list of package references: the type parameters' constraints come
first, then the parameters, then the results, and last the function's own package, whose
placeholder qualifies the call. A variadic parameter is written as its element type.

A bad glob, or a type the package's files do not declare, ends the walk with a failure.

A function's doc comment may hold a paragraph that starts with `Deprecated:`. The notice is
the first such paragraph, trimmed, with its line breaks kept; a function without one (or
without a doc comment) has an empty notice (`deprecationNotice`).
-/

namespace StaticWrap.Walk

open StaticWrap.Load
open StaticWrap.Types
open StaticWrap.Model
open StaticWrap.GoSource

/-- The start of a deprecation paragraph. -/
def deprecatedMark : String := "Deprecated:"

/-- The deprecation paragraph of a doc comment, or empty; or the run-time error of a comment too
short for its marker. -/
def deprecationNotice? (doc : Option (List String)) : Except String String :=
  match doc with
  | none => .ok ""
  | some comments => do
    let paras := (Text.splitOn (← GoSource.groupText? comments) "\n\n").map Text.trimSpace
    return (paras.find? fun p => Text.hasPrefix p deprecatedMark).getD ""

/-- The deprecation paragraph of a doc comment, or empty. -/
def deprecationNotice (doc : Option (List String)) : String :=
  match deprecationNotice? doc with
  | .ok t => t
  | .error _ => ""

/-- The type parameters of a type declaration, an alias standing for the declaration it
resolves to; `fuel` bounds a chain of aliases. -/
def declParams (w : World) : Nat → PackageDecls → TypeDecl → List (String × GoType)
  | 0, _, _ => []
  | n + 1, p, d =>
    let site := { Site.ofFile w p d.fileIndex with typeParams := paramNames d.typeParams }
    if !d.isAlias then ((resolveParams site d.typeParams).run []).1
    else
      let target := match ((resolveType site site.unit.depth d.rhs).run []).1 with
        | .named o _ => some o
        | .aliased o _ => some o
        | _ => none
      match target.bind fun o => (w.find? o.pkgPath).bind fun q =>
          (q.typeDecl? o.name).map fun d' => (q, d') with
      | some (q, d') => declParams w n q d'
      | none => []

/-- Completes a target: its package's name and the parameters of its type. -/
def resolveTarget (l : Loaded) (target : Target) : Except Failure Target := do
  let target := { target with pkgName := l.pkg.name }
  if target.typeName.isEmpty then return target
  match l.pkg.typeDecl? target.typeName with
  | none =>
    throw (targetFailure target.identity
      ("type " ++ target.typeName ++ " not found in package " ++ target.pkgPath) none)
  | some d =>
    let params := declParams l.world (l.world.length + 1) l.pkg d
    let (tps, refs) := (typeParamsOf refText params).run target.imports
    return { target with typeParams := tps, imports := refs }

/-- What walking yields for one function, or the failure that ends the walk. -/
inductive Item where
  | fact (f : Fact)
  | skipped (func : String) (reason : String)
  | failed (e : Failure)

/-- A function the walk visits: its file, doc comment, name and signature. -/
structure Candidate where
  fileIndex : Nat
  doc : Option CommentGroup
  name : String
  sig : Signature

/-- The exported package-level functions of a package other than `init` and `main`, in file
and declaration order. -/
def candidates (p : PackageDecls) : List Candidate :=
  p.files.zipIdx.flatMap fun (u, i) => u.file.decls.filterMap fun d =>
    match d with
    | .func doc none name sig _ =>
      if Go.isExported name.name && name.name != "init" && name.name != "main" then
        some ⟨i, doc, name.name, sig⟩
      else none
    | _ => none

section Qualifier

variable {m : Type → Type} [Monad m] (q : PackageRef → m String)

/-- The parameters of a signature as written by a wrapper: each with its name and type text,
a variadic last one as its element type. -/
def paramsText (ft : FuncType) : m (List Param) :=
  let n := ft.params.length
  ft.params.zipIdx.mapM fun (v, i) => do
    match v.type with
    | .slice e =>
      if ft.variadic && i + 1 == n then do
        pure ⟨v.name, ← typeText q e, .variadic⟩
      else do pure ⟨v.name, ← typeText q v.type, .plain⟩
    | t => do pure ⟨v.name, ← typeText q t, .plain⟩

/-- Where the names of a function's signature resolve. -/
def Candidate.site (l : Loaded) (c : Candidate) : Site :=
  { Site.ofFile l.world l.pkg c.fileIndex with typeParams := paramNames c.sig.typeParams }

/-- A function's type parameters and signature, resolved. -/
def Candidate.resolved (l : Loaded) (c : Candidate) : List (String × GoType) × FuncType :=
  let site := c.site l
  (((resolveParams site c.sig.typeParams).run []).1,
    ((resolveSig site site.unit.depth c.sig).run []).1)

/-- The texts of a function's fact, each package written by `q`: the constraints, the
parameters, the results, and last the function's own package as the call's qualifier. -/
def factOf (l : Loaded) (c : Candidate) (target : Target) : m Fact := do
  let (tps, ft) := c.resolved l
  let typeParams ← typeParamsOf q tps
  let params ← paramsText q ft
  let results ← ft.results.mapM fun v => typeText q v.type
  let own ← q ⟨l.pkg.path, l.pkg.name⟩
  let site := c.site l
  pure { name := c.name, owner := target.identity, qualifier := own,
         params, results, typeParams,
         deprecated := deprecationNotice (c.doc.map fun g => g.list.map (·.text)),
         position := site.unit.lines.placeText site.unit.path c.sig.funcPos }

end Qualifier

/-- The fact of a function with the package references its texts number. -/
def renderFact (l : Loaded) (c : Candidate) (target : Target) : Fact :=
  let (fact, refs) := (factOf refText l c target).run []
  { fact with imports := refs }

/-- The fact of a function, or the barrier that keeps it out. -/
def newFact (l : Loaded) (c : Candidate) (target : Target) (importer : String) :
    Except Barrier Fact := do
  let (tps, ft) := c.resolved l
  if let some b := funcBarrier importer tps ft then throw b
  return renderFact l c target

/-- The facts and skipped functions of a target's package, seen from the package at
`importer`. -/
def walkFacts (l : Loaded) (target : Target) (importer : String) : List Item :=
  match Glob.NameFilter.compile target.included target.excluded with
  | .error b => [.failed (.plain b.message)]
  | .ok filter =>
    let chosen : Except Failure (Option (List String)) :=
      if target.typeName.isEmpty then .ok none
      else match Discover.associated (l.pkg.files.map (·.file)) target.typeName with
        | some names => .ok (some names)
        | none => .error (targetFailure target.identity
            "type has no declaration in the loaded files" none)
    match chosen with
    | .error e => [.failed e]
    | .ok names =>
      (candidates l.pkg).filterMap fun c =>
        if !(names.map (·.contains c.name)).getD true || !filter.accepts c.name then none
        else match newFact l c target importer with
          | .error b => some (.skipped c.name b.message)
          | .ok f =>
            if f.liftsOnto target then some (.fact f)
            else some (.skipped c.name Barrier.generic.message)

end StaticWrap.Walk
