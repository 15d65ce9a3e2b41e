import StaticWrap.Discover.SelfWrap
import StaticWrap.Marker.Read
import StaticWrap.Marker.Schema
import StaticWrap.Model.Problem
/-!
**Finding the markers of a package.**

A marker is a `//mockable::static` comment on a type declaration: in the doc comment of an
unparenthesised `type` declaration, or in the doc or line comment of the type's
specification. A type carries at most one marker; its text is read against the marker
schema. Problems found on the way are reported and do not stop discovery:

* a type with several markers (the lines where they are listed);
* a marker that does not read (the cause, its hints and the valid forms);
* a marker in a function's doc comment, which is ignored.

`targetOf` turns a marker into its target: the package the marker names (external), or the
annotated type's own package and name (self).
-/

namespace StaticWrap.Discover

open StaticWrap.GoSource
open StaticWrap.Model

/-- A marker that reads: the annotated type, where the marker is, and what it says. -/
structure Found where
  source : SourceFile
  typeName : String
  typeParams : Option FieldList
  typeExpr : Expr
  location : Marker.Location
  annotation : Marker.Annotation

/-- The location of a position of a source file, after its line directives. -/
def locationOf (sf : SourceFile) (pos : Nat) : Marker.Location :=
  let (file, line, column) := sf.lines.place pos
  ⟨directiveFileName sf.path file, line, column⟩

/-- A location as positions are shown: `file:line:column`, without the column when it is 0. -/
def locationText (l : Marker.Location) : String :=
  l.file ++ ":" ++ toString l.line ++ (if l.column != 0 then ":" ++ toString l.column else "")

/-- The marker comments attached to a type specification. -/
def markerComments (declDoc : Option CommentGroup) (parenthesised : Bool)
    (specDoc specComment : Option CommentGroup) : List Comment :=
  let groups := (if parenthesised then [] else [declDoc]) ++ [specDoc, specComment]
  groups.flatMap fun g => match g with
    | some g => g.list.filter fun c => Marker.isMarker c.text
    | none => []

/-- A type with several markers. -/
def duplicateProblem (typeName : String) (loc : Marker.Location) (lines : List Int) : Failure :=
  .problem { type := .validation, file := loc.file, line := loc.line,
             message := "type '" ++ typeName ++ "' carries " ++ toString lines.length ++
               " //mockable::static markers; only one is allowed",
             suggestions := ["Keep a single marker per declaration",
               "Declare a separate anchor type for each additional target",
               "Markers found at: " ++ ", ".intercalate (lines.map fun l => "line " ++ toString l)],
             context := [("type_name", typeName)] } none

/-- A marker in a function's doc comment. -/
def markerOnFuncProblem (funcName : String) (loc : Marker.Location) : Failure :=
  .problem { type := .validation, file := loc.file, line := loc.line,
             message := "marker on function '" ++ funcName ++
               "' is ignored; only type declarations can carry //mockable::static",
             suggestions := ["Move the marker to a type declaration, for example:",
               "  //mockable::static -Target=<import path>", "  type Deps struct{}"],
             context := [("function_name", funcName)] } none

/-- A marker that does not read. The line is that of the (last) fault that has one; a syntax
fault makes it a syntax problem. -/
def annotationProblem (typeName : String) (loc : Marker.Location) (f : Marker.Fault) : Failure :=
  let parts := f.parts
  let line := parts.foldl (fun l s => if s.location.line > 0 then s.location.line else l) loc.line
  let hints := (parts.map Marker.Single.hint).filter (· != "")
  let type : ProblemType := match f with
    | .one s => if s.code == .grammar then .annotationSyntax else .validation
    | _ => .validation
  .problem { type, file := loc.file, line,
             message := "invalid marker on type '" ++ typeName ++ "': " ++ f.message,
             suggestions := hints ++ ["Valid forms:"] ++ Marker.staticExamples.map ("  " ++ ·),
             context := [("type_name", typeName)] } (some (.marker f))

/-- Reads the markers of one type specification. -/
def readTypeMarker (sf : SourceFile) (typeName : String) (typeParams : Option FieldList)
    (typeExpr : Expr) (comments : List Comment) : Option Found × List Failure :=
  match comments with
  | [] => (none, [])
  | first :: _ =>
    let loc := locationOf sf first.pos
    if comments.length > 1 then
      (none, [duplicateProblem typeName loc (comments.map fun c => (sf.lines.fileLine c.pos : Int))])
    else
      match Marker.readMarker .builtin first.text loc with
      | .ok a => (some ⟨sf, typeName, typeParams, typeExpr, loc, a⟩, [])
      | .error f => (none, [annotationProblem typeName loc f])

/-- The markers of a package in declaration order, and the problems found. -/
def findMarkers (src : PackageSource) : List Found × List Failure := Id.run do
  let mut found : List Found := []
  let mut problems : List Failure := []
  for sf in src.files do
    for d in sf.file.decls do
      match d with
      | .gen doc _ .kwType lparen specs _ =>
        for s in specs do
          match s with
          | .typeSpec sdoc name tparams _ typ comment =>
            let comments := markerComments doc (lparen != 0) sdoc comment
            let (m, ps) := readTypeMarker sf name.name tparams typ comments
            found := found ++ m.toList
            problems := problems ++ ps
          | _ => pure ()
      | .func (some doc) _ name _ _ =>
        match doc.list.find? fun c => Marker.isMarker c.text with
        | some c => problems := problems ++ [markerOnFuncProblem name.name (locationOf sf c.pos)]
        | none => pure ()
      | _ => pure ()
  return (found, problems)

/-- A text parameter of a marker, or empty. -/
def Found.text (m : Found) (key : String) : String :=
  match m.annotation.params.find? (·.1 == key) with
  | some (_, .text s) => s
  | _ => ""

/-- A list parameter of a marker, or empty. -/
def Found.items (m : Found) (key : String) : List String :=
  match m.annotation.params.find? (·.1 == key) with
  | some (_, .list xs) => xs
  | _ => []

/-- The target a marker asks for. -/
def targetOf (src : PackageSource) (m : Found) : Target :=
  let base : Target :=
    { mode := .external, pkgPath := m.text "Target", typeName := m.text "Type",
      customName := m.text "Name", included := m.items "Include", excluded := m.items "Exclude",
      file := m.location.file, line := m.location.line, column := m.location.column,
      annotatedType := m.typeName, annotatedDir := src.dir }
  if base.pkgPath.isEmpty then
    { base with mode := .self, pkgPath := src.pkgPath, pkgName := src.name, typeName := m.typeName }
  else base

end StaticWrap.Discover
