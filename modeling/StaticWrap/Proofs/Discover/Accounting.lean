import StaticWrap.Discover.Package
import StaticWrap.Proofs.Discover.Caching
/-!
**Every marker accounted for once.**

Discovery walks the files of a package, their declarations and the specifications of their
`type` declarations. Read flat, the places it looks at are its `sites`: each type specification
with the marker comments attached to it, and each function declaration with a doc comment, in
file and declaration order. Each site has one `Verdict`, a marker, a problem or nothing, and it
is nothing exactly when the site carries no marker comment.

* `findMarkers_eq_verdicts`: the nested loops of `findMarkers` give the markers and the problems
  of the sites' verdicts, in order.
* `foldl_processMarker_handed`: resolving the markers one after another, each hands on one
  thing (`Handed`): its non-empty facts to the collector, one problem, or nothing.
* `discovery_accounts_for_every_marker`: a package's discovery counts its markers, reports the
  problems of its sites and then one problem for each marker whose target does not resolve,
  and collects exactly what the markers hand on.
-/

namespace StaticWrap.Discover

open StaticWrap.GoSource StaticWrap.Facts StaticWrap.Model

/-! ### Sites and their verdicts -/

/-- A place where discovery looks for markers: a type specification with the marker comments
attached to it, or a function declaration with a doc comment. -/
inductive Site where
  | type (source : SourceFile) (name : Ident) (typeParams : Option FieldList) (typeExpr : Expr)
      (comments : List Comment)
  | func (source : SourceFile) (name : Ident) (doc : CommentGroup)

/-- The site of a specification of a `type` declaration. -/
def specSites (sf : SourceFile) (doc : Option CommentGroup) (lparen : Nat) : Spec → List Site
  | .typeSpec sdoc name typeParams _ typeExpr comment =>
    [.type sf name typeParams typeExpr (markerComments doc (lparen != 0) sdoc comment)]
  | _ => []

def declSites (sf : SourceFile) : Decl → List Site
  | .gen doc _ .kwType lparen specs _ => specs.flatMap (specSites sf doc lparen)
  | .func (some doc) _ name _ _ => [.func sf name doc]
  | _ => []

/-- The sites of a package, file by file and declaration by declaration. -/
def sites (src : PackageSource) : List Site :=
  src.files.flatMap fun sf => sf.file.decls.flatMap (declSites sf)

/-- The marker comments a site carries. -/
def Site.markerComments : Site → List Comment
  | .type _ _ _ _ comments => comments
  | .func _ _ doc => doc.list.filter fun c => Marker.isMarker c.text

/-- What discovery makes of a site. -/
inductive Verdict where
  | marker (m : Found)
  | problem (p : Failure)
  | nothing

def Verdict.marker? : Verdict → Option Found
  | .marker m => some m
  | _ => none

def Verdict.problem? : Verdict → Option Failure
  | .problem p => some p
  | _ => none

/-- A type with one marker comment is a marker when the comment reads and a problem when it does
not; a type with several is a problem that lists their lines; a function with a marker comment
is a problem at the first one; a site without marker comments is nothing. -/
def Site.verdict : Site → Verdict
  | .type _ _ _ _ [] => .nothing
  | .type sf name typeParams typeExpr [c] =>
    match Marker.readMarker .builtin c.text (locationOf sf c.pos) with
    | .ok a => .marker ⟨sf, name.name, typeParams, typeExpr, locationOf sf c.pos, a⟩
    | .error f => .problem (annotationProblem name.name (locationOf sf c.pos) f)
  | .type sf name _ _ (c :: c' :: cs) =>
    .problem (duplicateProblem name.name (locationOf sf c.pos)
      ((c :: c' :: cs).map fun c => (sf.lines.fileLine c.pos : Int)))
  | .func sf name doc =>
    match doc.list.find? fun c => Marker.isMarker c.text with
    | some c => .problem (markerOnFuncProblem name.name (locationOf sf c.pos))
    | none => .nothing

/-- The markers and the problems of sites, in order. -/
def verdicts (ss : List Site) : List Found × List Failure :=
  (ss.filterMap fun s => s.verdict.marker?, ss.filterMap fun s => s.verdict.problem?)

/-- A site comes to nothing exactly when it carries no marker comment. -/
theorem Site.verdict_eq_nothing_iff (s : Site) : s.verdict = .nothing ↔ s.markerComments = [] := by
  cases s with
  | type sf name typeParams typeExpr comments =>
    rcases comments with _ | ⟨c, _ | ⟨c', cs⟩⟩
    · simp [verdict, markerComments]
    · simp only [verdict, markerComments]
      cases Marker.readMarker .builtin c.text (locationOf sf c.pos) <;> simp
    · simp [verdict, markerComments]
  | func sf name doc =>
    simp only [verdict, markerComments, List.filter_eq_nil_iff]
    cases found : doc.list.find? fun c => Marker.isMarker c.text with
    | none => simpa using List.find?_eq_none.1 found
    | some c =>
      -- the comment found is a marker comment of the doc
      have marked := List.find?_some found
      have mem := List.mem_of_find?_eq_some found
      exact ⟨fun nothing => (by cases nothing), fun unmarked => absurd marked (unmarked c mem)⟩

@[simp, grind =] theorem verdicts_singleton (s : Site) :
    verdicts [s] = (s.verdict.marker?.toList, s.verdict.problem?.toList) := by
  cases verdict : s.verdict <;> simp [verdicts, verdict, Verdict.marker?, Verdict.problem?]

@[simp, grind =] theorem verdicts_append (ss ss' : List Site) :
    verdicts (ss ++ ss') =
      ((verdicts ss).1 ++ (verdicts ss').1, (verdicts ss).2 ++ (verdicts ss').2) := by
  simp [verdicts, List.filterMap_append]

/-- Reading the markers of a type specification gives its site's verdict. -/
theorem readTypeMarker_eq_verdict (sf : SourceFile) (name : Ident) (typeParams : Option FieldList)
    (typeExpr : Expr) (comments : List Comment) :
    readTypeMarker sf name.name typeParams typeExpr comments =
      ((Site.type sf name typeParams typeExpr comments).verdict.marker?,
        (Site.type sf name typeParams typeExpr comments).verdict.problem?.toList) := by
  rcases comments with _ | ⟨c, _ | ⟨c', cs⟩⟩
  · rfl
  · simp only [readTypeMarker, List.length_singleton, Nat.lt_irrefl, ↓reduceIte, Site.verdict]
    cases Marker.readMarker .builtin c.text (locationOf sf c.pos) <;> rfl
  · simp [readTypeMarker, Site.verdict, Verdict.marker?, Verdict.problem?]

/-! ### The loops of `findMarkers` -/

/-- A loop whose body always goes on, appending the verdicts of each element's sites to the
markers and problems found so far, appends the verdicts of all their sites. -/
theorem forIn_verdicts {α : Type} (l : List α) (sitesOf : α → List Site)
    (body : α → List Found × List Failure → Id (ForInStep (List Found × List Failure)))
    (step : ∀ a found problems, body a (found, problems) =
      pure (.yield (found ++ (verdicts (sitesOf a)).1, problems ++ (verdicts (sitesOf a)).2)))
    (found : List Found) (problems : List Failure) :
    forIn l (found, problems) body =
      pure (found ++ (verdicts (l.flatMap sitesOf)).1,
        problems ++ (verdicts (l.flatMap sitesOf)).2) := by
  induction l generalizing found problems with
  | nil => simp [verdicts]
  | cons a l ih =>
    rw [List.forIn_cons, step, pure_bind]
    simp only [ih, List.flatMap_cons, verdicts_append, List.append_assoc]

/-- **The loops read flat.** Finding the markers of a package gives the markers and the problems
of its sites' verdicts, in file and declaration order. -/
theorem findMarkers_eq_verdicts (src : PackageSource) : findMarkers src = verdicts (sites src) := by
  unfold findMarkers sites
  dsimp only
  -- three loops: over the files, their declarations, the specifications of a `type` declaration
  rw [forIn_verdicts src.files (fun sf => sf.file.decls.flatMap (declSites sf)) _ ?files]
  · simp
  intro sf found problems
  dsimp only
  rw [forIn_verdicts sf.file.decls (declSites sf) _ ?decls]
  · simp
  intro d found problems
  dsimp only
  split
  · -- a `type` declaration: one site per type specification
    rename_i doc _ lparen specs _
    rw [forIn_verdicts specs (specSites sf doc lparen) _ ?specs]
    · simp [declSites]
    intro spec found problems
    dsimp only
    split
    · rename_i sdoc name typeParams _ typeExpr comment
      rw [readTypeMarker_eq_verdict]
      simp [specSites, verdicts_singleton]
    · rename_i notType
      cases spec with
      | typeSpec => exact absurd rfl (notType _ _ _ _ _ _)
      | _ => simp [specSites, verdicts]
  · -- a function with a doc comment: at most its one problem
    rename_i doc _ name _ _
    simp only [declSites, verdicts_singleton, Site.verdict]
    cases doc.list.find? fun c => Marker.isMarker c.text <;> simp [Verdict.marker?, Verdict.problem?]
  · -- any other declaration has no site
    rename_i notType notFunc
    have noSites : declSites sf d = [] := by
      unfold declSites
      split
      · exact (notType _ _ _ _ _ rfl).elim
      · exact (notFunc _ _ _ _ _ rfl).elim
      · rfl
    simp [noSites, verdicts]

/-! ### What a marker hands on -/

/-- What resolving a marker hands on: its facts, never empty, to the collector under the
marker's target; one problem; or nothing. -/
inductive Handed where
  | facts (target : Target) (facts : List Fact) (nonempty : facts ≠ [])
  | problem (p : Failure)
  | nothing

/-- A target that does not resolve is a problem; an entry with facts hands them on, placed at
the marker; an entry without facts hands on nothing. -/
def handed (target : Target) : Except Failure Entry → Handed
  | .error e => .problem (unresolvedProblem target e)
  | .ok entry =>
    if empty : entry.facts.isEmpty then .nothing
    else .facts (entry.placedAt target) entry.facts (by simpa [List.isEmpty_iff] using empty)

def Handed.problem? : Handed → Option Failure
  | .problem p => some p
  | _ => none

/-- The collector after what a marker hands on. -/
def Handed.collect (c : Collector) : Handed → Collector
  | .facts target fs _ => (c.add target fs).2
  | _ => c

/-- What markers hand on, one after another, as a discoverer resolves them in turn. -/
def Discoverer.handedOn (d : Discoverer) (resolve : ExternalResolver) (src : PackageSource) :
    List Found → List Handed
  | [] => []
  | m :: ms =>
    handed (targetOf src m) (d.entryOf resolve src m).1 ::
      (d.entryOf resolve src m).2.handedOn resolve src ms

@[simp, grind =] theorem length_handedOn (d : Discoverer) (resolve : ExternalResolver) (src : PackageSource)
    (markers : List Found) : (d.handedOn resolve src markers).length = markers.length := by
  induction markers generalizing d with
  | nil => rfl
  | cons m ms ih => simp [Discoverer.handedOn, ih]

/-- Adding a marker's outcome adds the problem it hands on, if any. -/
@[simp, grind =] theorem addEntry_problems (st : Progress) (target : Target) (pos : String)
    (result : Except Failure Entry) :
    (st.addEntry target pos result).problems = st.problems ++ (handed target result).problem?.toList := by
  unfold Progress.addEntry
  cases result with
  | error e => rfl
  | ok entry =>
    dsimp only
    -- facts are handed on exactly when the entry has some
    by_cases empty : entry.facts.isEmpty = true <;> simp [handed, empty, Handed.problem?]

/-- Adding a marker's outcome gives the collector what it hands on. -/
@[simp, grind =] theorem addEntry_collector (st : Progress) (target : Target) (pos : String)
    (result : Except Failure Entry) :
    (st.addEntry target pos result).collector = (handed target result).collect st.collector := by
  unfold Progress.addEntry
  cases result with
  | error e => rfl
  | ok entry =>
    dsimp only
    -- facts are handed on exactly when the entry has some
    by_cases empty : entry.facts.isEmpty = true <;> simp [handed, empty, Handed.collect]

/-- **Each marker in turn.** Resolving markers one after another adds, after the problems there
were, the problems they hand on, and gives the collector, in order, the facts they hand on. -/
theorem foldl_processMarker_handed (resolve : ExternalResolver) (src : PackageSource)
    (markers : List Found) (st : Progress) :
    (markers.foldl (processMarker resolve src) st).problems =
        st.problems ++ (st.discoverer.handedOn resolve src markers).filterMap Handed.problem? ∧
      (markers.foldl (processMarker resolve src) st).collector =
        (st.discoverer.handedOn resolve src markers).foldl Handed.collect st.collector := by
  induction markers generalizing st with
  | nil => simp [Discoverer.handedOn]
  | cons m ms ih =>
    -- one marker: its outcome is added, and the discoverer it leaves resolves the rest
    have discoverer : (processMarker resolve src st m).discoverer =
        (st.discoverer.entryOf resolve src m).2 := by
      rw [processMarker_eq, addEntry_discoverer]
    obtain ⟨problems, collector⟩ := ih (processMarker resolve src st m)
    rw [discoverer] at problems collector
    refine ⟨?_, ?_⟩
    · rw [List.foldl_cons, problems, processMarker_eq, addEntry_problems]
      simp only [Discoverer.handedOn, List.filterMap_cons]
      cases (handed (targetOf src m) (st.discoverer.entryOf resolve src m).1).problem? <;> simp
    · rw [List.foldl_cons, collector, processMarker_eq, addEntry_collector]
      rfl

/-! ### A package -/

/-- **Discovery accounts for every marker once.** A site comes to nothing only when it carries
no marker comment; whatever the files of a package hold, finding its markers gives, in file and
declaration order, the marker of each site whose verdict is a marker and the problem of each
site whose verdict is a problem. Discovering a package fails only when its files cannot be read,
and then with that failure; otherwise it counts those markers, each of which hands on exactly
one thing; its problems are those of its sites followed by the problems the markers hand on,
one for each whose target does not resolve; and its units are those of a collector given, in
order, the non-empty facts the markers hand on. -/
theorem discovery_accounts_for_every_marker :
    (∀ s : Site, s.verdict = .nothing ↔ s.markerComments = []) ∧
    (∀ src : PackageSource, findMarkers src = verdicts (sites src)) ∧
    ∀ (d : Discoverer) (log : Report.Log) (t : Disk.Tree) (tags : List String)
      (resolve : ExternalResolver) (dir pkgPath : String),
      match readPackageFiles t tags dir with
      | .error e => (d.parsePackage log t tags resolve dir pkgPath).1 = .error e
      | .ok read =>
        let src : PackageSource := ⟨dir, read.2, pkgPath, read.1⟩
        let handedOn := d.handedOn resolve src (verdicts (sites src)).1
        ∃ found, (d.parsePackage log t tags resolve dir pkgPath).1 = .ok found ∧
          found.markers = (verdicts (sites src)).1.length ∧
          handedOn.length = found.markers ∧
          found.problems = (verdicts (sites src)).2 ++ handedOn.filterMap Handed.problem? ∧
          found.units = (handedOn.foldl Handed.collect {}).units := by
  refine ⟨Site.verdict_eq_nothing_iff, findMarkers_eq_verdicts, ?_⟩
  intro d log t tags resolve dir pkgPath
  unfold Discoverer.parsePackage
  cases readPackageFiles t tags dir with
  | error e => rfl
  | ok read =>
    obtain ⟨files, name⟩ := read
    dsimp only
    rw [findMarkers_eq_verdicts]
    obtain ⟨problems, collector⟩ := foldl_processMarker_handed resolve ⟨dir, name, pkgPath, files⟩
      (verdicts (sites ⟨dir, name, pkgPath, files⟩)).1
      { discoverer := d, log, problems := (verdicts (sites ⟨dir, name, pkgPath, files⟩)).2 }
    refine ⟨_, rfl, rfl, length_handedOn _ _ _ _, problems, ?_⟩
    dsimp only
    rw [collector]

end StaticWrap.Discover
