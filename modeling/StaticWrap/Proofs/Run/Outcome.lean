import StaticWrap.Proofs.Run.Scanned
/-!
**What a pass does with each package directory.**

A pass handles the directories its scan finds one after another. For each it either skips the
package, whose sources cannot be read, or brings its generated file up to date with what
emission made of the package: removed when nothing is to be generated, written when the text
differs from the file's, left when it is the same. The summary lists the written and removed
files and the skipped packages, and counts the files left as they were.

* `FileOutcome`: the four things a pass can do with a directory's generated file.
* `processPackage_ends`: a directory handled normally has an outcome, which comes from discovery
  and emission at that point of the pass and changes only the directory's generated file; a
  directory whose handling fails leaves the tree as it was.
* `Handles`: a run of the pass's loop, step by step.
* `pass_accounts_for_each_directory`: a pass with valid settings handles the scanned directories
  in order; each handled directory's file holds what its outcome leaves, nothing else changes,
  and the summary lists exactly the outcomes, or is kept when the pass fails.
* `escaping_output_shares_generated_file`: the output name must stay in the directory.
  Validation admits `autogen_/../../autogen_x.go`, which gives two scanned directories one
  generated file, so the second overwrites what the first wrote.
-/

namespace StaticWrap.Run

open StaticWrap.Disk StaticWrap.Disk.Tree StaticWrap.Text
open StaticWrap.Generate (withFileName)

/-! ### The file at a path -/

theorem fileAt_eq_none_iff {t : Tree} {p : String} :
    t.fileAt p = none ↔ ∀ f ∈ t.files, f.1 ≠ cleanPath p := by
  simp [Tree.fileAt, List.find?_eq_none]

theorem isFile_eq_isSome_fileAt (t : Tree) (p : String) : t.isFile p = (t.fileAt p).isSome := by
  rw [Bool.eq_iff_iff]
  simp [Tree.isFile, Tree.fileAt, List.find?_isSome]

theorem fileAt_eq_none_of_isFile {t : Tree} {p : String} (notFile : t.isFile p = false) :
    t.fileAt p = none := by
  rw [isFile_eq_isSome_fileAt] at notFile
  simpa using notFile

/-- Whether anything is at a path depends only on the file and the directory there. -/
theorem exists?_congr {t u : Tree} {p : String} (file : u.fileAt p = t.fileAt p)
    (dir : u.isDir p = t.isDir p) : u.exists? p = t.exists? p := by
  simp only [Tree.exists?, isFile_eq_isSome_fileAt, file, dir]

theorem fileAt_eq_none_of_exists {t : Tree} {p : String} (absent : t.exists? p = false) :
    t.fileAt p = none :=
  fileAt_eq_none_of_isFile (Bool.or_eq_false_iff.1 absent).1

theorem fileAt_of_readFile_ok {t : Tree} {p x : String} (read : t.readFile p = .ok x) :
    t.fileAt p = some x := by
  unfold Tree.readFile at read
  dsimp only at read
  split at read
  · rename_i found
    cases read
    simp [Tree.fileAt, found]
  · split at read <;> cases read

theorem fileAt_of_readFile_error {t : Tree} {p e : String} (read : t.readFile p = .error e) :
    t.fileAt p = none := by
  unfold Tree.readFile at read
  dsimp only at read
  split at read
  · cases read
  · rename_i missing
    simp [Tree.fileAt, missing]

theorem fileAt_write_self (t : Tree) (p content : String) :
    (t.write p content).fileAt p = some content := by
  unfold Tree.write
  dsimp only
  split
  · rename_i present
    -- the entries the lookup finds are the replaced ones
    have same : ((fun x : String × String => x.fst == cleanPath p) ∘ fun f =>
        if (f.fst == cleanPath p) = true then (cleanPath p, content) else f) =
        fun x => x.fst == cleanPath p := by
      funext f
      by_cases named : f.1 = cleanPath p <;> simp [named]
    obtain ⟨f, found⟩ := Option.isSome_iff_exists.1 (List.find?_isSome.2 (List.any_eq_true.1 present))
    have named := List.find?_some found
    simp only [Tree.fileAt, List.find?_map, same, found]
    simp [beq_iff_eq.1 named]
  · rename_i absent
    have missing : t.files.find? (·.1 == cleanPath p) = none :=
      List.find?_eq_none.2 fun f mem named => absent (List.any_eq_true.2 ⟨f, mem, named⟩)
    simp [Tree.fileAt, List.find?_append, missing]

theorem fileAt_unlink_self {t u : Tree} {p : String} (unlinked : t.unlink p = .ok u) :
    u.fileAt p = none := by
  unfold Tree.unlink at unlinked
  dsimp only at unlinked
  split at unlinked
  · -- a file: it is removed
    rename_i present
    cases unlinked
    unfold Tree.remove
    dsimp only
    rw [if_pos (by simpa [Tree.isFile] using present)]
    exact fileAt_eq_none_iff.2 fun f mem => by simpa using (List.mem_filter.1 mem).2
  split at unlinked
  · cases unlinked
  split at unlinked
  · cases unlinked
  -- an empty directory: the files stay, and none is at the path
  rename_i notFile _ _
  cases unlinked
  exact fileAt_eq_none_of_isFile
    (Bool.eq_false_iff.2 (by simpa only [Tree.isFile, cleanPath_cleanPath] using notFile))

/-! ### Removing and writing a generated file -/

/-- A removal takes away whatever is at the path, a file or an empty directory, so something is
removed exactly when something was there, and no file is left. -/
theorem removeGenerated_ok {t u : Tree} {cwd path : String} {removed : Bool}
    (ok : removeGenerated t cwd path = .ok (removed, u)) :
    removed = t.exists? (t.absolute cwd path) ∧ u.fileAt (t.absolute cwd path) = none := by
  unfold removeGenerated at ok
  dsimp only at ok
  split at ok
  · rename_i absent
    simp only [Bool.not_eq_true'] at absent
    split at ok
    · cases ok
    · cases ok
      exact ⟨absent.symm, fileAt_eq_none_of_exists absent⟩
  · rename_i present
    simp only [Bool.not_eq_true', Bool.not_eq_false] at present
    split at ok
    · rename_i unlinked
      cases ok
      exact ⟨present.symm, fileAt_unlink_self unlinked⟩
    · cases ok

/-- A write leaves a file that already holds the text alone, and otherwise leaves the text at
the path. -/
theorem writeIfChanged_ok {t u : Tree} {cwd path content : String} {written : Bool}
    (ok : writeIfChanged t cwd path content = .ok (written, u)) :
    (written = false ∧ t.fileAt (t.absolute cwd path) = some content) ∨
      (written = true ∧ t.fileAt (t.absolute cwd path) ≠ some content ∧
        u.fileAt (t.absolute cwd path) = some content) := by
  unfold writeIfChanged at ok
  dsimp only at ok
  split at ok
  · rename_i existing read
    have file := fileAt_of_readFile_ok read
    split at ok
    · rename_i same
      cases ok
      exact .inl ⟨rfl, by rw [file, beq_iff_eq.1 same]⟩
    · rename_i other
      cases ok
      exact .inr ⟨rfl, by rw [file]; simpa using other, fileAt_write_self _ _ _⟩
  · rename_i read
    have none := fileAt_of_readFile_error read
    split at ok
    · cases ok
    · split at ok
      · cases ok
      · cases ok
        exact .inr ⟨rfl, by simp [none], fileAt_write_self _ _ _⟩
/-! ### Outcomes -/

/-- What a pass did with the generated file of a package directory. -/
inductive FileOutcome where
  /-- the package's sources could not be read: the package was skipped with this failure -/
  | skipped (failure : Failure)
  /-- nothing was to be generated; `removed` tells whether something at the path was removed -/
  | cleared (removed : Bool)
  /-- the file already held the generated text -/
  | unchanged (source : String)
  /-- the file was written with the generated text -/
  | written (source : String)

namespace FileOutcome

/-- The file the outcome leaves at the path, from the one that was there. -/
@[simp]
def fileAfter : FileOutcome → Option String → Option String
  | .skipped _, before => before
  | .cleared _, _ => none
  | .unchanged source, _ => some source
  | .written source, _ => some source

/-- How the outcome fits what was at the path: the file `before`, and whether anything was
there at all (`present`). A text already there is left, another text is written, and something
is removed exactly when something was there. -/
def Fits (before : Option String) (present : Bool) : FileOutcome → Prop
  | .skipped _ => True
  | .cleared removed => removed = present
  | .unchanged source => before = some source
  | .written source => before ≠ some source

/-- The emission the outcome of a package that was read follows from: nothing to generate for
a cleared path, and an artifact with the text otherwise. -/
def Emits (emitted : Except Failure (Option Generate.Artifact)) : FileOutcome → Prop
  | .skipped _ => False
  | .cleared _ => emitted = .ok none
  | .unchanged source | .written source => ∃ a, emitted = .ok (some a) ∧ a.source = source

/-- The outcome's entry in the summary's written files, for the file at `path`. -/
@[simp]
def generatedFiles (path : String) : FileOutcome → List String
  | .written _ => [path]
  | _ => []

/-- The outcome's entry in the summary's removed files, for the file at `path`. -/
@[simp]
def removedFiles (path : String) : FileOutcome → List String
  | .cleared true => [path]
  | _ => []

/-- The outcome left the file as it was, and counts among the unchanged files. -/
@[simp]
def isUnchanged : FileOutcome → Bool
  | .unchanged _ => true
  | _ => false

/-- The outcome's entry in the summary's skipped packages. -/
@[simp]
def skippedPackages : FileOutcome → List Failure
  | .skipped failure => [failure]
  | _ => []

end FileOutcome

/-! ### One directory -/

/-- Where the generated file of a directory is, read from `cwd` in `t`. -/
def generatedAt (t : Tree) (cwd : String) (c : Config) (dir : String) : String :=
  t.absolute cwd (generatedPath c dir)

/-- What discovery reads for a package directory from a state of the pass, after the log line
that announces it. -/
def discoveryAt (g : Generator) (dir pkgPath : String) (s : PassState) :
    Except Failure Discover.Discovery :=
  (s.discoverer.parsePackage (s.log.debug ("parsing " ++ dir ++ " (" ++ pkgPath ++ ")")) s.tree
    g.config.tags (Walk.externalResolver s.tree g.config.tags) dir pkgPath).1

/-- The request a pass emits for what discovery found: the units whose wrapper names are free. -/
def passRequest (found : Discover.Discovery) : Generate.EmitRequest :=
  { packageName := found.packageName, pkgPath := found.pkgPath, dir := found.dir,
    units := (Generate.checkNames found.units found.declared).1.map some,
    declared := found.declared }

/-- Where an outcome comes from: the package's import path, what discovery read from `s`, and
for a package it read, what emission made of the package's request. -/
def Source (g : Generator) (cwd dir : String) (s : PassState) (o : FileOutcome) : Prop :=
  ∃ pkgPath, importPath s.tree cwd g.config.module dir = .ok pkgPath ∧
    match o with
    | .skipped failure => ∃ cause, discoveryAt g dir pkgPath s = .error cause ∧
        failure = skippedFailure dir pkgPath cause
    | o => ∃ found, discoveryAt g dir pkgPath s = .ok found ∧
        o.Emits (Generate.emit (withFileName g.config.output) (passRequest found))

/-- What handling the directory `dir` did from `s` to `s'`, with outcome `o`: the outcome fits
what was at the directory's generated file, only that path changed, it now holds what `o`
leaves, and `o`'s entries were added to the summary. -/
structure Effect (c : Config) (cwd dir : String) (s s' : PassState) (o : FileOutcome) : Prop where
  fits : o.Fits (s.tree.fileAt (generatedAt s.tree cwd c dir))
    (s.tree.exists? (generatedAt s.tree cwd c dir))
  within : Within (· = generatedAt s.tree cwd c dir) s.tree s'.tree
  fileAt : s'.tree.fileAt (generatedAt s.tree cwd c dir) =
    o.fileAfter (s.tree.fileAt (generatedAt s.tree cwd c dir))
  generatedFiles : s'.summary.generatedFiles =
    s.summary.generatedFiles ++ o.generatedFiles (generatedPath c dir)
  removedFiles : s'.summary.removedFiles =
    s.summary.removedFiles ++ o.removedFiles (generatedPath c dir)
  filesUnchanged : s'.summary.filesUnchanged =
    s.summary.filesUnchanged + if o.isUnchanged then 1 else 0
  skippedPackages : s'.summary.skippedPackages = s.summary.skippedPackages ++ o.skippedPackages

/-- The files of a state and the summary's account of them. -/
def PassState.files (s : PassState) : Tree × List String × List String × Nat × List Failure :=
  (s.tree, s.summary.generatedFiles, s.summary.removedFiles, s.summary.filesUnchanged,
    s.summary.skippedPackages)

/-- An effect is measured against the files of the state it starts from and their account. -/
theorem Effect.of_files {c : Config} {cwd dir : String} {s₁ s s' : PassState} {o : FileOutcome}
    (same : s₁.files = s.files) (effect : Effect c cwd dir s₁ s' o) : Effect c cwd dir s s' o := by
  simp only [PassState.files, Prod.mk.injEq] at same
  obtain ⟨tree, generated, removed, unchanged, skipped⟩ := same
  obtain ⟨fits, within, fileAt, generatedFiles, removedFiles, filesUnchanged, skippedPackages⟩ :=
    effect
  rw [tree] at fits within fileAt
  rw [generated] at generatedFiles
  rw [removed] at removedFiles
  rw [unchanged] at filesUnchanged
  rw [skipped] at skippedPackages
  exact ⟨fits, within, fileAt, generatedFiles, removedFiles, filesUnchanged, skippedPackages⟩

/-- A loop that runs a step for each element and always goes on: the step for the first
element, then the loop over the rest, unless the step fails. -/
theorem run_forIn_cons {β : Type} (m : β → PassM PUnit) (x : β) (xs : List β) (s : PassState) :
    (forIn (x :: xs) PUnit.unit fun y _ => do
        m y
        pure (ForInStep.yield PUnit.unit) : PassM PUnit).run.run s =
      match (m x).run.run s with
      | (.ok _, s') => (forIn xs PUnit.unit fun y _ => do
          m y
          pure (ForInStep.yield PUnit.unit) : PassM PUnit).run.run s'
      | (.error e, s') => (.error e, s') := by
  rw [List.forIn_cons, run_bind, run_bind]
  rcases (m x).run.run s with ⟨_ | _, s'⟩ <;> rfl

theorem run_reportProblem (verbose : Bool) (e : Failure) (s : PassState) :
    (reportProblem verbose e).run.run s =
      (.ok (), { s with reports := s.reports ++ Report.problemText verbose e,
                        summary := { s.summary with problems := s.summary.problems + 1 } }) := rfl

/-- Reporting problems one after another ends normally, leaves the tree alone and counts them. -/
theorem run_reportProblems (verbose : Bool) :
    ∀ (problems : List Failure) (s : PassState), ∃ reports,
      (forIn problems PUnit.unit fun problem _ => do
          reportProblem verbose problem
          pure (ForInStep.yield PUnit.unit) : PassM PUnit).run.run s =
        (.ok PUnit.unit, { s with reports,
                                  summary := { s.summary with
                                               problems := s.summary.problems + problems.length } })
  | [], s => ⟨s.reports, by simp; rfl⟩
  | problem :: problems, s => by
    obtain ⟨reports, rest⟩ := run_reportProblems verbose problems
      { s with reports := s.reports ++ Report.problemText verbose problem,
               summary := { s.summary with problems := s.summary.problems + 1 } }
    refine ⟨reports, ?_⟩
    rw [run_forIn_cons, run_reportProblem]
    dsimp only
    rw [rest]
    simp only [List.length_cons]
    congr 3
    omega

theorem run_modify_bind {α : Type} (f : PassState → PassState) (k : PUnit → PassM α)
    (s : PassState) : (modify f >>= k).run.run s = (k ()).run.run (f s) := rfl

theorem run_count_bind {α : Type} (f : Report.PassSummary → Report.PassSummary)
    (k : Unit → PassM α) (s : PassState) :
    (count f >>= k).run.run s = (k ()).run.run { s with summary := f s.summary } := rfl

theorem run_count (f : Report.PassSummary → Report.PassSummary) (s : PassState) :
    (count f).run.run s = (.ok (), { s with summary := f s.summary }) := rfl

theorem run_note (f : Report.Log → Report.Log) (s : PassState) :
    (note f).run.run s = (.ok (), { s with log := f s.log }) := rfl

/-- **Bringing a package's file up to date.** Ending normally, it has an outcome that follows
emission of the package's request, and its effect is confined to the package's generated file;
failing, it leaves the tree as it was. -/
theorem updatePackage_ends {g : Generator} {cwd : String} {found : Discover.Discovery}
    {s s' : PassState} {r : Except Failure Unit}
    (ran : (updatePackage g cwd found).run.run s = (r, s')) :
    match r with
    | .ok () => ∃ o, o.Emits (Generate.emit (withFileName g.config.output) (passRequest found)) ∧
        Effect g.config cwd found.dir s s' o
    | .error _ => s'.tree = s.tree := by
  unfold updatePackage at ran
  obtain ⟨reports, loop⟩ := run_reportProblems g.config.verbose
    (found.problems ++ (Generate.checkNames found.units found.declared).2) s
  rw [run_bind, loop] at ran
  dsimp only at ran
  generalize emitted : Generate.emit (withFileName g.config.output) _ = result at ran
  replace emitted : Generate.emit (withFileName g.config.output) (passRequest found) = result :=
    emitted
  rcases result with e | _ | a
  · cases ran
    rfl
  · -- nothing to generate: whatever is at the path goes
    rw [run_get_bind] at ran
    generalize removal : removeGenerated _ cwd _ = removing at ran
    rcases removing with e | ⟨removed, tree⟩
    · cases ran
      rfl
    obtain ⟨present, gone⟩ := removeGenerated_ok removal
    have within := removeGenerated_within removal
    rw [run_modify_bind] at ran
    cases removed
    · cases ran
      exact ⟨.cleared false, emitted, present, within, gone, by simp, by simp, rfl, by simp⟩
    · rw [if_pos rfl, run_note_bind, run_count] at ran
      cases ran
      exact ⟨.cleared true, emitted, present, within, gone, by simp, rfl, rfl, by simp⟩
  · -- an artifact: written unless the file holds its text
    obtain ⟨dir, name⟩ := emit_place emitted
    have path : a.path = generatedPath g.config found.dir := by
      simp [Generate.Artifact.path, generatedPath, dir, name, passRequest]
    rw [run_count_bind, run_get_bind] at ran
    generalize writing : writeIfChanged _ cwd a.path a.source = result at ran
    rcases result with e | ⟨written, tree⟩
    · cases ran
      rfl
    have within := writeIfChanged_within writing
    rw [path] at writing within
    rcases writeIfChanged_ok writing with ⟨rfl, same⟩ | ⟨rfl, other, wrote⟩
    · rw [run_count_bind, run_note] at ran
      cases ran
      exact ⟨.unchanged a.source, ⟨a, emitted, rfl⟩, same, Within.refl _ _, same,
        by simp, by simp, rfl, by simp⟩
    · rw [run_modify_bind, run_note_bind, run_count] at ran
      cases ran
      exact ⟨.written a.source, ⟨a, emitted, rfl⟩, other, within, wrote,
        by simp [path], by simp, rfl, by simp⟩

/-- **Handling a package directory.** Ending normally, it has an outcome that comes from the
directory's import path, discovery and emission at that point of the pass, and its effect is
confined to the directory's generated file; failing, it leaves the tree as it was. -/
theorem processPackage_ends {g : Generator} {cwd dir : String} {s s' : PassState}
    {r : Except Failure Unit} (ran : (processPackage g cwd dir).run.run s = (r, s')) :
    match r with
    | .ok () => ∃ o, Source g cwd dir s o ∧ Effect g.config cwd dir s s' o
    | .error _ => s'.tree = s.tree := by
  unfold processPackage at ran
  rw [run_get_bind] at ran
  dsimp only at ran
  generalize located : importPath s.tree cwd g.config.module dir = locating at ran
  rcases locating with e | pkgPath
  · cases ran
    rfl
  rw [run_note_bind, run_get_bind] at ran
  dsimp only at ran
  generalize parsed : s.discoverer.parsePackage _ _ _ _ dir pkgPath = parse at ran
  obtain ⟨result, discoverer, log⟩ := parse
  have discovered : discoveryAt g dir pkgPath s = result := by
    rw [discoveryAt, parsed]
  rw [run_modify_bind] at ran
  rcases result with cause | found
  · -- the sources cannot be read: the package is skipped
    cases ran
    exact ⟨.skipped (skippedFailure dir pkgPath cause), ⟨pkgPath, located, cause, discovered, rfl⟩,
      trivial, Within.refl _ _, rfl, by simp, by simp, rfl, by simp⟩
  · have same := parsePackage_dir parsed
    rw [run_count_bind] at ran
    have ends := updatePackage_ends ran
    subst same
    split at ends
    · obtain ⟨o, emitted, effect⟩ := ends
      -- the log line, discovery's cache and the counters leave the files and the file counts
      refine ⟨o, ⟨pkgPath, located, ?_⟩, effect.of_files (by rfl)⟩
      cases o with
      | skipped failure => exact emitted.elim
      | cleared _ | unchanged _ | written _ => exact ⟨found, discovered, emitted⟩
    · exact ends

/-! ### A run of the pass's loop -/

/-- A step of the pass's loop over the directory `dir`: handling it from `s` ends normally in
`s'`, with the outcome `o`, which comes from its source and has its effect. -/
structure Step (g : Generator) (cwd dir : String) (s s' : PassState) (o : FileOutcome) :
    Prop where
  ran : (processPackage g cwd dir).run.run s = (.ok (), s')
  source : Source g cwd dir s o
  effect : Effect g.config cwd dir s s' o

/-- The pass's loop handled the directories in order, from `s` to `s'`, with these outcomes. -/
inductive Handles (g : Generator) (cwd : String) :
    PassState → List String → List FileOutcome → PassState → Prop
  | nil (s : PassState) : Handles g cwd s [] [] s
  | cons {s s₁ s' : PassState} {dir : String} {dirs : List String} {o : FileOutcome}
      {outs : List FileOutcome} (step : Step g cwd dir s s₁ o) (rest : Handles g cwd s₁ dirs outs s') :
      Handles g cwd s (dir :: dirs) (o :: outs) s'

/-- **The pass's loop.** Ending normally, it handled every directory; failing, it handled the
directories before one whose handling failed, and that left the tree as it was. -/
theorem loop_ends {g : Generator} {cwd : String} :
    ∀ {dirs : List String} {s s' : PassState} {r : Except Failure PUnit},
      (forIn dirs PUnit.unit fun dir _ => do
          processPackage g cwd dir
          pure (ForInStep.yield PUnit.unit) : PassM PUnit).run.run s = (r, s') →
      match r with
      | .ok _ => ∃ outs, Handles g cwd s dirs outs s'
      | .error e => ∃ k outs sk dir, dirs[k]? = some dir ∧ Handles g cwd s (dirs.take k) outs sk ∧
          (processPackage g cwd dir).run.run sk = (.error e, s') ∧ s'.tree = sk.tree
  | [], s, _, _, ran => by
    cases ran
    exact ⟨[], .nil s⟩
  | dir :: dirs, s, s', r, ran => by
    rw [run_forIn_cons] at ran
    rcases handled : (processPackage g cwd dir).run.run s with ⟨_ | _, s₁⟩
    · -- the first directory fails
      rw [handled] at ran
      cases ran
      exact ⟨0, [], s, dir, rfl, .nil s, handled, processPackage_ends handled⟩
    · rw [handled] at ran
      obtain ⟨o, source, effect⟩ := processPackage_ends handled
      have step : Step g cwd dir s s₁ o := ⟨handled, source, effect⟩
      have rest := loop_ends ran
      cases r with
      | ok _ =>
        obtain ⟨outs, handles⟩ := rest
        exact ⟨o :: outs, .cons step handles⟩
      | error e =>
        obtain ⟨k, outs, sk, failing, found, handles, failed, kept⟩ := rest
        exact ⟨k + 1, o :: outs, sk, failing, found, .cons step handles, failed, kept⟩

theorem cleanPath_generatedAt (t : Tree) (cwd : String) (c : Config) (dir : String) :
    cleanPath (generatedAt t cwd c dir) = generatedAt t cwd c dir :=
  cleanPath_absolute t cwd _

theorem generatedAt_congr {t u : Tree} (root : u.root = t.root) :
    generatedAt u = generatedAt t := by
  funext cwd c dir
  simp only [generatedAt, absolute_congr root]

theorem generatedIn_congr {t u : Tree} (root : u.root = t.root) :
    GeneratedIn u = GeneratedIn t := by
  funext cwd name dirs p
  simp only [GeneratedIn, absolute_congr root]

namespace Handles

variable {g : Generator} {cwd : String} {s s' : PassState} {dirs : List String}
  {outs : List FileOutcome}

theorem length_eq (handles : Handles g cwd s dirs outs s') : outs.length = dirs.length := by
  induction handles with
  | nil => rfl
  | cons _ _ ih => simp [ih]

/-- A run of the loop changes only the generated files of the directories it handled. -/
theorem within (handles : Handles g cwd s dirs outs s') :
    Within (GeneratedIn s.tree cwd (withFileName g.config.output) dirs) s.tree s'.tree := by
  induction handles with
  | nil s => exact Within.refl _ _
  | cons step rest ih =>
    rw [generatedIn_congr step.effect.within.root] at ih
    refine (step.effect.within.mono fun p here => ⟨_, List.mem_cons_self, here⟩).trans
      (ih.mono fun p ⟨d, mem, at_⟩ => ⟨d, List.mem_cons_of_mem _ mem, at_⟩)

/-- **What a run of the loop leaves at each handled directory's file.** When the handled
directories' files are distinct, each holds what its outcome leaves, and the outcome fits what
the file held when the run began. -/
theorem accounts (handles : Handles g cwd s dirs outs s')
    (distinct : (dirs.map (generatedAt s.tree cwd g.config)).Nodup) :
    ∀ d o, (d, o) ∈ dirs.zip outs →
      o.Fits (s.tree.fileAt (generatedAt s.tree cwd g.config d))
          (s.tree.exists? (generatedAt s.tree cwd g.config d)) ∧
        s'.tree.fileAt (generatedAt s.tree cwd g.config d) =
          o.fileAfter (s.tree.fileAt (generatedAt s.tree cwd g.config d)) := by
  induction handles with
  | nil => simp
  | cons step rest ih =>
    rename_i s s₁ s' dir dirs o outs
    have root := step.effect.within.root
    rw [List.map_cons, List.nodup_cons] at distinct
    obtain ⟨fresh, distinct⟩ := distinct
    rw [generatedAt_congr root] at ih
    have later := rest.within
    rw [generatedIn_congr root] at later
    intro d o' mem
    rcases List.mem_cons.1 mem with first | other
    · -- the directory of this step: no later step touches its file
      cases first
      have outside : ¬ GeneratedIn s.tree cwd (withFileName g.config.output) dirs
          (cleanPath (generatedAt s.tree cwd g.config dir)) := by
        rintro ⟨d', mem', at_⟩
        rw [cleanPath_generatedAt] at at_
        exact fresh (List.mem_map.2 ⟨d', mem', at_.symm⟩)
      refine ⟨step.effect.fits, ?_⟩
      rw [(later.agree _ outside).1, step.effect.fileAt]
    · -- a later directory: this step left its file as it was
      obtain ⟨fits, after⟩ := ih distinct d o' other
      have ne : generatedAt s.tree cwd g.config d ≠ generatedAt s.tree cwd g.config dir :=
        fun same => fresh (List.mem_map.2 ⟨d, (List.of_mem_zip other).1, same⟩)
      have agree := step.effect.within.agree _ (by rwa [cleanPath_generatedAt])
      rw [agree.1, exists?_congr agree.1 agree.2] at fits
      rw [agree.1] at after
      exact ⟨fits, after⟩

/-- **The summary of a run of the loop** adds the entries of the outcomes in order. -/
theorem summary (handles : Handles g cwd s dirs outs s') :
    s'.summary.generatedFiles = s.summary.generatedFiles ++
        (dirs.zip outs).flatMap (fun p => p.2.generatedFiles (generatedPath g.config p.1)) ∧
      s'.summary.removedFiles = s.summary.removedFiles ++
        (dirs.zip outs).flatMap (fun p => p.2.removedFiles (generatedPath g.config p.1)) ∧
      s'.summary.filesUnchanged =
        s.summary.filesUnchanged + outs.countP FileOutcome.isUnchanged ∧
      s'.summary.skippedPackages =
        s.summary.skippedPackages ++ outs.flatMap FileOutcome.skippedPackages := by
  induction handles with
  | nil => simp
  | cons step rest ih =>
    obtain ⟨generated, removed, unchanged, skipped⟩ := ih
    have effect := step.effect
    refine ⟨?_, ?_, ?_, ?_⟩
    · simp [generated, effect.generatedFiles]
    · simp [removed, effect.removedFiles]
    · rw [unchanged, effect.filesUnchanged, List.countP_cons]
      split <;> omega
    · simp [skipped, effect.skippedPackages]

/-- **What a run of the loop over the first `k` directories leaves.** When the directories'
files are distinct, each handled directory's file holds what its outcome leaves, and nothing
else changed, the other directories' files included. -/
theorem prefix_accounts {k : Nat} (handles : Handles g cwd s (dirs.take k) outs s')
    (distinct : (dirs.map (generatedAt s.tree cwd g.config)).Nodup) :
    (∀ d o, (d, o) ∈ (dirs.take k).zip outs →
      o.Fits (s.tree.fileAt (generatedAt s.tree cwd g.config d))
          (s.tree.exists? (generatedAt s.tree cwd g.config d)) ∧
        s'.tree.fileAt (generatedAt s.tree cwd g.config d) =
          o.fileAfter (s.tree.fileAt (generatedAt s.tree cwd g.config d))) ∧
      (∀ d ∈ dirs.drop k, ¬ Changed s.tree s'.tree (generatedAt s.tree cwd g.config d)) ∧
      Within (GeneratedIn s.tree cwd (withFileName g.config.output) (dirs.take k)) s.tree
        s'.tree := by
  rw [← List.take_append_drop k dirs, List.map_append] at distinct
  obtain ⟨first, -, apart⟩ := List.nodup_append.1 distinct
  refine ⟨handles.accounts first, fun d later changed => ?_, handles.within⟩
  -- a changed path is the file of a handled directory, which no later directory shares
  obtain ⟨d', handled, at_⟩ := handles.within.changed changed
  rw [cleanPath_generatedAt] at at_
  exact apart _ (List.mem_map.2 ⟨d', handled, rfl⟩) _ (List.mem_map.2 ⟨d, later, rfl⟩) at_.symm

end Handles

/-! ### A pass -/

/-- **The steps of a pass.** Either the scan fails, and so does the pass, with the tree as it
was; or the scan finds the directories `dirs`, and from a state with the same files, account and
cache the loop handles all of them, or those before one whose handling fails. -/
theorem passSteps_ends {g : Generator} {cwd : String} {s s' : PassState}
    {r : Except Failure Unit} (ran : (passSteps g cwd).run.run s = (r, s')) :
    (∃ e, scanDirectories s.tree g.config.tags cwd g.config.directories = .error e ∧
        r = .error (scanFailure g.config.directories e) ∧ s'.tree = s.tree) ∨
      ∃ dirs, scanDirectories s.tree g.config.tags cwd g.config.directories = .ok dirs ∧
        ∃ s₀ : PassState, s₀.files = s.files ∧ s₀.discoverer = s.discoverer ∧
          match r with
          | .ok _ => ∃ outs, Handles g cwd s₀ dirs outs s'
          | .error e => ∃ k outs sk dir, dirs[k]? = some dir ∧
              Handles g cwd s₀ (dirs.take k) outs sk ∧
              (processPackage g cwd dir).run.run sk = (.error e, s') ∧ s'.tree = sk.tree := by
  unfold passSteps at ran
  rw [run_note_bind, run_get_bind] at ran
  dsimp only at ran
  split at ran
  · rename_i e scanned
    rw [run_note_bind] at ran
    cases ran
    exact .inl ⟨e, scanned, rfl, rfl⟩
  · rename_i dirs scanned
    rw [run_note_bind, run_bind] at ran
    rcases looped : (forIn dirs PUnit.unit fun dir _ => do
        processPackage g cwd dir
        pure (ForInStep.yield PUnit.unit) : PassM PUnit).run.run
          { s with log := (s.log.startStep "Scanning directories for Go packages").endStep true
                            (toString dirs.length ++ " packages") } with ⟨result, s₁⟩
    rw [looped] at ran
    have ends := loop_ends looped
    -- the log lines before the loop leave the files, their account and the cache
    rcases result with e | _ <;> cases ran <;> exact .inr ⟨dirs, scanned, _, by rfl, by rfl, ends⟩

/-- **What a pass accounts for.** Run by `g` over the tree `t` from `cwd`, starting from the
log `log`, the pass left `out`. Either its scan failed, and the pass failed with the tree as it
was and the previous summary kept; or the scan found the directories `dirs`, whose generated
files are distinct, and the pass handled the first `k` of them in order, with the outcomes
`outs`, from a state with the tree `t` and a new cache generation:

* the generated file of each handled directory holds what its outcome leaves, and the outcome
  fits what the file held when the pass began;
* the generated files of the other directories are untouched, and nothing but the handled
  directories' generated files changed;
* either the pass handled every directory and completed, with a summary that lists the written
  files, the removed files and the skipped packages of the outcomes in order, counts the files
  left as they were, and is kept for the next pass; or the handling of the next directory
  failed, and the pass failed with that failure and kept the previous summary. -/
def PassAccount (g : Generator) (t : Tree) (cwd : String) (log : Report.Log) (out : PassOutcome) :
    Prop :=
  (∃ e, scanDirectories t g.config.tags cwd g.config.directories = .error e ∧
      out.result = .error (scanFailure g.config.directories e) ∧ out.tree = t ∧
      out.generator.summary = g.summary) ∨
    ∃ dirs, scanDirectories t g.config.tags cwd g.config.directories = .ok dirs ∧
      (dirs.map (generatedAt t cwd g.config)).Nodup ∧
      ∃ k outs start final, start.tree = t ∧ start.discoverer = (g.discoverer.beginPass log).2.1 ∧
        Handles g cwd start (dirs.take k) outs final ∧
        (∀ d o, (d, o) ∈ (dirs.take k).zip outs →
          o.Fits (t.fileAt (generatedAt t cwd g.config d)) (t.exists? (generatedAt t cwd g.config d)) ∧
            out.tree.fileAt (generatedAt t cwd g.config d) =
              o.fileAfter (t.fileAt (generatedAt t cwd g.config d))) ∧
        (∀ d ∈ dirs.drop k, ¬ Changed t out.tree (generatedAt t cwd g.config d)) ∧
        Within (GeneratedIn t cwd (withFileName g.config.output) (dirs.take k)) t out.tree ∧
        ((k = dirs.length ∧ out.result = .ok final.summary ∧ out.generator.summary = final.summary ∧
            final.summary.generatedFiles =
              (dirs.zip outs).flatMap (fun p => p.2.generatedFiles (generatedPath g.config p.1)) ∧
            final.summary.removedFiles =
              (dirs.zip outs).flatMap (fun p => p.2.removedFiles (generatedPath g.config p.1)) ∧
            final.summary.filesUnchanged = outs.countP FileOutcome.isUnchanged ∧
            final.summary.skippedPackages = outs.flatMap FileOutcome.skippedPackages) ∨
          ∃ dir e s', dirs[k]? = some dir ∧ (processPackage g cwd dir).run.run final = (.error e, s') ∧
            out.result = .error e ∧ out.tree = final.tree ∧ out.generator.summary = g.summary)

/-- **A pass accounts for every directory its scan finds.** With settings that pass validation
and an output name without a slash, run from a rooted working directory over a tree with a
rooted root, a pass does what `PassAccount` says. -/
theorem pass_accounts_for_each_directory (g : Generator) (valid : g.config.validate = .ok ())
    (plain : '/' ∉ g.config.output.toList) (t : Tree) (rootedTree : isRooted t.root = true)
    (cwd : String) (rootedCwd : isRooted cwd = true) (passId : String) (log : Report.Log) :
    PassAccount g t cwd log (g.runPass t cwd passId log) := by
  unfold Generator.runPass
  dsimp only
  split
  rename_i result st ran
  rcases passSteps_ends ran with ⟨e, scanned, failed, kept⟩ | ⟨dirs, scanned, s₀, files, cache, ends⟩
  · subst failed
    exact .inl ⟨e, scanned, rfl, kept, rfl⟩
  obtain ⟨-, distinct⟩ := scanned_generated_distinct valid plain rootedCwd rootedTree scanned
  simp only [PassState.files, Prod.mk.injEq] at files
  obtain ⟨tree, generated, removed, unchanged, skipped⟩ := files
  refine .inr ⟨dirs, scanned, distinct, ?_⟩
  rw [← tree] at distinct
  cases result with
  | ok _ =>
    -- the loop handled every directory and the pass completed
    obtain ⟨outs, handles⟩ := ends
    obtain ⟨writes, removals, unchanges, skips⟩ := handles.summary
    replace handles : Handles g cwd s₀ (dirs.take dirs.length) outs st := by
      rwa [List.take_length]
    obtain ⟨accounts, untouched, within⟩ := handles.prefix_accounts distinct
    rw [tree] at accounts untouched within
    refine ⟨dirs.length, outs, s₀, st, tree, cache, handles, accounts, untouched, within,
      .inl ⟨rfl, rfl, rfl, ?_, ?_, ?_, ?_⟩⟩
    · rw [writes, generated]
      rfl
    · rw [removals, removed]
      rfl
    · rw [unchanges, unchanged]
      exact Nat.zero_add _
    · rw [skips, skipped]
      rfl
  | error e =>
    -- the loop stopped at a directory whose handling failed and left the tree
    obtain ⟨k, outs, sk, dir, found, handles, failed, kept⟩ := ends
    obtain ⟨accounts, untouched, within⟩ := handles.prefix_accounts distinct
    rw [tree, ← kept] at accounts untouched within
    exact ⟨k, outs, s₀, sk, tree, cache, handles, accounts, untouched, within,
      .inr ⟨dir, e, st, found, failed, rfl, kept, rfl⟩⟩

/-- A pass over the package directory `./a` of the module `example.com/m`, whose file marks a
type for wrapping, from the module's root `/r`: the scan finds `/r/a`, and the pass accounts
for it. -/
theorem default_pass_accounts_for_each_directory :
    let t : Tree := { root := "/r", files := [("/r/go.mod", "module example.com/m\n\ngo 1.22\n"),
      ("/r/a/a.go", "package a\n\n//mockable::static\ntype T struct\x7b\x7d\n\n" ++
        "func NewT() T \x7b\n\treturn T\x7b\x7d\n\x7d\n")] }
    Config.validate { directories := ["./a"] } = .ok () ∧
      '/' ∉ ({ directories := ["./a"] } : Config).output.toList ∧ isRooted "/r" = true ∧
      scannedDirs t { directories := ["./a"] } "/r" = ["/r/a"] ∧
      PassAccount { config := { directories := ["./a"] } } t "/r" { level := .info }
        (({ config := { directories := ["./a"] } } : Generator).runPass t "/r" "" { level := .info }) := by
  intro t
  exact ⟨rfl, by decide, rfl, by decide +kernel,
    pass_accounts_for_each_directory { config := { directories := ["./a"] } } rfl (by decide) t
      (by decide) "/r" rfl "" { level := .info }⟩

/-- Validation reads only the ends of the output name, so with `autogen_/../../autogen_x.go`
the two package directories `/r/a` and `/r/b` that a scan finds share the generated file
`/r/autogen_x.go`: a pass writes the file of `a`, then overwrites it with the file of `b`. -/
theorem escaping_output_shares_generated_file :
    Config.validate { directories := ["./a", "./b"], output := "autogen_/../../autogen_x.go" } =
        .ok () ∧
      scannedDirs { root := "/r", files := [("/r/a/a.go", "package a\n"), ("/r/b/b.go", "package b\n")] }
          { directories := ["./a", "./b"], output := "autogen_/../../autogen_x.go" } "/r" =
        ["/r/a", "/r/b"] ∧
      generatedAt { root := "/r", files := [("/r/a/a.go", "package a\n"), ("/r/b/b.go", "package b\n")] }
          "/r" { directories := ["./a", "./b"], output := "autogen_/../../autogen_x.go" } "/r/a" =
        "/r/autogen_x.go" ∧
      generatedAt { root := "/r", files := [("/r/a/a.go", "package a\n"), ("/r/b/b.go", "package b\n")] }
          "/r" { directories := ["./a", "./b"], output := "autogen_/../../autogen_x.go" } "/r/b" =
        "/r/autogen_x.go" :=
  ⟨rfl, by decide +kernel, by decide +kernel, by decide +kernel⟩

end StaticWrap.Run
