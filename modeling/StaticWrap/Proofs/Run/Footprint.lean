import StaticWrap.Proofs.Run.Confined
/-!
**The files a pass and a cleaning touch.**

A pass writes or removes one file per package directory it handles: the generated file,
`dir/<output>`, read from the working directory. A cleaning removes that file from every
directory its arguments name. Nothing else changes, and neither makes a directory.

* `runPass_within`: a pass changes the tree only at the generated files of the directories its
  scan found.
* `cleanGenerated_sound`: a cleaning changes the tree only at the paths it reports as removed,
  each the file of the given name in some directory.
* `pass_and_cleaning_touch_only_generated_files`: with settings that pass validation and an
  output name without a slash, every path a pass or a cleaning changes has a generated base
  name: the prefix `autogen_` and the suffix `.go`, so no package source is touched, and no
  directory appears. Validation alone does not give this (`validate_admits_escaping_output`):
  it reads only the two ends of the name, and a name such as `autogen_/../main.go` puts the
  generated file of a package on one of its sources. With an empty name a cleaning removes the
  directory itself, if it is empty.
-/

namespace StaticWrap.Run

open StaticWrap.Disk StaticWrap.Disk.Tree StaticWrap.Text
open StaticWrap.Generate (withFileName)

/-! ### One file operation -/

/-- Reading paths from a directory depends on a tree only through its root. -/
theorem absolute_congr {t u : Tree} (root : u.root = t.root) : u.absolute = t.absolute := by
  funext cwd p
  unfold Tree.absolute Tree.isAbsolute
  rw [root]

theorem cleanPath_absolute (t : Tree) (cwd p : String) :
    cleanPath (t.absolute cwd p) = t.absolute cwd p := by
  unfold Tree.absolute
  split <;> exact cleanPath_cleanPath _

theorem readFile_ok {t : Tree} {p x : String} (read : t.readFile p = .ok x) :
    ∃ f ∈ t.files, f.1 = cleanPath p := by
  unfold Tree.readFile at read
  dsimp only at read
  split at read
  · rename_i found
    have named := List.find?_some found
    exact ⟨_, List.mem_of_find?_eq_some found, by simpa using named⟩
  · split at read <;> cases read

/-- Removing a generated file changes the tree only at its path: the file, or an empty
directory in its place, goes. -/
theorem removeGenerated_within {t u : Tree} {cwd path : String} {removed : Bool}
    (ok : removeGenerated t cwd path = .ok (removed, u)) :
    Within (· = t.absolute cwd path) t u := by
  unfold removeGenerated at ok
  dsimp only at ok
  split at ok
  · split at ok
    · cases ok
    · cases ok
      exact Within.refl _ _
  · split at ok
    · rename_i unlinked
      cases ok
      simpa [cleanPath_absolute] using within_unlink unlinked
    · cases ok

/-- Writing a file changes the tree only at its path. A write goes through only when every
directory on the way is there, so it makes none. -/
theorem writeIfChanged_within {t u : Tree} {cwd path content : String} {written : Bool}
    (ok : writeIfChanged t cwd path content = .ok (written, u)) :
    Within (· = t.absolute cwd path) t u := by
  unfold writeIfChanged at ok
  dsimp only at ok
  have write : (∀ a ∈ parentDirs (t.absolute cwd path), t.hasDir a = true) →
      Within (· = t.absolute cwd path) t (t.write (t.absolute cwd path) content) := by
    intro parents
    simpa [cleanPath_absolute] using
      @within_write t (t.absolute cwd path) content (by simpa [cleanPath_absolute] using parents)
  split at ok
  · rename_i existing read
    split at ok
    · cases ok
      exact Within.refl _ _
    · cases ok
      -- the file is there, so the directories above it are
      obtain ⟨f, mem, named⟩ := readFile_ok read
      refine write fun a parent => hasDir_of_parent mem ?_
      rwa [named, cleanPath_absolute]
  · split at ok
    · cases ok
    · rename_i missing
      split at ok
      · cases ok
      · cases ok
        refine write fun a parent => ?_
        simpa using List.find?_eq_none.1 missing a parent

/-! ### A pass -/

/-- A generated file goes to the directory of the request, under the name it was given. -/
theorem emit_place {fileName : String} {req : Generate.EmitRequest} {a : Generate.Artifact}
    (ok : Generate.emit fileName req = .ok (some a)) : a.dir = req.dir ∧ a.fileName = fileName := by
  unfold Generate.emit at ok
  dsimp -iota -proj -beta -eta only at ok
  split at ok
  · cases ok
  · split at ok
    split at ok
    · cases ok
    · cases ok
      exact ⟨rfl, rfl⟩

/-- Discovery reports the directory it read. -/
theorem parsePackage_dir {d : Discover.Discoverer} {log : Report.Log} {t : Tree}
    {tags : List String} {resolve : Discover.ExternalResolver} {dir pkgPath : String}
    {found : Discover.Discovery} {rest : Discover.Discoverer × Report.Log}
    (ok : d.parsePackage log t tags resolve dir pkgPath = (.ok found, rest)) : found.dir = dir := by
  unfold Discover.Discoverer.parsePackage at ok
  split at ok
  · cases ok
  · cases ok
    rfl

section Steps

variable {t : Tree} {A : String → Prop}

/-- Bringing a package's file up to date changes the tree only at that file. -/
theorem updatePackage_confined (g : Generator) (cwd : String) (found : Discover.Discovery)
    (target : A (t.absolute cwd (joinPath [found.dir, withFileName g.config.output]))) :
    Confined t A (updatePackage g cwd found) := by
  unfold updatePackage
  refine Confined.bind (Confined.forIn (fun _ _ _ =>
    Confined.bind (reportProblem_confined _ _) fun _ => Confined.pure _) _) fun _ => ?_
  dsimp -iota -proj -beta -eta only
  generalize emitted : Generate.emit (withFileName g.config.output) _ = result
  rcases result with e | _ | artifact
  · exact Confined.throw _
  · -- nothing to generate: a file left from an earlier pass is removed
    refine Confined.get_bind fun st within => ?_
    split
    · exact Confined.throw _
    · rename_i removed tree ok
      have moved := removeGenerated_within ok
      rw [absolute_congr within.root] at moved
      refine Confined.bind (Confined.modify fun _ _ =>
        within.trans (moved.mono fun _ eq => eq ▸ target)) fun _ => ?_
      split
      · exact Confined.bind (note_confined _) fun _ => count_confined _
      · exact Confined.pure _
  · obtain ⟨dir, name⟩ := emit_place emitted
    refine Confined.bind (count_confined _) fun _ => Confined.get_bind fun st within => ?_
    split
    · exact Confined.throw _
    · exact Confined.bind (count_confined _) fun _ => note_confined _
    · rename_i tree ok
      have moved := writeIfChanged_within ok
      rw [absolute_congr within.root] at moved
      have path : artifact.path = joinPath [found.dir, withFileName g.config.output] := by
        simp [Generate.Artifact.path, dir, name]
      refine Confined.bind (Confined.modify fun _ _ =>
        within.trans (moved.mono fun _ eq => eq ▸ path ▸ target)) fun _ => ?_
      exact Confined.bind (note_confined _) fun _ => count_confined _

/-- Handling a package directory changes the tree only at its generated file. -/
theorem processPackage_confined (g : Generator) (cwd dir : String)
    (target : A (t.absolute cwd (joinPath [dir, withFileName g.config.output]))) :
    Confined t A (processPackage g cwd dir) := by
  unfold processPackage
  refine Confined.get_bind fun st _ => ?_
  split
  · exact Confined.throw _
  · refine Confined.bind (note_confined _) fun _ => Confined.get_bind fun st' _ => ?_
    dsimp -iota -proj only
    generalize parsed : st'.discoverer.parsePackage _ _ _ _ _ _ = outcome
    obtain ⟨result, discoverer, log⟩ := outcome
    refine Confined.bind (Confined.modify fun _ within => within) fun _ => ?_
    cases result with
    | error e => exact skipPackage_confined _ _ _ _
    | ok found =>
      have dir := parsePackage_dir parsed
      exact Confined.bind (count_confined _) fun _ =>
        updatePackage_confined g cwd found (dir ▸ target)

end Steps

/-- The directories a pass over a tree handles: those its scan finds, none when it fails. -/
def scannedDirs (t : Tree) (c : Config) (cwd : String) : List String :=
  match scanDirectories t c.tags cwd c.directories with
  | .ok dirs => dirs
  | .error _ => []

/-- The path is the file of that name in one of the directories, read from `cwd`. -/
def GeneratedIn (t : Tree) (cwd name : String) (dirs : List String) (p : String) : Prop :=
  ∃ d ∈ dirs, p = t.absolute cwd (joinPath [d, name])

theorem passSteps_within (g : Generator) (cwd : String) {s : PassState}
    {outcome : Except Failure Unit × PassState} (ran : (passSteps g cwd).run.run s = outcome) :
    Within (GeneratedIn s.tree cwd (withFileName g.config.output) (scannedDirs s.tree g.config cwd))
      s.tree outcome.2.tree := by
  subst ran
  unfold passSteps
  -- the scan reads the tree the pass started from: the log line before it leaves it alone
  rw [run_note_bind, run_get_bind]
  dsimp only
  split
  · exact (Confined.bind (note_confined _) fun _ => Confined.throw _) _ (Within.refl _ _)
  · rename_i dirs scanned
    have scanned : scannedDirs s.tree g.config cwd = dirs := by simp [scannedDirs, scanned]
    have each : ∀ d ∈ dirs, Confined s.tree (GeneratedIn s.tree cwd (withFileName g.config.output)
        (scannedDirs s.tree g.config cwd)) (processPackage g cwd d) := fun d mem =>
      processPackage_confined g cwd d ⟨d, scanned ▸ mem, rfl⟩
    refine (Confined.bind (note_confined _) fun _ => Confined.bind ?_ fun _ => Confined.pure _) _
      (Within.refl _ _)
    exact Confined.forIn (fun d mem _ => Confined.bind (each d mem) fun _ => Confined.pure _) _

/-- **A pass changes only the generated files of the directories its scan found**, whether it
ends normally or with a failure. -/
theorem runPass_within (g : Generator) (t : Tree) (cwd passId : String) (log : Report.Log) :
    Within (GeneratedIn t cwd (withFileName g.config.output) (scannedDirs t g.config cwd)) t
      (g.runPass t cwd passId log).tree := by
  unfold Generator.runPass
  dsimp only
  split
  rename_i ran
  exact passSteps_within g cwd ran

/-! ### A cleaning -/

/-- A cleaning of `t` so far: its tree differs from `t` only at the paths it removed, each the
file of that name in some directory. -/
structure Cleaning.Sound (t : Tree) (cwd fileName : String) (c : Cleaning) : Prop where
  within : Within (fun p => ∃ r ∈ c.removed, p = t.absolute cwd r) t c.tree
  named : ∀ r ∈ c.removed, ∃ d, r = joinPath [d, fileName]

theorem Cleaning.Sound.clean {t : Tree} {cwd fileName : String} {c : Cleaning}
    (sound : c.Sound t cwd fileName) (dir : String) :
    (c.clean cwd fileName dir).Sound t cwd fileName := by
  unfold Cleaning.clean
  split
  · exact sound
  dsimp only
  split
  · rename_i tree ok
    have moved := removeGenerated_within ok
    rw [absolute_congr sound.within.root] at moved
    have grown : ∀ p, (∃ r ∈ c.removed, p = t.absolute cwd r) →
        ∃ r ∈ c.removed ++ [joinPath [dir, fileName]], p = t.absolute cwd r :=
      fun p ⟨r, mem, eq⟩ => ⟨r, List.mem_append_left _ mem, eq⟩
    refine ⟨(sound.within.mono grown).trans (moved.mono fun p eq => ?_), fun r mem => ?_⟩
    · exact ⟨_, List.mem_append_right _ (List.mem_singleton_self _), eq⟩
    · rcases List.mem_append.1 mem with old | new
      · exact sound.named r old
      · exact ⟨dir, List.mem_singleton.1 new⟩
  · exact sound
  · exact ⟨sound.within, sound.named⟩

theorem Cleaning.Sound.foldl {t : Tree} {cwd fileName : String} {c : Cleaning}
    (sound : c.Sound t cwd fileName) (dirs : List String) :
    (dirs.foldl (fun c dir => c.clean cwd fileName dir) c).Sound t cwd fileName := by
  induction dirs generalizing c with
  | nil => exact sound
  | cons dir dirs ih => exact ih (sound.clean dir)

/-- **A cleaning changes only the files it reports as removed.** -/
theorem cleanGenerated_sound (t : Tree) (cwd fileName : String) (args : List String) :
    (cleanGenerated t cwd fileName args).Sound t cwd fileName := by
  unfold cleanGenerated
  have start : ({ tree := t } : Cleaning).Sound t cwd fileName :=
    ⟨Within.refl _ _, fun _ mem => by simp at mem⟩
  -- each argument cleans the directories it names, one after another
  generalize ({ tree := t } : Cleaning) = c at start ⊢
  induction args generalizing c with
  | nil => exact start
  | cons arg args ih => exact ih _ (start.foldl _)

/-! ### Generated names -/

/-- A generated file name: the generated-file prefix and a `.go` suffix. -/
def IsGeneratedName (name : String) : Prop :=
  hasPrefix name generatedPrefix = true ∧ hasSuffix name ".go" = true

instance : DecidablePred IsGeneratedName := fun name =>
  inferInstanceAs (Decidable (hasPrefix name generatedPrefix = true ∧ hasSuffix name ".go" = true))

/-- A generated name is never a package source. -/
theorem IsGeneratedName.not_source {name : String} (generated : IsGeneratedName name) :
    isSourceName name = false := by
  simp [isSourceName, generated.1]

/-- A non-empty output name that passes validation is a generated name. -/
theorem validate_output {c : Config} (valid : c.validate = .ok ()) (nonempty : c.output ≠ "") :
    IsGeneratedName c.output := by
  unfold Config.validate at valid
  split at valid
  · cases valid
  split at valid
  · cases valid
  split at valid
  · cases valid
  split at valid
  · cases valid
  · rename_i checked
    simpa [String.isEmpty_iff, nonempty, IsGeneratedName] using checked

theorem IsGeneratedName.isElement {name : String} (generated : IsGeneratedName name)
    (plain : '/' ∉ name.toList) : IsElement name ∧ name ≠ ".." := by
  have prefixed := generated.1
  refine ⟨⟨?_, ?_, plain⟩, ?_⟩ <;> rintro rfl <;> exact absurd prefixed (by decide)

theorem withFileName_generated {c : Config} (valid : c.validate = .ok ())
    (plain : '/' ∉ c.output.toList) :
    IsGeneratedName (withFileName c.output) ∧ IsElement (withFileName c.output) ∧
      withFileName c.output ≠ ".." := by
  unfold withFileName
  split
  · exact ⟨by decide, ⟨by decide, by decide, by decide⟩, by decide⟩
  · rename_i nonempty
    have generated := validate_output valid (by simpa [String.isEmpty_iff] using nonempty)
    exact ⟨generated, generated.isElement plain⟩

/-- The file of a plain name in a directory, read from anywhere, has that base name. -/
theorem baseName_generated (t : Tree) (cwd d : String) {name : String} (element : IsElement name)
    (notUp : name ≠ "..") : baseName (t.absolute cwd (joinPath [d, name])) = name := by
  have ends := endsIn_joinPath d name element notUp
  unfold Tree.absolute
  split
  · exact (ends.cleanPath element notUp).baseName element
  · exact (ends.below cwd element notUp).baseName element

/-! ### Only generated files -/

/-- **A pass and a cleaning touch only generated files.** With settings that pass validation
and an output name without a slash, a pass changes a path only where it is the generated file
of a directory its scan found, and a cleaning with that name only where it reports a removal;
every such path has a generated base name, and no directory appears. -/
theorem pass_and_cleaning_touch_only_generated_files (c : Config) (valid : c.validate = .ok ())
    (plain : '/' ∉ c.output.toList) :
    (∀ (discoverer : Discover.Discoverer) (t : Tree) (cwd passId : String) (log : Report.Log),
      let u := ({ config := c, discoverer } : Generator).runPass t cwd passId log |>.tree
      (∀ p, Changed t u p → IsGeneratedName (baseName (cleanPath p)) ∧
        ∃ d ∈ scannedDirs t c cwd,
          cleanPath p = t.absolute cwd (joinPath [d, withFileName c.output])) ∧
      ∀ p, u.isDir p = true → t.isDir p = true) ∧
    (c.output ≠ "" → ∀ (t : Tree) (cwd : String) (args : List String),
      let cleaning := cleanGenerated t cwd c.output args
      (∀ p, Changed t cleaning.tree p → IsGeneratedName (baseName (cleanPath p)) ∧
        ∃ r ∈ cleaning.removed, cleanPath p = t.absolute cwd r) ∧
      ∀ p, cleaning.tree.isDir p = true → t.isDir p = true) := by
  obtain ⟨generated, element, notUp⟩ := withFileName_generated valid plain
  refine ⟨fun discoverer t cwd passId log => ?_, fun nonempty t cwd args => ?_⟩
  · have within := runPass_within { config := c, discoverer } t cwd passId log
    refine ⟨fun p changed => ?_, within.noNewDir⟩
    obtain ⟨d, mem, at_⟩ := within.changed changed
    exact ⟨by rw [at_, baseName_generated t cwd d element notUp]; exact generated, d, mem, at_⟩
  · have sound := cleanGenerated_sound t cwd c.output args
    have output := validate_output valid nonempty
    obtain ⟨element, notUp⟩ := output.isElement plain
    refine ⟨fun p changed => ?_, sound.within.noNewDir⟩
    obtain ⟨r, mem, at_⟩ := sound.within.changed changed
    obtain ⟨d, rfl⟩ := sound.named r mem
    exact ⟨by rw [at_, baseName_generated t cwd d element notUp]; exact output, _, mem, at_⟩

/-- The default settings: a cleaning with the default name changes only generated files. -/
theorem default_settings_touch_only_generated_files :
    Config.validate {} = .ok () ∧ '/' ∉ ({} : Config).output.toList ∧ ({} : Config).output ≠ "" ∧
    ∀ (t : Tree) (cwd : String) (args : List String) (p : String),
      Changed t (cleanGenerated t cwd defaultOutput args).tree p →
        IsGeneratedName (baseName (cleanPath p)) :=
  ⟨rfl, by decide, by decide, fun t cwd args p changed =>
    (((pass_and_cleaning_touch_only_generated_files {} rfl (by decide)).2 (by decide) t cwd
      args).1 p changed).1⟩

/-- Validation reads only the ends of the output name: it admits `autogen_/../main.go`, whose
generated file in a package directory is the package's source `main.go`. -/
theorem validate_admits_escaping_output :
    Config.validate { output := "autogen_/../main.go" } = .ok () ∧
    joinPath ["/r/pkg", withFileName "autogen_/../main.go"] = "/r/pkg/main.go" ∧
    isSourceName (baseName "/r/pkg/main.go") = true :=
  ⟨rfl, by decide +kernel, by decide +kernel⟩

end StaticWrap.Run
