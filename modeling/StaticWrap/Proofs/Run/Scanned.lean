import StaticWrap.Proofs.Run.Footprint
import Mathlib.Data.List.Nodup
/-!
**The directories a scan finds, and their generated files.**

A pass keeps one generated file per package directory its scan finds: the output name in
that directory. When the working directory and the tree's root are rooted paths, as a system
gives them, every directory a scan finds is a rooted, clean path, and it finds each at most
once. An output name that is a plain element then puts the generated files of different
directories at different paths:

* `cleanPath_eq_of_append_element`: two rooted directories whose paths with the same element
  after them clean to one path are the same directory once cleaned;
* `scanDirectories_dirPaths`: a scan that succeeds finds distinct rooted, clean paths;
* `scanned_generated_distinct`: with settings that pass validation and an output name without
  a slash, the generated files of the directories a scan finds are pairwise distinct.
-/

namespace StaticWrap.Text

/-! ### Rooted paths -/

theorem isEmpty_of_isRooted {p : String} (rooted : isRooted p = true) : p.isEmpty = false := by
  cases empty : p.isEmpty
  · rfl
  · rw [String.isEmpty_iff.1 empty] at rooted
    exact absurd rooted (by decide)

theorem isRooted_append {p : String} (rooted : isRooted p = true) (q : String) :
    isRooted (p ++ q) = true := by
  obtain ⟨c, cs, chars⟩ : ∃ c cs, p.toList = c :: cs := by
    cases h : p.toList with
    | nil => simp [isRooted, h] at rooted
    | cons c cs => exact ⟨c, cs, rfl⟩
  simp_all [isRooted, String.toList_append]

/-- A rooted path cleans to a slash and its clean elements. -/
theorem cleanPath_rooted {p : String} (rooted : isRooted p = true) :
    cleanPath p = "/" ++ "/".intercalate (cleanElements true [] (splitOn p "/")) := by
  simp [cleanPath, isEmpty_of_isRooted rooted, rooted]

theorem isRooted_cleanPath {p : String} (rooted : isRooted p = true) :
    isRooted (cleanPath p) = true := by
  rw [cleanPath_rooted rooted]
  exact isRooted_slash _

/-- A rooted path with an element after it cleans to the path's clean elements and the element. -/
theorem cleanPath_rooted_append {x name : String} (rooted : isRooted x = true)
    (element : IsElement name) (notUp : name ≠ "..") :
    cleanPath (x ++ "/" ++ name) =
      "/" ++ "/".intercalate (cleanElements true [] (splitOn x "/") ++ [name]) := by
  rw [cleanPath_rooted (isRooted_append (isRooted_append rooted _) _),
    splitOn_append_element x name element, cleanElements_snoc _ _ _ name element notUp]

/-- **Two rooted directories with one element after them name one path only if they are one
directory.** -/
theorem cleanPath_eq_of_append_element {x y name : String} (rootedX : isRooted x = true)
    (rootedY : isRooted y = true) (element : IsElement name) (notUp : name ≠ "..")
    (same : cleanPath (x ++ "/" ++ name) = cleanPath (y ++ "/" ++ name)) :
    cleanPath x = cleanPath y := by
  rw [cleanPath_rooted_append rootedX element notUp,
    cleanPath_rooted_append rootedY element notUp] at same
  have noSlash : ∀ z : String, ∀ e ∈ cleanElements true [] (splitOn z "/") ++ [name],
      '/' ∉ e.toList := by
    intro z
    have clean := (cleanElements_clean true [] _ (splitOn_slash_no_slash z)
      (CleanElements.nil _)).snoc element notUp
    exact fun e mem => (clean.elements e mem).2.2
  -- the elements can be read back from the joined text, so the two lists agree
  have elements := splitOn_intercalate _ (by simp) (noSlash x)
  rw [(String.append_right_inj _).1 same, splitOn_intercalate _ (by simp) (noSlash y)] at elements
  rw [cleanPath_rooted rootedX, cleanPath_rooted rootedY, List.append_cancel_right elements.symm]

end StaticWrap.Text

namespace StaticWrap.Run

open StaticWrap.Disk StaticWrap.Text
open StaticWrap.Generate (withFileName)

/-! ### Directory paths -/

/-- A directory as a scan names it: a rooted, clean path. -/
structure DirPath (d : String) : Prop where
  rooted : isRooted d = true
  clean : cleanPath d = d

theorem dirPath_cleanPath {p : String} (rooted : isRooted p = true) : DirPath (cleanPath p) :=
  ⟨isRooted_cleanPath rooted, cleanPath_cleanPath p⟩

/-- Read from a rooted working directory in a tree with a rooted root, every path is a rooted,
clean path. -/
theorem dirPath_absolute {t : Tree} {cwd : String} (rootedCwd : isRooted cwd = true)
    (rootedTree : isRooted t.root = true) (p : String) : DirPath (t.absolute cwd p) := by
  unfold Tree.absolute Tree.isAbsolute
  split
  · rename_i absolute
    refine dirPath_cleanPath ?_
    simp only [Bool.or_eq_true, beq_iff_eq] at absolute
    rcases absolute with (rooted | rfl) | below
    · exact rooted
    · exact rootedTree
    · -- a path below the root starts as the root does
      obtain ⟨r, chars⟩ := hasPrefix_iff.1 below
      have split : p = t.root ++ ("/" ++ String.ofList r) := by
        apply String.toList_inj.1
        simp [chars, String.toList_append]
      rw [split]
      exact isRooted_append rootedTree _
  · exact dirPath_cleanPath (isRooted_append (isRooted_append rootedCwd _) _)

theorem DirPath.joinPath {d : String} (dir : DirPath d) (name : String) :
    DirPath (joinPath [d, name]) := by
  have nonempty := isEmpty_of_isRooted dir.rooted
  unfold Text.joinPath
  by_cases empty : name.isEmpty
  · simp only [List.filter_cons, nonempty, empty]
    simpa [dir.clean] using dirPath_cleanPath dir.rooted
  · simp only [List.filter_cons, nonempty, empty]
    simpa using dirPath_cleanPath (isRooted_append (isRooted_append dir.rooted "/") name)

/-! ### What a scan finds -/

/-- An invariant of each step of a fold that may fail holds of its result. -/
theorem foldlM_invariant {α β ε : Type} {f : β → α → Except ε β} (inv : β → Prop)
    (step : ∀ b a b', inv b → f b a = .ok b' → inv b') :
    ∀ (l : List α) {b r : β}, inv b → l.foldlM f b = .ok r → inv r
  | [], _, _, holds, ok => by
    cases ok
    exact holds
  | a :: l, b, _, holds, ok => by
    rw [List.foldlM_cons] at ok
    rcases first : f b a with e | b'
    · rw [first] at ok
      cases ok
    · rw [first] at ok
      exact foldlM_invariant inv step l (step b a b' holds first) ok

/-- A walk from a directory path finds only directory paths. -/
theorem scanTree_dirPath {t : Tree} {tags : List String} :
    ∀ (fuel : Nat) {dir : String} {found : List String}, DirPath dir →
      scanTree t tags fuel dir = .ok found → ∀ d ∈ found, DirPath d
  | 0, _, _, _, ok => by
    cases ok
    simp
  | fuel + 1, dir, found, here, ok => by
    simp only [scanTree] at ok
    split at ok <;> split at ok <;> simp only [bind, Except.bind, pure, Except.pure] at ok
    · split at ok
      · cases ok
      rename_i below listed
      cases ok
      intro d mem
      rcases List.mem_append.1 mem with self | deeper
      · split at self
        · exact List.mem_singleton.1 self ▸ here
        · cases self
      · -- a directory found deeper was found from one of the entries
        obtain ⟨l, walked, inside⟩ := List.mem_flatten.1 deeper
        obtain ⟨e, -, scanned⟩ := mapM_ok_mem listed l walked
        exact scanTree_dirPath fuel (here.joinPath e.name) scanned d inside
    all_goals cases ok

theorem addNew_nodup {seen : List String} (nodup : seen.Nodup) (found : List String) :
    (addNew seen found).Nodup := by
  induction found generalizing seen with
  | nil => exact nodup
  | cons d ds ih =>
    unfold addNew
    rw [List.foldl_cons]
    apply ih
    split
    · exact nodup
    · rename_i fresh
      have fresh : d ∉ seen := by simpa using fresh
      refine List.nodup_append.2 ⟨nodup, by simp, fun a old b new => ?_⟩
      rw [List.mem_singleton.1 new]
      exact fun same => fresh (same ▸ old)

theorem mem_addNew {seen found : List String} {d : String} (mem : d ∈ addNew seen found) :
    d ∈ seen ∨ d ∈ found := by
  induction found generalizing seen with
  | nil => exact .inl mem
  | cons x xs ih =>
    unfold addNew at mem
    rw [List.foldl_cons] at mem
    rcases ih mem with old | later
    · split at old
      · exact .inl old
      · rcases List.mem_append.1 old with old | new
        · exact .inl old
        · exact .inr (List.mem_singleton.1 new ▸ List.mem_cons_self)
    · exact .inr (List.mem_cons_of_mem _ later)

/-- The directories found so far: each once, each a directory path. -/
def FoundDirs (dirs : List String) : Prop := dirs.Nodup ∧ ∀ d ∈ dirs, DirPath d

theorem FoundDirs.addNew {seen found : List String} (sofar : FoundDirs seen)
    (paths : ∀ d ∈ found, DirPath d) : FoundDirs (addNew seen found) :=
  ⟨addNew_nodup sofar.1 found, fun d mem => (mem_addNew mem).elim (sofar.2 d) (paths d)⟩

/-- **A scan finds distinct directory paths.** -/
theorem scanDirectories_dirPaths {t : Tree} {tags : List String} {cwd : String}
    (rootedCwd : isRooted cwd = true) (rootedTree : isRooted t.root = true)
    {args dirs : List String} (ok : scanDirectories t tags cwd args = .ok dirs) :
    FoundDirs dirs := by
  unfold scanDirectories at ok
  refine foldlM_invariant FoundDirs ?_ args ⟨List.nodup_nil, by simp⟩ ok
  intro acc arg acc' sofar step
  have root := dirPath_absolute rootedCwd rootedTree (splitPattern arg).1 (t := t)
  dsimp only at step
  split at step
  · simp only [bind, Except.bind] at step
    split at step
    · cases step
    · rename_i found scanned
      cases step
      exact sofar.addNew (scanTree_dirPath _ root scanned)
  · split at step
    · cases step
    · cases step
      exact sofar.addNew (by simpa using root)
    · cases step
      exact sofar

/-! ### Generated files -/

/-- The generated file of a package directory, as a pass names it. -/
def generatedPath (c : Config) (dir : String) : String := joinPath [dir, withFileName c.output]

/-- The generated file of a directory path is the output name below it. -/
theorem absolute_generatedPath {t : Tree} {cwd d : String} {c : Config} (dir : DirPath d) :
    t.absolute cwd (generatedPath c d) = cleanPath (d ++ "/" ++ withFileName c.output) := by
  have joined : generatedPath c d = cleanPath (d ++ "/" ++ withFileName c.output) := by
    have both : [d, withFileName c.output].filter (!·.isEmpty) = [d, withFileName c.output] := by
      simp [isEmpty_of_isRooted dir.rooted]
    simp [generatedPath, Text.joinPath, both]
  have rooted :=
    isRooted_cleanPath (isRooted_append (isRooted_append dir.rooted "/") (withFileName c.output))
  rw [joined]
  simp [Tree.absolute, Tree.isAbsolute, rooted]

/-- **The directories a scan finds keep their generated files apart.** With settings that pass
validation and an output name without a slash, read from a rooted working directory in a tree
with a rooted root, no two directories of a scan share a generated file. -/
theorem scanned_generated_distinct {c : Config} (valid : c.validate = .ok ())
    (plain : '/' ∉ c.output.toList) {t : Tree} {cwd : String} (rootedCwd : isRooted cwd = true)
    (rootedTree : isRooted t.root = true) {dirs : List String}
    (ok : scanDirectories t c.tags cwd c.directories = .ok dirs) :
    dirs.Nodup ∧ (dirs.map fun d => t.absolute cwd (generatedPath c d)).Nodup := by
  obtain ⟨-, element, notUp⟩ := withFileName_generated valid plain
  obtain ⟨nodup, paths⟩ := scanDirectories_dirPaths rootedCwd rootedTree ok
  refine ⟨nodup, List.Nodup.map_on (fun x xmem y ymem same => ?_) nodup⟩
  rw [absolute_generatedPath (paths x xmem), absolute_generatedPath (paths y ymem)] at same
  have eq := cleanPath_eq_of_append_element (paths x xmem).rooted (paths y ymem).rooted element
    notUp same
  rwa [(paths x xmem).clean, (paths y ymem).clean] at eq

end StaticWrap.Run
