import StaticWrap.Disk.Tree
import StaticWrap.Proofs.Text.Paths
/-!
**What a change to a tree leaves alone.**

`Tree.Within A t u`: the tree `u` differs from `t` only at the clean paths of `A`. Everywhere
else it has the same files and the same directories, and nowhere has it a directory that `t`
lacks. The relation is reflexive and transitive, so the steps of a run compose.

* `mem_parentDirs`: the directories a path lies in are the non-empty paths it lies below.
* `within_write`: writing a file whose directories are all there changes nothing else.
* `within_remove`, `within_unlink`: removing a file, or an empty directory, changes nothing
  else; in particular the directories it lay in stay.
* `Within.changed`: a path whose file or directory changed lies in the set.
-/

namespace StaticWrap.Disk

open StaticWrap.Text

/-! ### Paths below directories -/

theorem isBelow_iff {d p : String} :
    isBelow d p = true ↔ ∃ r, p.toList = d.toList ++ '/' :: r := by
  simp [isBelow, hasPrefix_iff, String.toList_append, show "/".toList = ['/'] from rfl]

theorem mem_slashPrefixes {seen l x : List Char} (mem : x ∈ slashPrefixes seen l) :
    x ≠ [] ∧ ∃ r, seen.reverse ++ l = x ++ '/' :: r := by
  induction l generalizing seen with
  | nil => simp [slashPrefixes] at mem
  | cons c rest ih =>
    simp only [slashPrefixes, List.mem_append] at mem
    rcases mem with here | later
    · split at here
      · rename_i cond
        simp only [Bool.and_eq_true, decide_eq_true_eq, Bool.not_eq_true',
          List.isEmpty_eq_false_iff] at cond
        simp only [List.mem_singleton] at here
        subst here
        exact ⟨by simpa using cond.2, rest, by simp [cond.1]⟩
      · simp at here
    · obtain ⟨nonempty, r, eq⟩ := ih later
      exact ⟨nonempty, r, by simpa using eq⟩

theorem mem_slashPrefixes_of (seen l₁ r : List Char) (nonempty : seen.reverse ++ l₁ ≠ []) :
    seen.reverse ++ l₁ ∈ slashPrefixes seen (l₁ ++ '/' :: r) := by
  induction l₁ generalizing seen with
  | nil =>
    have : seen ≠ [] := by simpa using nonempty
    simp [slashPrefixes, this]
  | cons c l₁ ih =>
    simp only [List.cons_append, slashPrefixes, List.mem_append]
    right
    simpa using ih (c :: seen) (by simp)

/-- The directories a path lies in are the non-empty paths it lies below. -/
@[simp] theorem mem_parentDirs {a p : String} : a ∈ parentDirs p ↔ a ≠ "" ∧ isBelow a p = true := by
  constructor
  · intro mem
    obtain ⟨x, hx, rfl⟩ := List.mem_map.1 mem
    obtain ⟨nonempty, r, eq⟩ := mem_slashPrefixes hx
    exact ⟨by simpa [← String.toList_inj] using nonempty,
      isBelow_iff.2 ⟨r, by simpa using eq⟩⟩
  · rintro ⟨nonempty, below⟩
    obtain ⟨r, eq⟩ := isBelow_iff.1 below
    refine List.mem_map.2 ⟨a.toList, ?_, by simp⟩
    rw [eq]
    have chars : a.toList ≠ [] := fun h => nonempty (String.toList_inj.1 (by simpa using h))
    simpa using mem_slashPrefixes_of [] a.toList r (by simpa using chars)

theorem isBelow_trans {a b c : String} (ab : isBelow a b = true) (bc : isBelow b c = true) :
    isBelow a c = true := by
  obtain ⟨r, hb⟩ := isBelow_iff.1 ab
  obtain ⟨s, hc⟩ := isBelow_iff.1 bc
  exact isBelow_iff.2 ⟨r ++ '/' :: s, by simp [hc, hb]⟩

namespace Tree

/-! ### Files and directories of a tree -/

/-- The content of the file at a path. -/
def fileAt (t : Tree) (p : String) : Option String :=
  (t.files.find? (·.1 == cleanPath p)).map (·.2)

/-- A clean path is a directory exactly when it is the root or above it, an explicit directory or
above one, or above a file. -/
theorem hasDir_iff {t : Tree} {q : String} :
    t.hasDir q = true ↔ q = t.root ∨ isBelow q t.root = true ∨
      (∃ d ∈ t.dirs, d = q ∨ isBelow q d = true) ∨
      ∃ f ∈ t.files, isBelow q f.1 = true := by
  simp [hasDir, isBelow, or_assoc]

/-- Directories lie above their files: every directory a file lies in is there. -/
theorem hasDir_of_parent {t : Tree} {f : String × String} (mem : f ∈ t.files) {a : String}
    (parent : a ∈ parentDirs f.1) : t.hasDir a = true :=
  hasDir_iff.2 (.inr (.inr (.inr ⟨f, mem, (mem_parentDirs.1 parent).2⟩)))

theorem find?_write_of_ne {files : List (String × String)} {c k content : String} (ne : k ≠ c) :
    (files.map fun f => if f.1 == c then (c, content) else f).find? (·.1 == k) =
      files.find? (·.1 == k) := by
  induction files with
  | nil => rfl
  | cons f fs ih =>
    rw [List.map_cons, List.find?_cons, List.find?_cons, ih]
    by_cases hf : f.1 = c
    · have other : (c == k) = false := by simp [Ne.symm ne]
      simp [hf, other]
    · simp [hf]

/-- Writing a file changes no other file. -/
theorem fileAt_write {t : Tree} {p q content : String} (ne : cleanPath q ≠ cleanPath p) :
    (t.write p content).fileAt q = t.fileAt q := by
  unfold write
  dsimp only
  split
  · simp only [fileAt, find?_write_of_ne ne]
  · simp [fileAt, List.find?_append, Ne.symm ne]

/-- Writing a file whose directories are all there makes no directory. -/
theorem hasDir_write {t : Tree} {p content q : String}
    (parents : ∀ a ∈ parentDirs (cleanPath p), t.hasDir a = true) (nonempty : q ≠ "") :
    (t.write p content).hasDir q = t.hasDir q := by
  unfold write
  dsimp only
  split
  · simp only [hasDir, List.any_map]
    congr 2
    funext f
    by_cases hf : f.1 = cleanPath p <;> simp [hf]
  · apply Bool.eq_iff_iff.2
    rw [hasDir_iff, hasDir_iff]
    simp only [List.mem_append, List.mem_singleton]
    constructor
    · rintro (root | above | dir | ⟨f, old | rfl, below⟩)
      · exact .inl root
      · exact .inr (.inl above)
      · exact .inr (.inr (.inl dir))
      · exact .inr (.inr (.inr ⟨f, old, below⟩))
      · exact hasDir_iff.1 (parents q (mem_parentDirs.2 ⟨nonempty, below⟩))
    · rintro (root | above | dir | ⟨f, old, below⟩)
      · exact .inl root
      · exact .inr (.inl above)
      · exact .inr (.inr (.inl dir))
      · exact .inr (.inr (.inr ⟨f, .inl old, below⟩))

/-- Removing a file changes no other file. -/
theorem fileAt_remove {t : Tree} {p q : String} (ne : cleanPath q ≠ cleanPath p) :
    (t.remove p).fileAt q = t.fileAt q := by
  unfold remove
  dsimp only
  split
  · simp only [fileAt, List.find?_filter]
    congr 2
    funext f
    by_cases hf : f.1 = cleanPath q
    · simp [hf, ne]
    · simp [hf]
  · rfl

/-- Removing a file keeps every directory, the ones it lay in included. -/
theorem hasDir_remove {t : Tree} {p q : String} (nonempty : q ≠ "") :
    (t.remove p).hasDir q = t.hasDir q := by
  unfold remove
  dsimp only
  split
  · rename_i present
    obtain ⟨f, mem, named⟩ := List.any_eq_true.1 present
    simp only [beq_iff_eq] at named
    apply Bool.eq_iff_iff.2
    rw [hasDir_iff, hasDir_iff]
    simp only [List.mem_append, List.mem_filter, bne_iff_ne, ne_eq]
    constructor
    · rintro (root | above | ⟨d, dir | parent, eq⟩ | ⟨g, ⟨old, _⟩, below⟩)
      · exact .inl root
      · exact .inr (.inl above)
      · exact .inr (.inr (.inl ⟨d, dir, eq⟩))
      · refine .inr (.inr (.inr ⟨f, mem, ?_⟩))
        have inParent := (mem_parentDirs.1 parent).2
        rw [named]
        rcases eq with rfl | below
        · exact inParent
        · exact isBelow_trans below inParent
      · exact .inr (.inr (.inr ⟨g, old, below⟩))
    · rintro (root | above | ⟨d, dir, eq⟩ | ⟨g, old, below⟩)
      · exact .inl root
      · exact .inr (.inl above)
      · exact .inr (.inr (.inl ⟨d, .inl dir, eq⟩))
      · by_cases gone : g.1 = cleanPath p
        · have parent := mem_parentDirs.2 ⟨nonempty, gone ▸ below⟩
          exact .inr (.inr (.inl ⟨q, .inr parent, .inl rfl⟩))
        · exact .inr (.inr (.inr ⟨g, ⟨old, gone⟩, below⟩))
  · rfl

/-! ### Changes confined to a set of paths -/

/-- Directories are closed upwards: a path above a directory is a directory. -/
theorem hasDir_of_isBelow {t : Tree} {q c : String} (dir : t.hasDir c = true)
    (below : isBelow q c = true) : t.hasDir q = true := by
  rw [hasDir_iff] at dir ⊢
  rcases dir with rfl | above | ⟨d, mem, rfl | inside⟩ | ⟨f, mem, inside⟩
  · exact .inr (.inl below)
  · exact .inr (.inl (isBelow_trans below above))
  · exact .inr (.inr (.inl ⟨_, mem, .inr below⟩))
  · exact .inr (.inr (.inl ⟨d, mem, .inr (isBelow_trans below inside)⟩))
  · exact .inr (.inr (.inr ⟨f, mem, isBelow_trans below inside⟩))

/-- `u` differs from `t` only at the clean paths of `A`: elsewhere it has the same files and the
same directories, and nowhere has it a directory that `t` lacks. -/
structure Within (A : String → Prop) (t u : Tree) : Prop where
  root : u.root = t.root
  agree : ∀ p, ¬ A (cleanPath p) → u.fileAt p = t.fileAt p ∧ u.isDir p = t.isDir p
  noNewDir : ∀ p, u.isDir p = true → t.isDir p = true

theorem Within.refl (A : String → Prop) (t : Tree) : Within A t t :=
  ⟨rfl, fun _ _ => ⟨rfl, rfl⟩, fun _ h => h⟩

theorem Within.trans {A : String → Prop} {t u v : Tree} (first : Within A t u)
    (second : Within A u v) : Within A t v := by
  refine ⟨second.root.trans first.root, fun p outside => ?_,
    fun p dir => first.noNewDir p (second.noNewDir p dir)⟩
  obtain ⟨file₁, dir₁⟩ := first.agree p outside
  obtain ⟨file₂, dir₂⟩ := second.agree p outside
  exact ⟨file₂.trans file₁, dir₂.trans dir₁⟩

theorem Within.mono {A B : String → Prop} {t u : Tree} (within : Within A t u)
    (sub : ∀ c, A c → B c) : Within B t u :=
  ⟨within.root, fun p outside => within.agree p (fun inA => outside (sub _ inA)),
    within.noNewDir⟩

/-- The file or the directory at the path differs between the trees. -/
def Changed (t u : Tree) (p : String) : Prop := u.fileAt p ≠ t.fileAt p ∨ u.isDir p ≠ t.isDir p

/-- A path that changed lies in the set the change was confined to. -/
theorem Within.changed {A : String → Prop} {t u : Tree} (within : Within A t u) {p : String}
    (changed : Changed t u p) : A (cleanPath p) :=
  Classical.byContradiction fun outside => by
    obtain ⟨file, dir⟩ := within.agree p outside
    rcases changed with other | other <;> contradiction

theorem root_write (t : Tree) (p content : String) : (t.write p content).root = t.root := by
  unfold write; dsimp only; split <;> rfl

theorem root_remove (t : Tree) (p : String) : (t.remove p).root = t.root := by
  unfold remove; dsimp only; split <;> rfl

/-- Writing a file whose directories are all there changes nothing else. -/
theorem within_write {t : Tree} {p content : String}
    (parents : ∀ a ∈ parentDirs (cleanPath p), t.hasDir a = true) :
    Within (· = cleanPath p) t (t.write p content) := by
  have dirs : ∀ q, (t.write p content).isDir q = t.isDir q := fun q =>
    hasDir_write parents (cleanPath_ne_empty q)
  exact ⟨root_write t p content, fun q outside => ⟨fileAt_write outside, dirs q⟩,
    fun q dir => (dirs q) ▸ dir⟩

/-- Removing a file changes nothing else. -/
theorem within_remove (t : Tree) (p : String) : Within (· = cleanPath p) t (t.remove p) := by
  have dirs : ∀ q, (t.remove p).isDir q = t.isDir q := fun q =>
    hasDir_remove (cleanPath_ne_empty q)
  exact ⟨root_remove t p, fun q outside => ⟨fileAt_remove outside, dirs q⟩,
    fun q dir => (dirs q) ▸ dir⟩

/-- Removing a file or an empty directory changes nothing else. -/
theorem within_unlink {t u : Tree} {p : String} (unlinked : t.unlink p = .ok u) :
    Within (· = cleanPath p) t u := by
  unfold unlink at unlinked
  dsimp only at unlinked
  split at unlinked
  · cases unlinked
    simpa using within_remove t (cleanPath p)
  split at unlinked
  · cases unlinked
  split at unlinked
  · cases unlinked
  rename_i _ present empty
  cases unlinked
  have wasDir : t.hasDir (cleanPath p) = true := by
    simpa [isDir] using present
  have same : ∀ q, q ≠ "" → q ≠ cleanPath p →
      hasDir { t with dirs := t.dirs.filter (· != cleanPath p) ++ parentDirs (cleanPath p) } q =
        t.hasDir q := by
    intro q nonempty ne
    apply Bool.eq_iff_iff.2
    rw [hasDir_iff, hasDir_iff]
    simp only [List.mem_append, List.mem_filter, bne_iff_ne, ne_eq]
    constructor
    · rintro (root | above | ⟨d, ⟨dir, _⟩ | parent, eq⟩ | file)
      · exact .inl root
      · exact .inr (.inl above)
      · exact .inr (.inr (.inl ⟨d, dir, eq⟩))
      · have inParent := (mem_parentDirs.1 parent).2
        have below : isBelow q (cleanPath p) = true := by
          rcases eq with rfl | above
          · exact inParent
          · exact isBelow_trans above inParent
        exact hasDir_iff.1 (hasDir_of_isBelow wasDir below)
      · exact .inr (.inr (.inr file))
    · rintro (root | above | ⟨d, dir, eq⟩ | file)
      · exact .inl root
      · exact .inr (.inl above)
      · by_cases gone : d = cleanPath p
        · subst gone
          rcases eq with rfl | below
          · exact absurd rfl ne
          · have parent := mem_parentDirs.2 ⟨nonempty, below⟩
            exact .inr (.inr (.inl ⟨q, .inr parent, .inl rfl⟩))
        · exact .inr (.inr (.inl ⟨d, .inl ⟨dir, gone⟩, eq⟩))
      · exact .inr (.inr (.inr file))
  refine ⟨rfl, fun q outside => ⟨rfl, same _ (cleanPath_ne_empty q) outside⟩,
    fun q dir => ?_⟩
  by_cases at_ : cleanPath q = cleanPath p
  · simpa [isDir, at_] using wasDir
  · simpa [isDir, same _ (cleanPath_ne_empty q) at_] using dir

end Tree

end StaticWrap.Disk
