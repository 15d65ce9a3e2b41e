import StaticWrap.Proofs.Run.Scanned
import StaticWrap.Run.Clean
/-!
**A clean covers what a scan finds.**

The scan reads each argument's root lexically, from the working directory, and walks the tree
below it; the cleaner looks the root up as it is written, and walks the same tree under the
names the argument spells. Where every root is found as written, the two walks meet:

* `absolute_joinPath`: going down one element commutes with reading a path from the working
  directory, since a path may be cleaned before more is read after it;
* `scanTree_listed`: every directory the scan's walk finds, the cleaner's walk lists, under a
  name the working directory reads as that directory;
* `scanDirectories_eraseDups`: the scan is what its arguments find, one after another, each
  directory kept where it is first found;
* `scanTree_descends`: the scan finds package directories only, reached through directories a
  walk enters and that hold no `go.mod` (`Descends`);
* `clean_covers_scan`: so a clean over the same arguments visits every directory of the scan.

An empty root, or one that goes through a missing directory and back with `..`, is found by the
scan but not by the cleaner (`empty_root_scanned_not_cleaned`).
-/

namespace StaticWrap.Text

/-! ### Cleaning a path read after another -/

section Rebase

theorem splitList_slash_join (acc l m : List Char) :
    splitList ['/'] acc (l ++ '/' :: m) = splitList ['/'] acc l ++ splitList ['/'] [] m := by
  induction l generalizing acc with
  | nil => simp [splitList_slash_cons, splitList_slash_nil]
  | cons c l ih =>
    rw [List.cons_append, splitList_slash_cons, splitList_slash_cons]
    split
    · simp [ih]
    · exact ih _

/-- The elements of two paths joined by a slash are the elements of each. -/
theorem splitOn_slash_join (x y : String) :
    splitOn (x ++ "/" ++ y) "/" = splitOn x "/" ++ splitOn y "/" := by
  simp only [splitOn_slash, String.toList_append, show "/".toList = ['/'] from rfl]
  rw [List.append_assoc, List.singleton_append, splitList_slash_join, List.map_append]

/-- One element read by cleaning, against the elements kept so far (last first). -/
def cleanStep (rooted : Bool) (acc : List String) (e : String) : List String :=
  if e.isEmpty || e == "." then acc
  else if e == ".." then
    match acc with
    | a :: rest => if a == ".." then ".." :: acc else rest
    | [] => if rooted then [] else [".."]
  else e :: acc

/-- Cleaning is a fold of its step. -/
theorem cleanElements_eq_foldl (rooted : Bool) (acc xs : List String) :
    cleanElements rooted acc xs = (xs.foldl (cleanStep rooted) acc).reverse := by
  induction xs generalizing acc with
  | nil => simp [cleanElements]
  | cons x xs ih =>
    rw [List.foldl_cons, ← ih]
    conv_lhs => unfold cleanElements
    unfold cleanStep
    split
    · rfl
    · split
      · cases acc with
        | cons a before =>
          dsimp only
          split <;> rfl
        | nil =>
          dsimp only
          split <;> rfl
      · rfl

/-- Cleaning reads the elements one after another: what it keeps of the first part is where it
starts on the second. -/
theorem cleanElements_append (rooted : Bool) (acc xs ys : List String) :
    cleanElements rooted acc (xs ++ ys) =
      cleanElements rooted (cleanElements rooted acc xs).reverse ys := by
  rw [cleanElements_eq_foldl, cleanElements_eq_foldl, cleanElements_eq_foldl, List.reverse_reverse,
    List.foldl_append]

/-- A relative cleaning keeps no empty and no `.` element. -/
def Unskipped (B : List String) : Prop := ∀ b ∈ B, b ≠ "" ∧ b ≠ "."

theorem Unskipped.step {B : List String} (plain : Unskipped B) (e : String) :
    Unskipped (cleanStep false B e) := by
  by_cases skip : (e.isEmpty || e == ".") = true
  · simpa only [cleanStep, if_pos skip] using plain
  have kept : e ≠ "" ∧ e ≠ "." := by
    simpa only [Bool.or_eq_true, beq_iff_eq, not_or, String.isEmpty_iff] using skip
  by_cases up : (e == "..") = true
  · have upKept : ".." ≠ "" ∧ ".." ≠ "." := ⟨by decide, by decide⟩
    cases B with
    | nil =>
      simp only [cleanStep, if_neg skip, if_pos up, Bool.false_eq_true, if_false]
      simp [Unskipped]
    | cons a rest =>
      by_cases aUp : (a == "..") = true
      · simp only [cleanStep, if_neg skip, if_pos up, if_pos aUp]
        intro b mem
        rcases List.mem_cons.1 mem with rfl | old
        · exact upKept
        · exact plain b old
      · simp only [cleanStep, if_neg skip, if_pos up, if_neg aUp]
        exact fun b mem => plain b (List.mem_cons_of_mem a mem)
  · simp only [cleanStep, if_neg skip, if_neg up]
    intro b mem
    rcases List.mem_cons.1 mem with rfl | old
    · exact kept
    · exact plain b old

/-- One step of a relative cleaning, read afterwards from the root, is the element read from
the root. -/
theorem foldl_rooted_cleanStep (acc B : List String) (plain : Unskipped B) (e : String) :
    (cleanStep false B e).reverse.foldl (cleanStep true) acc =
      (B.reverse ++ [e]).foldl (cleanStep true) acc := by
  rw [List.foldl_append, List.foldl_cons, List.foldl_nil]
  by_cases skip : (e.isEmpty || e == ".") = true
  · simp only [cleanStep, if_pos skip]
  by_cases up : (e == "..") = true
  · have e_up : e = ".." := by simpa using up
    subst e_up
    cases B with
    | nil => simp [cleanStep]
    | cons a rest =>
      by_cases aUp : (a == "..") = true
      · simp only [cleanStep, if_neg skip, if_pos up, if_pos aUp, List.reverse_cons,
          List.foldl_append, List.foldl_cons, List.foldl_nil]
      · -- the element before is dropped again: it was kept and the `..` takes it back
        have aKept : ¬ (a.isEmpty || a == ".") = true := by
          simp only [Bool.or_eq_true, beq_iff_eq, not_or, String.isEmpty_iff]
          exact plain a List.mem_cons_self
        have dropped : cleanStep false (a :: rest) ".." = rest := by
          simp only [cleanStep, if_neg skip, if_pos up, if_neg aUp]
        have kept : ∀ Y, cleanStep true Y a = a :: Y := fun Y => by
          simp only [cleanStep, if_neg aKept, if_neg aUp]
        have back : ∀ Y, cleanStep true (a :: Y) ".." = Y := fun Y => by
          simp only [cleanStep, if_neg skip, if_pos up, if_neg aUp]
        rw [dropped, List.reverse_cons, List.foldl_append, List.foldl_cons, List.foldl_nil, kept, back]
  · have pushed : cleanStep false B e = e :: B := by
      simp only [cleanStep, if_neg skip, if_neg up]
    have read : ∀ Y, cleanStep true Y e = e :: Y := fun Y => by
      simp only [cleanStep, if_neg skip, if_neg up]
    rw [pushed, List.reverse_cons, List.foldl_append, List.foldl_cons, List.foldl_nil, read]

/-- **A relative cleaning changes nothing for a reader from the root.** -/
theorem cleanElements_rooted_relative (acc B xs : List String) (plain : Unskipped B) :
    cleanElements true acc (cleanElements false B xs) = cleanElements true acc (B.reverse ++ xs) := by
  induction xs generalizing B with
  | nil => simp [cleanElements]
  | cons x xs ih =>
    have step : cleanElements false B (x :: xs) = cleanElements false (cleanStep false B x) xs := by
      rw [cleanElements_eq_foldl, cleanElements_eq_foldl, List.foldl_cons]
    rw [step, ih _ (plain.step x), cleanElements_eq_foldl, cleanElements_eq_foldl,
      List.foldl_append, foldl_rooted_cleanStep acc B plain x, ← List.foldl_append]
    simp

theorem cleanElements_skip (rooted : Bool) (acc : List String) {e : String}
    (skip : (e.isEmpty || e == ".") = true) : cleanElements rooted acc [e] = acc.reverse := by
  simp [cleanElements, skip]

theorem isRooted_append_of_ne {x : String} (nonempty : x ≠ "") (y : String) :
    isRooted (x ++ y) = isRooted x := by
  obtain ⟨c, cs, chars⟩ := List.exists_cons_of_ne_nil (by simpa using nonempty : x.toList ≠ [])
  simp [isRooted, String.toList_append, chars]

/-- Cleaning keeps a relative path relative. -/
theorem isRooted_cleanPath_of_relative {p : String} (relative : isRooted p = false) :
    isRooted (cleanPath p) = false := by
  by_cases empty : p.isEmpty
  · simp only [cleanPath, empty, if_true]
    decide
  · have clean := cleanElements_clean false [] (splitOn p "/") (splitOn_slash_no_slash p)
      (CleanElements.nil _)
    simp only [cleanPath, empty, relative, Bool.false_eq_true, if_false]
    split
    · decide
    · exact isRooted_intercalate clean.elements

/-- Read from the root, a relative path and its cleaned form have the same elements. -/
theorem cleanElements_rooted_cleanPath (acc : List String) {q : String}
    (relative : isRooted q = false) :
    cleanElements true acc (splitOn (cleanPath q) "/") = cleanElements true acc (splitOn q "/") := by
  by_cases empty : q.isEmpty
  · have q_empty : q = "" := String.isEmpty_iff.1 empty
    subst q_empty
    have dot : splitOn "." "/" = ["."] := by
      simpa using splitOn_intercalate ["."] (by simp) (by simp)
    simp only [cleanPath, empty, if_true, dot, splitOn_empty]
    rw [cleanElements_skip true acc (by decide), cleanElements_skip true acc (by decide)]
  · have relativeClean := cleanElements_rooted_relative acc [] (splitOn q "/") (by simp [Unskipped])
    rw [List.reverse_nil, List.nil_append] at relativeClean
    have clean := cleanElements_clean false [] (splitOn q "/") (splitOn_slash_no_slash q)
      (CleanElements.nil _)
    rw [← relativeClean]
    simp only [cleanPath, empty, relative, Bool.false_eq_true, if_false]
    split
    · rename_i bodyEmpty
      have none : cleanElements false [] (splitOn q "/") = [] := by
        by_contra some
        exact intercalate_ne_empty clean.elements some (String.isEmpty_iff.1 bodyEmpty)
      have dot : splitOn "." "/" = ["."] := by
        simpa using splitOn_intercalate ["."] (by simp) (by simp)
      rw [none, dot, cleanElements_skip true acc (by decide)]
      simp [cleanElements]
    · rename_i bodyFull
      have some : cleanElements false [] (splitOn q "/") ≠ [] := by
        intro none
        simp [none] at bodyFull
      rw [splitOn_intercalate _ some fun e mem => (clean.elements e mem).2.2]

/-- Read from the root, a rooted path and its cleaned form have the same elements. -/
theorem cleanElements_cleanPath_rooted {x : String} (rooted : isRooted x = true) :
    cleanElements true [] (splitOn (cleanPath x) "/") = cleanElements true [] (splitOn x "/") := by
  have clean := cleanElements_clean true [] (splitOn x "/") (splitOn_slash_no_slash x)
    (CleanElements.nil _)
  have keep : cleanElements true [] (cleanElements true [] (splitOn x "/")) =
      cleanElements true [] (splitOn x "/") := by
    simpa using cleanElements_of_clean true [] _ (by simpa using clean)
  rw [cleanPath_rooted rooted, splitOn_slash_prepend]
  -- the empty piece before the first slash is skipped
  rw [show ("" :: splitOn _ "/") = [""] ++ splitOn _ "/" from rfl, cleanElements_append,
    cleanElements_skip true [] (by decide)]
  simp only [List.reverse_nil]
  by_cases none : cleanElements true [] (splitOn x "/") = []
  · rw [none, String.intercalate_nil, splitOn_empty, cleanElements_skip true [] (by decide)]
    rfl
  · rw [splitOn_intercalate _ none fun e mem => (clean.elements e mem).2.2, keep]

/-- **A rooted path may be cleaned before more is read after it.** -/
theorem cleanPath_cleanPath_append {x : String} (rooted : isRooted x = true) (y : String) :
    cleanPath (cleanPath x ++ "/" ++ y) = cleanPath (x ++ "/" ++ y) := by
  have rootedClean := isRooted_cleanPath rooted
  rw [cleanPath_rooted (isRooted_append (isRooted_append rootedClean _) _),
    cleanPath_rooted (isRooted_append (isRooted_append rooted _) _), splitOn_slash_join,
    splitOn_slash_join, cleanElements_append, cleanElements_append,
    cleanElements_cleanPath_rooted rooted]

/-- **A relative path may be cleaned before it is read after a rooted one.** -/
theorem cleanPath_append_cleanPath {c : String} (rooted : isRooted c = true) {q : String}
    (relative : isRooted q = false) :
    cleanPath (c ++ "/" ++ cleanPath q) = cleanPath (c ++ "/" ++ q) := by
  rw [cleanPath_rooted (isRooted_append (isRooted_append rooted _) _),
    cleanPath_rooted (isRooted_append (isRooted_append rooted _) _), splitOn_slash_join,
    splitOn_slash_join, cleanElements_append, cleanElements_append,
    cleanElements_rooted_cleanPath _ relative]

theorem isRooted_of_cleanPath {p : String} (rooted : isRooted (cleanPath p) = true) :
    isRooted p = true := by
  cases relative : isRooted p
  · rw [isRooted_cleanPath_of_relative relative] at rooted
    cases rooted
  · rfl

/-- A slash at the end of a path changes nothing. -/
theorem cleanPath_append_slash {s : String} (nonempty : s ≠ "") :
    cleanPath (s ++ "/" ++ "") = cleanPath s := by
  have full : (s ++ "/" ++ "").isEmpty = false := by
    simp [nonempty]
  have same : isRooted (s ++ "/" ++ "") = isRooted s := by
    rw [String.append_assoc, isRooted_append_of_ne nonempty]
  have elements : cleanElements (isRooted s) [] (splitOn (s ++ "/" ++ "") "/") =
      cleanElements (isRooted s) [] (splitOn s "/") := by
    rw [splitOn_slash_join, splitOn_empty, cleanElements_append,
      cleanElements_skip _ _ (by decide), List.reverse_reverse]
  simp only [cleanPath, full, Bool.false_eq_true, if_false, same, elements,
    show s.isEmpty = false by simpa [String.isEmpty_iff] using nonempty]

/-- A non-empty path joined with a part is the two read one after the other, cleaned. -/
theorem joinPath_pair {s : String} (nonempty : s ≠ "") (n : String) :
    joinPath [s, n] = cleanPath (s ++ "/" ++ n) := by
  by_cases empty : n = ""
  · subst empty
    have kept : [s, ""].filter (!·.isEmpty) = [s] := by simp [nonempty]
    rw [joinPath, kept, cleanPath_append_slash nonempty]
    simp
  · have kept : [s, n].filter (!·.isEmpty) = [s, n] := by
      simp [nonempty, empty]
    rw [joinPath, kept]
    simp

end Rebase

end StaticWrap.Text

namespace StaticWrap.Run

open StaticWrap.Disk StaticWrap.Text

/-! ### Reading paths from the working directory -/

section Absolute

variable {t : Tree} {cwd : String}

/-- With a rooted root, a path is absolute exactly when it is rooted. -/
theorem isAbsolute_eq (rootedTree : isRooted t.root = true) (p : String) :
    t.isAbsolute p = isRooted p := by
  unfold Tree.isAbsolute
  cases rooted : isRooted p with
  | true => rfl
  | false =>
    simp only [Bool.false_or, Bool.or_eq_false_iff, beq_eq_false_iff_ne]
    refine ⟨fun same => ?_, ?_⟩
    · rw [same, rootedTree] at rooted
      cases rooted
    · cases below : hasPrefix p (t.root ++ "/")
      · rfl
      · -- a path below the root starts as the root does
        obtain ⟨r, chars⟩ := hasPrefix_iff.1 below
        have split : p = t.root ++ ("/" ++ String.ofList r) := by
          apply String.toList_inj.1
          simp [chars, String.toList_append]
        rw [split, isRooted_append rootedTree] at rooted
        cases rooted

theorem absolute_eq (rootedTree : isRooted t.root = true) (p : String) :
    t.absolute cwd p = if isRooted p then cleanPath p else cleanPath (cwd ++ "/" ++ p) := by
  rw [Tree.absolute, isAbsolute_eq rootedTree]

theorem absolute_ne_empty (p : String) : t.absolute cwd p ≠ "" := by
  unfold Tree.absolute
  split <;> exact cleanPath_ne_empty _

/-- **Going down one element commutes with reading a path from the working directory.** -/
theorem absolute_joinPath (rootedCwd : isRooted cwd = true) (rootedTree : isRooted t.root = true)
    {s : String} (nonempty : s ≠ "") (n : String) :
    t.absolute cwd (joinPath [s, n]) = joinPath [t.absolute cwd s, n] := by
  have same : isRooted (s ++ "/" ++ n) = isRooted s := by
    rw [String.append_assoc, isRooted_append_of_ne nonempty]
  rw [joinPath_pair nonempty, joinPath_pair (absolute_ne_empty s), absolute_eq rootedTree,
    absolute_eq rootedTree]
  cases rooted : isRooted s with
  | true =>
    rw [isRooted_cleanPath (same.trans rooted), if_pos rfl, if_pos rfl, cleanPath_cleanPath,
      cleanPath_cleanPath_append rooted n]
  | false =>
    rw [isRooted_cleanPath_of_relative (same.trans rooted)]
    simp only [Bool.false_eq_true, if_false]
    rw [cleanPath_append_cleanPath rootedCwd (same.trans rooted),
      cleanPath_cleanPath_append (isRooted_append (isRooted_append rootedCwd _) _)]
    simp only [String.append_assoc]

end Absolute

/-! ### The scan's walk and the cleaner's -/

section Walks

variable {t : Tree} {cwd : String}

/-- Reading a directory depends only on its cleaned path. -/
theorem readDir_congr {p q : String} (same : cleanPath p = cleanPath q) {entries : List Entry}
    (listed : t.readDir p = .ok entries) : t.readDir q = .ok entries := by
  unfold Tree.readDir at listed ⊢
  dsimp only at listed ⊢
  rw [← same]
  split at listed
  · cases listed
  · rename_i notFile
    rw [if_neg notFile]
    split at listed
    · cases listed
    · rename_i found
      rw [if_neg found]
      exact listed

theorem walkDirs_of_readDir {fuel : Nat} {read shown : String} {entries : List Entry}
    (listed : t.readDir read = .ok entries) :
    walkDirs t (fuel + 1) read shown =
      shown :: (entries.filter fun e => e.isDir && entersDir e.name).flatMap fun e =>
        walkDirs t fuel (read ++ "/" ++ e.name) (joinPath [shown, e.name]) := by
  rw [walkDirs, listed]

/-- **The cleaner's walk lists every directory the scan's walk finds.** The scan reads `dir`;
the cleaner reads `read`, the same directory written otherwise, under the name `shown`, which the
working directory reads as `dir`. -/
theorem scanTree_listed (rootedCwd : isRooted cwd = true) (rootedTree : isRooted t.root = true)
    {tags : List String} :
    ∀ (fuel : Nat) {dir read shown : String} {found : List String}, DirPath dir →
      cleanPath read = dir → shown ≠ "" → t.absolute cwd shown = dir →
      scanTree t tags fuel dir = .ok found →
      ∀ d ∈ found, ∃ s ∈ walkDirs t fuel read shown, t.absolute cwd s = d
  | 0, _, _, _, _, _, _, _, _, ok => by
    cases ok
    simp
  | fuel + 1, dir, read, shown, found, here, reads, nonempty, named, ok => by
    simp only [scanTree] at ok
    split at ok <;> split at ok <;> simp only [bind, Except.bind, pure, Except.pure] at ok
    · split at ok
      · cases ok
      rename_i _ _ _ _ entries listed _ below walked
      cases ok
      rw [walkDirs_of_readDir (readDir_congr (by rw [reads, here.clean]) listed)]
      intro d mem
      rcases List.mem_append.1 mem with self | deeper
      · -- the directory itself heads the cleaner's walk
        have isDir : d = dir := by
          split at self
          · exact List.mem_singleton.1 self
          · cases self
        exact ⟨shown, List.mem_cons_self, isDir ▸ named⟩
      · -- a directory found deeper was found from an entry both walks enter
        obtain ⟨l, walkedL, inside⟩ := List.mem_flatten.1 deeper
        obtain ⟨e, entered, scanned⟩ := mapM_ok_mem walked l walkedL
        obtain ⟨member, accepted⟩ := List.mem_filter.1 entered
        have enters : (e.isDir && entersDir e.name) = true := by
          simp only [Bool.and_eq_true] at accepted ⊢
          exact accepted.1
        have readsChild : cleanPath (read ++ "/" ++ e.name) = joinPath [dir, e.name] := by
          have rootedRead : isRooted read = true := isRooted_of_cleanPath (reads ▸ here.rooted)
          have full : dir ≠ "" := by
            rw [← here.clean]
            exact cleanPath_ne_empty dir
          rw [joinPath_pair full, ← reads,
            cleanPath_cleanPath_append rootedRead]
        have namedChild : t.absolute cwd (joinPath [shown, e.name]) = joinPath [dir, e.name] := by
          rw [absolute_joinPath rootedCwd rootedTree nonempty, named]
        obtain ⟨s, listedS, absS⟩ := scanTree_listed rootedCwd rootedTree fuel
          (here.joinPath e.name) readsChild (by rw [joinPath_pair nonempty]; exact cleanPath_ne_empty _)
          namedChild scanned d inside
        exact ⟨s, List.mem_cons_of_mem _ (List.mem_flatMap.2 ⟨e, List.mem_filter.2 ⟨member, enters⟩,
          listedS⟩), absS⟩
    all_goals cases ok

end Walks

/-! ### Each directory once, in the order found -/

/-- Adding the directories not seen before keeps the first finding of each. -/
theorem addNew_eq (seen found : List String) :
    addNew seen found = seen ++ (found.removeAll seen).eraseDups := by
  induction found generalizing seen with
  | nil => simp [addNew]
  | cons x xs ih =>
    have step : addNew seen (x :: xs) =
        addNew (if seen.contains x then seen else seen ++ [x]) xs := rfl
    rw [step]
    split
    · rename_i old
      have dropped : (x :: xs).removeAll seen = xs.removeAll seen := by
        simp_all [List.removeAll]
      rw [ih, dropped]
    · rename_i fresh
      have kept : (x :: xs).removeAll seen = x :: xs.removeAll seen := by
        simp_all [List.removeAll]
      have later : xs.removeAll (seen ++ [x]) = (xs.removeAll seen).filter fun b => !b == x := by
        simp [List.removeAll, List.filter_filter, Bool.and_comm, Bool.beq_eq_decide_eq]
      rw [ih, kept, List.eraseDups_cons, later]
      simp

/-- Directories added to the first findings of a sequence are the first findings of the longer
sequence. -/
theorem addNew_eraseDups (S found : List String) :
    addNew S.eraseDups found = (S ++ found).eraseDups := by
  have same : found.removeAll S.eraseDups = found.removeAll S := by
    simp [List.removeAll]
  rw [addNew_eq, List.eraseDups_append, same]

/-- What one argument of a scan finds: the package directories of the tree it names, or the
directory it names when that holds a package. -/
def discovered (t : Tree) (tags : List String) (cwd arg : String) : Except Failure (List String) :=
  let abs := t.absolute cwd (splitPattern arg).1
  if (splitPattern arg).2 then scanTree t tags t.depth abs
  else match hasGoFiles t tags abs with
    | .error e => .error (fileFailure "scan" abs (some (diskFailure e)))
    | .ok true => pure [abs]
    | .ok false => pure []

/-- The scan of a list of arguments, as a fold over what each finds. -/
theorem foldlM_discovered {t : Tree} {tags : List String} {cwd : String}
    {f : List String → String → Except Failure (List String)}
    (step : ∀ dirs arg, f dirs arg = discovered t tags cwd arg >>= fun found => pure (addNew dirs found)) :
    ∀ (args S : List String) {dirs : List String}, args.foldlM f S.eraseDups = .ok dirs →
      ∃ founds, args.mapM (discovered t tags cwd) = .ok founds ∧ dirs = (S ++ founds.flatten).eraseDups
  | [], S, dirs, ok => by
    cases ok
    exact ⟨[], rfl, by simp⟩
  | arg :: rest, S, dirs, ok => by
    rw [List.foldlM_cons, step] at ok
    cases first : discovered t tags cwd arg with
    | error e =>
      rw [first] at ok
      cases ok
    | ok found =>
      rw [first] at ok
      change rest.foldlM f (addNew S.eraseDups found) = .ok dirs at ok
      rw [addNew_eraseDups] at ok
      obtain ⟨founds, mapped, eq⟩ := foldlM_discovered step rest (S ++ found) ok
      refine ⟨found :: founds, ?_, ?_⟩
      · rw [List.mapM_cons, first, mapped]
        rfl
      · rw [eq]
        simp

/-- **A scan finds each directory once, in the order first found.** -/
theorem scanDirectories_eraseDups {t : Tree} {tags : List String} {cwd : String}
    {args dirs : List String} (ok : scanDirectories t tags cwd args = .ok dirs) :
    ∃ founds, args.mapM (discovered t tags cwd) = .ok founds ∧ dirs = founds.flatten.eraseDups := by
  unfold scanDirectories at ok
  refine foldlM_discovered ?_ args [] ok
  -- each step of the scan adds what its argument finds
  intro dirs arg
  unfold discovered
  rcases splitPattern arg with ⟨root, recursive⟩
  cases recursive
  · dsimp only
    simp only [Bool.false_eq_true, if_false]
    cases hasGoFiles t tags (t.absolute cwd root) with
    | error e => rfl
    | ok here => cases here <;> rfl
  · rfl

/-! ### Where a scan goes -/

/-- A walk from `dir` goes down to `d` through subdirectories that a walk enters and that hold
no `go.mod`, each an entry of the directory above it. -/
inductive Descends (t : Tree) (dir : String) : String → Prop
  | here : Descends t dir dir
  | down {d : String} {entries : List Entry} {e : Entry} : Descends t dir d →
      t.readDir d = .ok entries → e ∈ entries → e.isDir = true → entersDir e.name = true →
      t.exists? (d ++ "/" ++ e.name ++ "/go.mod") = false → Descends t dir (joinPath [d, e.name])

theorem Descends.trans {t : Tree} {a b c : String} (first : Descends t a b) (second : Descends t b c) :
    Descends t a c := by
  induction second with
  | here => exact first
  | down _ listed member isDir enters noMod ih => exact .down ih listed member isDir enters noMod

/-- **A scan's walk stays in the directories it may enter.** Every directory it finds holds a
package and is reached without entering a skipped directory or one with its own `go.mod`. -/
theorem scanTree_descends {t : Tree} {tags : List String} :
    ∀ (fuel : Nat) {dir : String} {found : List String}, scanTree t tags fuel dir = .ok found →
      ∀ d ∈ found, Descends t dir d ∧ hasGoFiles t tags d = .ok true
  | 0, _, _, ok => by
    cases ok
    simp
  | fuel + 1, dir, found, ok => by
    simp only [scanTree] at ok
    split at ok <;> split at ok <;> simp only [bind, Except.bind, pure, Except.pure] at ok
    · split at ok
      · cases ok
      rename_i _ here hasGo _ entries listed _ below walked
      cases ok
      intro d mem
      rcases List.mem_append.1 mem with self | deeper
      · cases here with
        | true =>
          rw [List.mem_singleton.1 self]
          exact ⟨.here, hasGo⟩
        | false => cases self
      · obtain ⟨l, walkedL, inside⟩ := List.mem_flatten.1 deeper
        obtain ⟨e, entered, scanned⟩ := mapM_ok_mem walked l walkedL
        obtain ⟨member, accepted⟩ := List.mem_filter.1 entered
        simp only [Bool.and_eq_true, Bool.not_eq_true'] at accepted
        obtain ⟨reached, package⟩ := scanTree_descends fuel scanned d inside
        exact ⟨(Descends.here.down listed member accepted.1.1 accepted.1.2 accepted.2).trans
          reached, package⟩
    all_goals cases ok

theorem scanTree_readDir {t : Tree} {tags : List String} {fuel : Nat} {dir : String}
    {found : List String} (ok : scanTree t tags (fuel + 1) dir = .ok found) :
    ∃ entries, t.readDir dir = .ok entries := by
  simp only [scanTree] at ok
  split at ok <;> split at ok <;> simp only [bind, Except.bind, pure, Except.pure] at ok
  · rename_i _ _ _ _ entries listed
    exact ⟨entries, listed⟩
  all_goals cases ok

theorem isDir_of_readDir {t : Tree} {p : String} {entries : List Entry}
    (listed : t.readDir p = .ok entries) : t.isDir p = true := by
  unfold Tree.readDir at listed
  dsimp only at listed
  split at listed
  · cases listed
  · split at listed
    · cases listed
    · rename_i found
      simpa [Tree.isDir] using found

/-- What an argument finds is package directories its walk reaches. -/
theorem discovered_descends {t : Tree} {tags : List String} {cwd arg : String}
    {found : List String} (ok : discovered t tags cwd arg = .ok found) :
    ∀ d ∈ found, Descends t (t.absolute cwd (splitPattern arg).1) d ∧ hasGoFiles t tags d = .ok true := by
  unfold discovered at ok
  dsimp only at ok
  split at ok
  · exact scanTree_descends _ ok
  · split at ok
    · cases ok
    · rename_i hasGo
      cases ok
      intro d mem
      rw [List.mem_singleton.1 mem]
      exact ⟨.here, hasGo⟩
    · cases ok
      simp

/-- **With its root found where it is written, an argument's clean lists every directory its scan
finds.** -/
theorem discovered_listed {t : Tree} {tags : List String} {cwd arg : String}
    (rootedCwd : isRooted cwd = true) (rootedTree : isRooted t.root = true)
    (resolves : t.lookupFault? cwd (splitPattern arg).1 = none) {found : List String}
    (ok : discovered t tags cwd arg = .ok found) :
    ∀ d ∈ found, ∃ s ∈ cleanDirs t cwd (splitPattern arg).1 (splitPattern arg).2,
      t.absolute cwd s = d := by
  have named : (splitPattern arg).1 ≠ "" := by
    intro empty
    rw [empty] at resolves
    cases resolves
  unfold discovered at ok
  unfold cleanDirs
  rw [resolves]
  dsimp only at ok ⊢
  split at ok
  · rename_i recursive
    obtain ⟨k, depth⟩ : ∃ k, t.depth = k + 1 := ⟨_, rfl⟩
    rw [depth] at ok
    obtain ⟨entries, listed⟩ := scanTree_readDir ok
    have here := dirPath_absolute (t := t) rootedCwd rootedTree (splitPattern arg).1
    rw [recursive, if_neg (by simp), if_neg (by simp [isDir_of_readDir listed]), depth]
    exact scanTree_listed rootedCwd rootedTree (k + 1) here here.clean named rfl ok
  · rename_i plain
    rw [if_pos (by simpa using plain)]
    split at ok
    · cases ok
    · cases ok
      intro d mem
      rw [List.mem_singleton.1 mem]
      exact ⟨_, List.mem_singleton_self _, rfl⟩
    · cases ok
      simp

/-- **A clean over the arguments of a scan visits every directory the scan finds**, when the root
of every argument is found where it is written. The scan finds each directory once, in the order
first found, and each is a package directory its argument's walk reaches without entering a
skipped directory or one with its own `go.mod`. -/
theorem clean_covers_scan {t : Tree} {tags : List String} {cwd : String} {args dirs : List String}
    (rootedCwd : isRooted cwd = true) (rootedTree : isRooted t.root = true)
    (ok : scanDirectories t tags cwd args = .ok dirs) :
    dirs.Nodup ∧
      (∃ founds, args.mapM (discovered t tags cwd) = .ok founds ∧ dirs = founds.flatten.eraseDups) ∧
      (∀ d ∈ dirs, ∃ arg ∈ args, Descends t (t.absolute cwd (splitPattern arg).1) d ∧
        hasGoFiles t tags d = .ok true) ∧
      ((∀ arg ∈ args, t.lookupFault? cwd (splitPattern arg).1 = none) →
        ∀ d ∈ dirs, ∃ arg ∈ args, ∃ shown ∈ cleanDirs t cwd (splitPattern arg).1 (splitPattern arg).2,
          t.absolute cwd shown = d) := by
  obtain ⟨founds, mapped, order⟩ := scanDirectories_eraseDups ok
  -- every directory of the scan comes from what one argument found
  have source : ∀ d ∈ dirs, ∃ arg ∈ args, ∃ found, discovered t tags cwd arg = .ok found ∧ d ∈ found := by
    intro d mem
    rw [order, List.mem_eraseDups] at mem
    obtain ⟨found, kept, inside⟩ := List.mem_flatten.1 mem
    obtain ⟨arg, given, first⟩ := mapM_ok_mem mapped found kept
    exact ⟨arg, given, found, first, inside⟩
  refine ⟨(scanDirectories_dirPaths rootedCwd rootedTree ok).1, ⟨founds, mapped, order⟩, ?_, ?_⟩
  · intro d mem
    obtain ⟨arg, given, found, first, inside⟩ := source d mem
    exact ⟨arg, given, discovered_descends first d inside⟩
  · intro resolve d mem
    obtain ⟨arg, given, found, first, inside⟩ := source d mem
    exact ⟨arg, given, discovered_listed rootedCwd rootedTree (resolve arg given) first d inside⟩

theorem eq_ok_of_toOption {ε α : Type} {e : Except ε α} {a : α} (found : e.toOption = some a) :
    e = .ok a := by
  cases e with
  | error _ => cases found
  | ok b =>
    cases found
    rfl

/-- A tree with one package, a directory below the root. -/
def nestedPackage : Tree :=
  { root := "/work", files := [("/work/pkg/b.go", "package pkg\n")] }

/-- The nested package, scanned and cleaned with `./...`: its root is found as written, and the
clean lists the scanned directory. -/
theorem nested_package_covered :
    isRooted "/work" = true ∧ isRooted nestedPackage.root = true ∧
      scanDirectories nestedPackage [] "/work" ["./..."] = .ok ["/work/pkg"] ∧
      (∀ arg ∈ ["./..."], nestedPackage.lookupFault? "/work" (splitPattern arg).1 = none) ∧
      ∀ d ∈ ["/work/pkg"], ∃ arg ∈ ["./..."],
        ∃ shown ∈ cleanDirs nestedPackage "/work" (splitPattern arg).1 (splitPattern arg).2,
          nestedPackage.absolute "/work" shown = d :=
  have scanned : scanDirectories nestedPackage [] "/work" ["./..."] = .ok ["/work/pkg"] :=
    eq_ok_of_toOption (by decide +kernel)
  have found : ∀ arg ∈ ["./..."], nestedPackage.lookupFault? "/work" (splitPattern arg).1 = none := by
    decide +kernel
  ⟨by decide, by decide, scanned, found,
    (clean_covers_scan (by decide) (by decide) scanned).2.2.2 found⟩

def packageAtRoot : Tree :=
  { root := "/work", files := [("/work/a.go", "package a\n")] }

/-- An empty argument names the working directory for the scan, but nothing for the cleaner. -/
theorem empty_root_scanned_not_cleaned :
    scanDirectories packageAtRoot [] "/work" [""] = .ok ["/work"] ∧
      cleanDirs packageAtRoot "/work" (splitPattern "").1 (splitPattern "").2 = [] :=
  ⟨eq_ok_of_toOption (by decide +kernel), by decide +kernel⟩

end StaticWrap.Run
