import Mathlib.Data.List.Nodup
import StaticWrap.Generate.Names
/-!
**Who keeps a wrapper name.**

Each unit claims two names in the package, its wrapper struct and its interface. `checkNames`
goes through the units in order and keeps a unit exactly when both its names are still free:
declared by no one in the package and claimed by no unit kept before it. A dropped unit gets one
problem naming the first of its names that is held and who holds it, the package itself or
the identity of the unit that claimed it.

The check keeps its holders as a list of (name, holder) pairs, newest first, like a map whose
last write wins. This module states the rule without that list:

* `holderOf`: who holds a name, given the declared names and the units kept so far;
* `claimStep`: the rule for one unit against the units kept so far;
* `checkNames_eq_foldl`: the check is `claimStep` applied to the units from left to right;
* `checkNames_first_claimant_wins`: the greedy rule as an equation for one more unit, and what
  follows from it: the kept units are a sublist of the units, every unit is either kept or has
  exactly one problem, and the kept units' names are distinct and declared by no one.
-/

namespace StaticWrap.Generate

open StaticWrap.Model

/-- The two names a unit declares in the package: its wrapper struct and its interface. -/
def claimedNames (u : WrapUnit) : List String :=
  [spliceWrapper u.target.baseName, "I" ++ spliceWrapper u.target.baseName]

/-- Who holds a name once the units `kept` were kept, as a map whose last write wins: the
latest kept unit that declares it, else the package itself (`""`) when it declares it. -/
def holderOf (declared : List String) (kept : List WrapUnit) (n : String) : Option String :=
  match kept.reverse.find? fun u => (claimedNames u).contains n with
  | some u => some u.target.identity
  | none => if declared.contains n then some "" else none

/-- The first of a unit's names that is held, with its holder. -/
def firstHeld (declared : List String) (kept : List WrapUnit) (u : WrapUnit) :
    Option (String × String) :=
  (claimedNames u).findSome? fun n => (holderOf declared kept n).map (n, ·)

/-- The greedy rule for one unit: it is kept when both its names are free, else dropped with
the problem of its first held name. -/
def claimStep (declared : List String) (acc : List WrapUnit × List Failure) (u : WrapUnit) :
    List WrapUnit × List Failure :=
  match firstHeld declared acc.1 u with
  | none => (acc.1 ++ [u], acc.2)
  | some (n, o) => (acc.1, acc.2 ++ [conflictProblem u n o])

/-- The holders as the check records them: the kept units' names, latest unit first, then the
declared names. -/
def ownersOf (declared : List String) (kept : List WrapUnit) : Owners :=
  (kept.reverse.flatMap fun u => (claimedNames u).map (·, u.target.identity)) ++
    declared.map (·, "")

/-! ### The recorded holders -/

theorem find_claimed (n : String) (us : List WrapUnit) :
    (us.flatMap fun u => (claimedNames u).map (·, u.target.identity)).find? (·.1 == n) =
      (us.find? fun u => (claimedNames u).contains n).map fun u => (n, u.target.identity) := by
  induction us with
  | nil => rfl
  | cons u us ih =>
    rw [List.flatMap_cons, List.find?_append, ih]
    by_cases declares : (claimedNames u).contains n
    · have found : ((claimedNames u).map (·, u.target.identity)).find? (·.1 == n) =
          some (n, u.target.identity) := by
        by_cases wrapper : spliceWrapper u.target.baseName = n
        · simp [claimedNames, wrapper]
        · simp only [claimedNames, List.contains_cons, List.contains_nil, Bool.or_false,
            Bool.or_eq_true, beq_iff_eq] at declares
          have iface := declares.resolve_left (Ne.symm wrapper)
          simp [claimedNames, wrapper, ← iface]
      have head : (u :: us).find? (fun v => (claimedNames v).contains n) = some u :=
        List.find?_cons_of_pos declares
      rw [found, head]
      rfl
    · have missing : ((claimedNames u).map (·, u.target.identity)).find? (·.1 == n) = none := by
        simp only [List.find?_eq_none, List.mem_map, beq_iff_eq]
        rintro _ ⟨m, mem, rfl⟩ same
        exact declares (List.contains_iff_mem.2 (same ▸ mem))
      have later : (u :: us).find? (fun v => (claimedNames v).contains n) =
          us.find? (fun v => (claimedNames v).contains n) :=
        List.find?_cons_of_neg declares
      rw [missing, later]
      rfl

theorem find_declared (n : String) (declared : List String) :
    (declared.map fun m => (m, "")).find? (·.1 == n) =
      if declared.contains n then some (n, "") else none := by
  induction declared with
  | nil => rfl
  | cons m declared ih =>
    by_cases same : m = n
    · subst same
      simp
    · simp [same, ih, Ne.symm same]

/-- The recorded holder of a name is `holderOf`'s. -/
theorem find_ownersOf (declared : List String) (kept : List WrapUnit) (n : String) :
    (ownersOf declared kept).find? (·.1 == n) = (holderOf declared kept n).map (n, ·) := by
  rw [ownersOf, List.find?_append, find_claimed, find_declared, holderOf]
  cases kept.reverse.find? fun u => (claimedNames u).contains n with
  | some u => rfl
  | none => split <;> rfl

theorem firstTaken_ownersOf (declared : List String) (kept : List WrapUnit) (names : List String) :
    firstTaken (ownersOf declared kept) names =
      names.findSome? fun n => (holderOf declared kept n).map (n, ·) := by
  induction names with
  | nil => rfl
  | cons n names ih =>
    rw [firstTaken, find_ownersOf, List.findSome?_cons, ih]
    cases holderOf declared kept n <;> rfl

/-- Keeping a unit records its two names, before those recorded earlier. -/
theorem ownersOf_snoc (declared : List String) (kept : List WrapUnit) (u : WrapUnit) :
    ownersOf declared (kept ++ [u]) =
      (spliceWrapper u.target.baseName, u.target.identity) ::
        ("I" ++ spliceWrapper u.target.baseName, u.target.identity) :: ownersOf declared kept := by
  simp [ownersOf, claimedNames]

/-! ### The check as a left fold -/

theorem foldl_claimStep (declared : List String) :
    ∀ (us kept : List WrapUnit) (problems : List Failure),
      us.foldl (claimStep declared) (kept, problems) =
        (kept ++ (keepFree (ownersOf declared kept) us).1,
          problems ++ (keepFree (ownersOf declared kept) us).2)
  | [], kept, problems => by simp [keepFree]
  | u :: us, kept, problems => by
    have first : firstTaken (ownersOf declared kept)
        [spliceWrapper u.target.baseName, "I" ++ spliceWrapper u.target.baseName] =
          firstHeld declared kept u :=
      firstTaken_ownersOf declared kept _
    rw [List.foldl_cons]
    cases held : firstHeld declared kept u with
    | none =>
      have step : claimStep declared (kept, problems) u = (kept ++ [u], problems) := by
        simp [claimStep, held]
      rw [step, foldl_claimStep declared us (kept ++ [u]) problems, ownersOf_snoc]
      simp [keepFree, first, held]
    | some held' =>
      obtain ⟨n, o⟩ := held'
      have step : claimStep declared (kept, problems) u =
          (kept, problems ++ [conflictProblem u n o]) := by
        simp [claimStep, held]
      rw [step, foldl_claimStep declared us kept _]
      simp [keepFree, first, held]

/-- **The check is the greedy rule applied from left to right.** -/
theorem checkNames_eq_foldl (units : List WrapUnit) (declared : List String) :
    checkNames units declared = units.foldl (claimStep declared) ([], []) := by
  rw [foldl_claimStep declared units [] []]
  rfl

/-! ### What one step keeps -/

theorem holderOf_eq_none {declared : List String} {kept : List WrapUnit} {n : String} :
    holderOf declared kept n = none ↔ (∀ u ∈ kept, n ∉ claimedNames u) ∧ n ∉ declared := by
  unfold holderOf
  cases found : kept.reverse.find? fun u => (claimedNames u).contains n with
  | some u =>
    have mem := List.mem_reverse.1 (List.mem_of_find?_eq_some found)
    have declares := List.find?_some found
    simp only [List.contains_iff_mem] at declares
    simp only [reduceCtorEq, false_iff, not_and]
    exact fun free => absurd declares (free u mem)
  | none =>
    have free := List.find?_eq_none.1 found
    simp only [List.mem_reverse, List.contains_iff_mem] at free
    by_cases declares : n ∈ declared
    · simp [declares]
    · simpa [declares] using free

theorem firstHeld_eq_none {declared : List String} {kept : List WrapUnit} {u : WrapUnit} :
    firstHeld declared kept u = none ↔ ∀ n ∈ claimedNames u, holderOf declared kept n = none := by
  simp [firstHeld, List.findSome?_eq_none_iff]

theorem claimedNames_nodup (u : WrapUnit) : (claimedNames u).Nodup := by
  have longer : spliceWrapper u.target.baseName ≠ "I" ++ spliceWrapper u.target.baseName :=
    fun same => by simpa using congrArg String.length same
  simpa [claimedNames] using longer

/-- The kept units' names are distinct and none is declared by the package. -/
def Fresh (declared : List String) (kept : List WrapUnit) : Prop :=
  (kept.flatMap claimedNames).Nodup ∧ ∀ n ∈ kept.flatMap claimedNames, n ∉ declared

theorem Fresh.snoc {declared : List String} {kept : List WrapUnit} {u : WrapUnit}
    (fresh : Fresh declared kept) (free : firstHeld declared kept u = none) :
    Fresh declared (kept ++ [u]) := by
  have names : ∀ n ∈ claimedNames u, (∀ v ∈ kept, n ∉ claimedNames v) ∧ n ∉ declared :=
    fun n mem => holderOf_eq_none.1 (firstHeld_eq_none.1 free n mem)
  refine ⟨?_, ?_⟩
  · rw [List.flatMap_append, List.flatMap_singleton, List.nodup_append]
    refine ⟨fresh.1, claimedNames_nodup u, ?_⟩
    intro a earlier b mine same
    subst same
    obtain ⟨v, kept_v, claims⟩ := List.mem_flatMap.1 earlier
    exact (names a mine).1 v kept_v claims
  · intro n mem
    rw [List.flatMap_append, List.flatMap_singleton, List.mem_append] at mem
    rcases mem with earlier | mine
    · exact fresh.2 n earlier
    · exact (names n mine).2

theorem fresh_claimStep {declared : List String} {acc : List WrapUnit × List Failure}
    (fresh : Fresh declared acc.1) (u : WrapUnit) : Fresh declared (claimStep declared acc u).1 := by
  unfold claimStep
  split
  · rename_i free
    exact fresh.snoc free
  · exact fresh

theorem length_claimStep (declared : List String) (acc : List WrapUnit × List Failure)
    (u : WrapUnit) :
    (claimStep declared acc u).1.length + (claimStep declared acc u).2.length =
      acc.1.length + acc.2.length + 1 := by
  unfold claimStep
  split <;> simp <;> omega

theorem sublist_claimStep (declared : List String) (acc : List WrapUnit × List Failure)
    (u : WrapUnit) : List.Sublist (claimStep declared acc u).1 (acc.1 ++ [u]) := by
  unfold claimStep
  split
  · exact List.Sublist.refl _
  · exact List.sublist_append_left _ _

/-! ### The whole check -/

/-- What a run of the rule keeps, from any start whose kept names are fresh: the names stay
fresh, the kept units stay a sublist, and each unit adds one kept unit or one problem. -/
theorem foldl_claimStep_invariant (declared : List String) :
    ∀ (us : List WrapUnit) (acc : List WrapUnit × List Failure), Fresh declared acc.1 →
      Fresh declared (us.foldl (claimStep declared) acc).1 ∧
        List.Sublist (us.foldl (claimStep declared) acc).1 (acc.1 ++ us) ∧
        (us.foldl (claimStep declared) acc).1.length + (us.foldl (claimStep declared) acc).2.length =
          acc.1.length + acc.2.length + us.length
  | [], acc, fresh => ⟨fresh, by simp, rfl⟩
  | u :: us, acc, fresh => by
    obtain ⟨fresh', sub, count⟩ :=
      foldl_claimStep_invariant declared us (claimStep declared acc u) (fresh_claimStep fresh u)
    refine ⟨fresh', ?_, ?_⟩
    · have step := (sublist_claimStep declared acc u).append (List.Sublist.refl us)
      simpa using sub.trans step
    · rw [List.foldl_cons, count, length_claimStep, List.length_cons]
      omega

/-- **The first claimant keeps a name.** The check keeps no unit of an empty list; with one
more unit, it keeps that unit when both its names are free of the declared names and of the
names of the units kept before, and otherwise adds one problem for it, naming its first held
name and the holder. So the kept units are a sublist of the units, each unit is kept or has
exactly one problem, and the kept units' wrapper and interface names are distinct and declared
by no one. -/
theorem checkNames_first_claimant_wins (units : List WrapUnit) (declared : List String) :
    checkNames [] declared = ([], []) ∧
      (∀ (pre : List WrapUnit) (u : WrapUnit),
        checkNames (pre ++ [u]) declared = claimStep declared (checkNames pre declared) u) ∧
      List.Sublist (checkNames units declared).1 units ∧
      (checkNames units declared).1.length + (checkNames units declared).2.length =
        units.length ∧
      ((checkNames units declared).1.flatMap claimedNames).Nodup ∧
      ∀ n ∈ (checkNames units declared).1.flatMap claimedNames, n ∉ declared := by
  have nothing : Fresh declared ([] : List WrapUnit) :=
    ⟨List.nodup_nil, fun _ absent => absurd absent List.not_mem_nil⟩
  obtain ⟨fresh, sub, count⟩ := foldl_claimStep_invariant declared units ([], []) nothing
  refine ⟨rfl, fun pre u => ?_, ?_⟩
  · rw [checkNames_eq_foldl, checkNames_eq_foldl, List.foldl_append, List.foldl_cons,
      List.foldl_nil]
  · rw [checkNames_eq_foldl]
    exact ⟨by simpa using sub, by simpa using count, fresh.1, fresh.2⟩

/-- The interface of `Foo` is the wrapper of `IFoo`, so of the two the first is kept. -/
example : (checkNames [{ target := { pkgPath := "m/a", typeName := "Foo" } },
    { target := { pkgPath := "m/a", typeName := "IFoo" } }] []).1 =
      [{ target := { pkgPath := "m/a", typeName := "Foo" } }] := by decide

end StaticWrap.Generate
