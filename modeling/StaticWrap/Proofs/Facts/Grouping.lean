import Mathlib
import StaticWrap.Facts.Set
/-!
**What the collector gathers.**

The collector keeps its units in a list that it updates in place: an addition finds the unit of
its target's key by position, or opens a new one at the end, and adds the facts one by one to the
unit's fact set, which refuses a fact whose signature is there already. What it holds after any
run of additions is read off the run alone:

* `keepFirst`: the items of a list whose key has not come earlier, so the first of each key
  wins; `keepFirst_append` splits it over two lists.
* `FactSet.addAll_eq`: adding facts to a set appends those whose key is new to the set and to
  the facts before them, and counts them.
* `factsUnder`, `entriesOf`: every fact added under a unit key, the first of each signature kept;
  one unit per key, in the order the keys first came, with the target of the first addition.
* `entries_ofAdds`: the collector after a run holds exactly `entriesOf` of the run, by one step
  lemma (`add_entriesOf`) and induction on the run.
* `collector_groups_facts`: the units, the counts, `has` and the distinct signatures.
-/

namespace StaticWrap.Facts

open StaticWrap.Model

/-! ### The first item of each key -/

section KeepFirst

variable {α κ : Type} [DecidableEq κ] (key : α → κ)

/-- The items of a list whose key is neither among `seen` nor the key of an earlier item. -/
def keepFirst : List κ → List α → List α
  | _, [] => []
  | seen, x :: xs =>
    if key x ∈ seen then keepFirst seen xs else x :: keepFirst (key x :: seen) xs

variable {key}

@[simp] theorem keepFirst_nil (seen : List κ) : keepFirst key seen [] = [] := rfl

/-- Only which keys have been seen matters, not their order or repetition. -/
theorem keepFirst_congr {seen seen' : List κ} (same : ∀ k, k ∈ seen ↔ k ∈ seen') (l : List α) :
    keepFirst key seen l = keepFirst key seen' l := by
  induction l generalizing seen seen' with
  | nil => rfl
  | cons x xs ih =>
    simp only [keepFirst, same (key x)]
    split
    · exact ih same
    · exact congrArg (x :: ·) (ih fun k => by simp [same k])

/-- Over two lists: the first list's items, then those of the second whose key none of the
first list's items had. -/
@[simp, grind =] theorem keepFirst_append (seen : List κ) (l m : List α) :
    keepFirst key seen (l ++ m) = keepFirst key seen l ++ keepFirst key (l.map key ++ seen) m := by
  induction l generalizing seen with
  | nil => rfl
  | cons x xs ih =>
    simp only [List.cons_append, keepFirst, List.map_cons]
    split
    · rename_i seenBefore
      -- the head's key was seen already, so it adds nothing to what is seen
      rw [ih]
      congr 1
      exact keepFirst_congr (fun k => by
        simp only [List.mem_append, List.mem_cons]
        constructor
        · rintro (later | old)
          · exact .inr (.inl later)
          · exact .inr (.inr old)
        · rintro (rfl | later | old)
          · exact .inr seenBefore
          · exact .inl later
          · exact .inr old) m
    · rw [ih, List.cons_append]
      congr 2
      exact keepFirst_congr (fun k => by grind) m

/-- A key is kept exactly when some item has it and it was not seen before. -/
@[simp] theorem mem_keys_keepFirst (seen : List κ) (l : List α) (k : κ) :
    k ∈ (keepFirst key seen l).map key ↔ k ∈ l.map key ∧ k ∉ seen := by
  induction l generalizing seen with
  | nil => simp
  | cons x xs ih =>
    simp only [keepFirst, List.map_cons, List.mem_cons]
    split
    · rename_i seenBefore
      rw [ih]
      constructor
      · rintro ⟨later, fresh⟩
        exact ⟨.inr later, fresh⟩
      · rintro ⟨rfl | later, fresh⟩
        · exact absurd seenBefore fresh
        · exact ⟨later, fresh⟩
    · rw [List.map_cons, List.mem_cons, ih]
      simp only [List.mem_cons, not_or]
      constructor
      · rintro (rfl | ⟨later, -, fresh⟩)
        · exact ⟨.inl rfl, by assumption⟩
        · exact ⟨.inr later, fresh⟩
      · rintro ⟨rfl | later, fresh⟩
        · exact .inl rfl
        · by_cases same : k = key x
          · exact .inl same
          · exact .inr ⟨later, same, fresh⟩

/-- No two kept items share a key. -/
theorem keys_keepFirst_nodup (seen : List κ) (l : List α) :
    ((keepFirst key seen l).map key).Nodup := by
  induction l generalizing seen with
  | nil => exact List.nodup_nil
  | cons x xs ih =>
    simp only [keepFirst]
    split
    · exact ih seen
    · rw [List.map_cons, List.nodup_cons, mem_keys_keepFirst]
      exact ⟨fun ⟨_, fresh⟩ => fresh (List.mem_cons_self), ih _⟩

/-- The kept items come from the list. -/
@[grind →] theorem mem_of_mem_keepFirst {seen : List κ} {l : List α} {x : α}
    (mem : x ∈ keepFirst key seen l) : x ∈ l := by
  induction l generalizing seen with
  | nil => exact absurd mem List.not_mem_nil
  | cons y ys ih =>
    simp only [keepFirst] at mem
    split at mem
    · exact List.mem_cons_of_mem _ (ih mem)
    · rcases List.mem_cons.1 mem with rfl | later
      · exact List.mem_cons_self
      · exact List.mem_cons_of_mem _ (ih later)

end KeepFirst

/-! ### Fact sets -/

/-- Adding a fact refuses it exactly when the set holds a fact with its key. -/
theorem FactSet.add_eq (s : FactSet) (f : Fact) :
    s.add f = if f.key ∈ s.facts.map Fact.key then (false, s) else (true, ⟨s.facts ++ [f]⟩) := by
  have present : s.contains f = true ↔ f.key ∈ s.facts.map Fact.key := by
    simp only [FactSet.contains, List.any_eq_true, beq_iff_eq, List.mem_map]
  unfold FactSet.add
  by_cases held : f.key ∈ s.facts.map Fact.key
  · rw [if_pos (present.2 held), if_pos held]
  · rw [if_neg (mt present.1 held), if_neg held]

/-- Adding facts appends, in order, each fact whose key is neither in the set nor the key of an
earlier fact added, and counts them. -/
theorem FactSet.addAll_eq (s : FactSet) (fs : List Fact) :
    (s.addAll fs).1 = (keepFirst Fact.key (s.facts.map Fact.key) fs).length ∧
      (s.addAll fs).2.facts = s.facts ++ keepFirst Fact.key (s.facts.map Fact.key) fs := by
  induction fs generalizing s with
  | nil => simp [FactSet.addAll]
  | cons f fs ih =>
    have step : s.addAll (f :: fs) =
        ((if (s.add f).1 then 1 else 0) + ((s.add f).2.addAll fs).1, ((s.add f).2.addAll fs).2) :=
      rfl
    rw [step, FactSet.add_eq]
    by_cases present : f.key ∈ s.facts.map Fact.key
    · simp only [present, if_true, keepFirst, Bool.false_eq_true, if_false, Nat.zero_add]
      exact ih s
    · -- the fact is new: it joins the set, and its key is seen from then on
      obtain ⟨count, facts⟩ := ih ⟨s.facts ++ [f]⟩
      have seen : keepFirst Fact.key ((s.facts ++ [f]).map Fact.key) fs =
          keepFirst Fact.key (f.key :: s.facts.map Fact.key) fs :=
        keepFirst_congr (fun k => by simp [or_comm]) fs
      simp only [present, if_false, keepFirst, if_true, count, facts, seen, List.length_cons,
        List.append_assoc, List.singleton_append]
      exact ⟨Nat.add_comm _ _, trivial⟩

theorem FactSet.addAll_snd (s : FactSet) (fs : List Fact) :
    (s.addAll fs).2 = ⟨s.facts ++ keepFirst Fact.key (s.facts.map Fact.key) fs⟩ := by
  rw [← (FactSet.addAll_eq s fs).2]

/-! ### The units of a run of additions -/

/-- Every fact added with a target of a unit key, in order. -/
def received (adds : List (Target × List Fact)) (k : String) : List Fact :=
  (adds.filter (unitKey ·.1 == k)).flatMap (·.2)

/-- The facts gathered under a unit key by a run of additions: those it received, a fact whose
signature came earlier left out. -/
def factsUnder (adds : List (Target × List Fact)) (k : String) : List Fact :=
  keepFirst Fact.key [] (received adds k)

/-- One unit per unit key, in the order the keys first came: the target of the key's first
addition, with the facts gathered under the key. -/
def entriesOf (adds : List (Target × List Fact)) : List Gathered :=
  (keepFirst (unitKey ·.1) [] adds).map fun a => ⟨a.1, ⟨factsUnder adds (unitKey a.1)⟩⟩

/-- The units of a run of additions: for each unit key, in the order the keys first came, the
target of its first addition with the facts gathered under it; a key that received no fact has
no unit. -/
def unitsOf (adds : List (Target × List Fact)) : List WrapUnit :=
  (keepFirst (unitKey ·.1) [] adds).filterMap fun a =>
    if (received adds (unitKey a.1)).isEmpty then none
    else some ⟨a.1, factsUnder adds (unitKey a.1)⟩

/-- The collector after a run of additions. -/
def Collector.ofAdds (adds : List (Target × List Fact)) : Collector :=
  adds.foldl (fun c a => (c.add a.1 a.2).2) {}

theorem Collector.ofAdds_snoc (adds : List (Target × List Fact)) (a : Target × List Fact) :
    Collector.ofAdds (adds ++ [a]) = ((Collector.ofAdds adds).add a.1 a.2).2 := by
  simp only [Collector.ofAdds, List.foldl_append, List.foldl_cons, List.foldl_nil]

/-- A new addition extends the facts of its own key by those it brings whose signature is new to
them, and leaves every other key's facts alone. -/
theorem factsUnder_snoc (adds : List (Target × List Fact)) (t : Target) (fs : List Fact)
    (k : String) :
    factsUnder (adds ++ [(t, fs)]) k =
      if unitKey t = k then
        factsUnder adds k ++ keepFirst Fact.key ((factsUnder adds k).map Fact.key) fs
      else factsUnder adds k := by
  unfold factsUnder received
  rw [List.filter_append, List.flatMap_append]
  by_cases own : unitKey t = k
  · rw [if_pos own, keepFirst_append, List.append_nil]
    simp only [List.filter_cons, List.filter_nil, own, beq_self_eq_true, if_true,
      List.flatMap_cons, List.flatMap_nil, List.append_nil]
    congr 1
    exact keepFirst_congr (fun k => by rw [mem_keys_keepFirst]; simp) fs
  · have other : (unitKey t == k) = false := beq_false_of_ne own
    simp only [if_neg own, List.filter_cons, List.filter_nil, other, Bool.false_eq_true,
      if_false, List.flatMap_nil, List.append_nil]

/-- A unit key that no addition used has no facts. -/
theorem factsUnder_unused {adds : List (Target × List Fact)} {k : String}
    (unused : k ∉ adds.map (unitKey ·.1)) : factsUnder adds k = [] := by
  have none : adds.filter (unitKey ·.1 == k) = [] := by
    rw [List.filter_eq_nil_iff]
    intro a mem same
    exact unused (List.mem_map.2 ⟨a, mem, by simpa using same⟩)
  simp [factsUnder, received, none]

/-! ### One addition -/

/-- In a list whose items have distinct keys, setting the item found by its key is changing the
item of that key. -/
theorem set_findIdx?_eq_map {β : Type} {key : β → String} (f : β → β) (d : β) (k : String) :
    ∀ {l : List β} {i : Nat}, (l.map key).Nodup → l.findIdx? (key · == k) = some i →
      l.set i (f (l.getD i d)) = l.map fun x => if key x = k then f x else x
  | [], _, _, found => by simp at found
  | x :: xs, i, nodup, found => by
    rw [List.map_cons, List.nodup_cons] at nodup
    rw [List.findIdx?_cons] at found
    by_cases here : key x = k
    · -- the head is the item of the key; no later item has it
      rw [if_pos (by simpa using here)] at found
      obtain rfl := (Option.some_inj.1 found).symm
      have rest : ∀ y ∈ xs, key y ≠ k := fun y mem same =>
        nodup.1 (here ▸ same ▸ List.mem_map_of_mem mem)
      have kept : xs.map (fun y => if key y = k then f y else y) = xs := by
        conv_rhs => rw [← List.map_id xs]
        exact List.map_congr_left fun y mem => if_neg (rest y mem)
      simp only [List.set_cons_zero, List.getD_cons_zero, List.map_cons, here, if_true, kept]
    · rw [if_neg (by simpa using here)] at found
      obtain ⟨j, found', rfl⟩ := Option.map_eq_some_iff.1 found
      simp only [List.set_cons_succ, List.getD_cons_succ, List.map_cons, here, if_false]
      exact congrArg (x :: ·) (set_findIdx?_eq_map f d k nodup.2 found')

/-- An addition whose key has a unit grows that unit in place. -/
theorem Collector.add_of_found {c : Collector} {t : Target} (fs : List Fact) {i : Nat}
    (found : c.entries.findIdx? (fun e => unitKey e.target == unitKey t) = some i) :
    c.add t fs = (((c.entries.getD i ⟨t, {}⟩).set.addAll fs).1,
      ⟨c.entries.set i { c.entries.getD i ⟨t, {}⟩ with
        set := ((c.entries.getD i ⟨t, {}⟩).set.addAll fs).2 }⟩) := by
  simp only [Collector.add, found]

/-- An addition whose key has no unit opens one at the end. -/
theorem Collector.add_of_missing {c : Collector} {t : Target} (fs : List Fact)
    (missing : c.entries.findIdx? (fun e => unitKey e.target == unitKey t) = none) :
    c.add t fs = ((FactSet.addAll {} fs).1, ⟨c.entries ++ [⟨t, (FactSet.addAll {} fs).2⟩]⟩) := by
  simp only [Collector.add, missing]

theorem keepFirst_snoc {α κ : Type} [DecidableEq κ] (key : α → κ) (seen : List κ) (l : List α)
    (x : α) :
    keepFirst key seen (l ++ [x]) =
      keepFirst key seen l ++ if key x ∈ l.map key ++ seen then [] else [x] := by
  rw [keepFirst_append]
  simp only [keepFirst]

theorem unitKeys_entriesOf (adds : List (Target × List Fact)) :
    (entriesOf adds).map (unitKey ·.target) = (keepFirst (unitKey ·.1) [] adds).map (unitKey ·.1) := by
  simp [entriesOf, Function.comp_def]

/-- Each unit holds the facts gathered under its key. -/
theorem facts_of_mem_entriesOf {adds : List (Target × List Fact)} {g : Gathered}
    (mem : g ∈ entriesOf adds) : g.set.facts = factsUnder adds (unitKey g.target) := by
  obtain ⟨a, -, rfl⟩ := List.mem_map.1 mem
  rfl

/-- A unit of the longer run: the unit of the run, grown when it is the unit of the new
addition's key. -/
theorem unit_snoc (adds : List (Target × List Fact)) (t : Target) (fs : List Fact)
    (a : Target × List Fact) :
    (⟨a.1, ⟨factsUnder (adds ++ [(t, fs)]) (unitKey a.1)⟩⟩ : Gathered) =
      if unitKey a.1 = unitKey t then
        { (⟨a.1, ⟨factsUnder adds (unitKey a.1)⟩⟩ : Gathered) with
          set := (FactSet.addAll ⟨factsUnder adds (unitKey a.1)⟩ fs).2 }
      else ⟨a.1, ⟨factsUnder adds (unitKey a.1)⟩⟩ := by
  rw [factsUnder_snoc]
  by_cases own : unitKey a.1 = unitKey t
  · simp only [own, if_true, FactSet.addAll_snd]
  · simp only [own, if_false, Ne.symm own]

/-- One addition to a collector holding `entriesOf adds` leaves `entriesOf` of the longer run,
and counts the facts it appended to its unit. -/
theorem add_entriesOf {c : Collector} {adds : List (Target × List Fact)}
    (holds : c.entries = entriesOf adds) (t : Target) (fs : List Fact) :
    (c.add t fs).2.entries = entriesOf (adds ++ [(t, fs)]) ∧
      (c.add t fs).1 =
        (keepFirst Fact.key ((factsUnder adds (unitKey t)).map Fact.key) fs).length := by
  have keysNodup : (c.entries.map (unitKey ·.target)).Nodup := by
    rw [holds, unitKeys_entriesOf]
    exact keys_keepFirst_nodup _ _
  have keysOf : ∀ k, k ∈ c.entries.map (unitKey ·.target) ↔ k ∈ adds.map (unitKey ·.1) := by
    intro k
    rw [holds, unitKeys_entriesOf, mem_keys_keepFirst]
    simp
  have longer : entriesOf (adds ++ [(t, fs)]) =
      (keepFirst (unitKey ·.1) [] adds ++
          if unitKey t ∈ adds.map (unitKey ·.1) then [] else [(t, fs)]).map fun a =>
        ⟨a.1, ⟨factsUnder (adds ++ [(t, fs)]) (unitKey a.1)⟩⟩ := by
    rw [entriesOf, keepFirst_snoc, List.append_nil]
  by_cases used : unitKey t ∈ adds.map (unitKey ·.1)
  · -- the key has a unit: it is grown in place
    obtain ⟨i, found⟩ : ∃ i, c.entries.findIdx? (fun e => unitKey e.target == unitKey t) = some i := by
      refine Option.isSome_iff_exists.1 ?_
      rw [List.findIdx?_isSome, List.any_eq_true]
      obtain ⟨e, mem, same⟩ := List.mem_map.1 ((keysOf _).2 used)
      exact ⟨e, mem, by simpa using same⟩
    obtain ⟨bound, atKey, -⟩ := List.findIdx?_eq_some_iff_getElem.1 found
    have factsThere : (c.entries.getD i ⟨t, {}⟩).set.facts = factsUnder adds (unitKey t) := by
      have mem : c.entries[i] ∈ entriesOf adds := by
        rw [← holds]
        exact List.getElem_mem bound
      rw [List.getD_eq_getElem?_getD, List.getElem?_eq_getElem bound, Option.getD_some,
        facts_of_mem_entriesOf mem, show unitKey c.entries[i].target = unitKey t by simpa using atKey]
    rw [Collector.add_of_found fs found]
    refine ⟨?_, by rw [(FactSet.addAll_eq _ fs).1, factsThere]⟩
    have grown : c.entries.set i { c.entries.getD i ⟨t, {}⟩ with
          set := ((c.entries.getD i ⟨t, {}⟩).set.addAll fs).2 } =
        c.entries.map fun e =>
          if unitKey e.target = unitKey t then { e with set := (e.set.addAll fs).2 } else e :=
      set_findIdx?_eq_map (fun e : Gathered => { e with set := (e.set.addAll fs).2 }) ⟨t, {}⟩
        (unitKey t) keysNodup found
    rw [grown, longer, if_pos used, List.append_nil, holds, entriesOf, List.map_map]
    exact List.map_congr_left fun a _ => (unit_snoc adds t fs a).symm
  · -- a new key: a new unit at the end
    have missing : c.entries.findIdx? (fun e => unitKey e.target == unitKey t) = none := by
      rw [List.findIdx?_eq_none_iff]
      intro e mem
      simpa using fun same => used ((keysOf _).1 (List.mem_map.2 ⟨e, mem, same⟩))
    have empty := factsUnder_unused used
    rw [Collector.add_of_missing fs missing]
    refine ⟨?_, by rw [(FactSet.addAll_eq _ fs).1, empty]⟩
    dsimp only
    rw [longer, if_neg used, List.map_append, holds, entriesOf]
    congr 1
    · -- the old units are of other keys, so they keep their facts
      refine List.map_congr_left fun a mem => ?_
      have other : unitKey a.1 ≠ unitKey t := fun same => used (by
        rw [← same]
        exact List.mem_map_of_mem (mem_of_mem_keepFirst mem))
      rw [unit_snoc, if_neg other]
    · rw [List.map_singleton, factsUnder_snoc, if_pos rfl, empty, FactSet.addAll_snd]

/-! ### Along every run -/

/-- The collector after a run of additions holds exactly `entriesOf` of the run. -/
theorem entries_ofAdds (adds : List (Target × List Fact)) :
    (Collector.ofAdds adds).entries = entriesOf adds := by
  induction adds using List.reverseRecOn with
  | nil => rfl
  | append_singleton adds a ih =>
    rw [Collector.ofAdds_snoc]
    exact (add_entriesOf ih a.1 a.2).1

theorem units_ofAdds (adds : List (Target × List Fact)) :
    (Collector.ofAdds adds).units = unitsOf adds := by
  rw [Collector.units, entries_ofAdds, entriesOf, unitsOf]
  induction keepFirst (unitKey ·.1) [] adds with
  | nil => rfl
  | cons a rest ih =>
    -- a unit is dropped exactly when its key received no fact
    have sized : (FactSet.size ⟨factsUnder adds (unitKey a.1)⟩ != 0) =
        !(received adds (unitKey a.1)).isEmpty := by
      rw [FactSet.size, factsUnder]
      cases h : received adds (unitKey a.1) with
      | nil => rfl
      | cons f fs => simp [keepFirst]
    rw [List.map_cons, List.filter_cons, List.filterMap_cons, sized]
    cases (received adds (unitKey a.1)).isEmpty with
    | true => exact ih
    | false => exact congrArg (_ :: ·) ih

/-- The facts of a run, counted over all units, are those of the units that got facts. -/
theorem factCount_eq_sum (c : Collector) : c.factCount = (c.units.map (·.facts.length)).sum := by
  rw [Collector.factCount, Collector.units, List.map_map]
  induction c.entries with
  | nil => rfl
  | cons e rest ih =>
    rw [List.map_cons, List.foldr_cons, ih, List.filter_cons]
    by_cases empty : e.set.size = 0
    · rw [if_neg (by simp [empty]), empty, Nat.zero_add]
    · rw [if_pos (by simp [empty]), List.map_cons, List.sum_cons]
      rfl

/-- For every run of additions: the collector's units are the units of the run, one per unit
key in the order the keys first came, with the target of the key's first addition and every
fact it received, the first of each signature kept, and no unit for a key that received no
fact; the next addition returns the number of facts it appends to its unit; the number of facts
is the sum of the units' sizes; a target has a unit exactly when some addition used its key; and
no unit holds two facts of one signature. -/
theorem collector_groups_facts (adds : List (Target × List Fact)) :
    let c := Collector.ofAdds adds
    c.units = unitsOf adds ∧
    (∀ t fs, ∃ appended, factsUnder (adds ++ [(t, fs)]) (unitKey t) =
        factsUnder adds (unitKey t) ++ appended ∧ (c.add t fs).1 = appended.length) ∧
    c.factCount = (c.units.map (·.facts.length)).sum ∧
    (∀ t, c.has t = true ↔ ∃ a ∈ adds, unitKey a.1 = unitKey t) ∧
    (∀ u ∈ c.units, (u.facts.map Fact.key).Nodup) := by
  intro c
  have holds := entries_ofAdds adds
  refine ⟨units_ofAdds adds, fun t fs => ?_, factCount_eq_sum c, fun t => ?_, fun u mem => ?_⟩
  · -- the count is that of the facts the addition's own key gains
    refine ⟨_, ?_, (add_entriesOf holds t fs).2⟩
    rw [factsUnder_snoc, if_pos rfl]
  · rw [Collector.has, holds, List.any_eq_true]
    constructor
    · rintro ⟨e, mem, same⟩
      obtain ⟨a, kept, rfl⟩ := List.mem_map.1 mem
      exact ⟨a, mem_of_mem_keepFirst kept, by simpa using same⟩
    · rintro ⟨a, mem, same⟩
      have used : unitKey a.1 ∈ adds.map (unitKey ·.1) := List.mem_map.2 ⟨a, mem, rfl⟩
      obtain ⟨b, kept, sameKey⟩ := List.mem_map.1
        ((mem_keys_keepFirst [] adds (unitKey a.1)).2 ⟨used, by simp⟩)
      exact ⟨_, List.mem_map_of_mem kept, by simp [sameKey, same]⟩
  · rw [units_ofAdds, unitsOf, List.mem_filterMap] at mem
    obtain ⟨a, -, made⟩ := mem
    split at made
    · cases made
    · cases made
      exact keys_keepFirst_nodup _ _

end StaticWrap.Facts
