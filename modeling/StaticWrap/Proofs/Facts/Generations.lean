import Mathlib
import StaticWrap.Proofs.Facts.CacheView
/-!
**Passes of a fact cache.**

A fact cache keys its entries by the generation of the pass that stored them and, when a pass
begins, sweeps out every entry of a smaller generation. Within one pass it then behaves as a
plain map from identity and scope to values that each pass starts empty: a store sets a value, a
computation runs only for a key with no value and, when it succeeds, sets it.

* `Op.hold`, `held`: the map a pass builds. An identity and scope hold the value of their latest
  store, or else that of their first successful computation (`valueIn_held`); there are as many
  entries as keys stored (`length_held`).
* `Current`: every entry carries the cache's generation; along a run of fewer than `2 ^ 64`
  passes the current entries are those the last pass holds (`current_after`).
* `generations_isolate_passes`: all of it along every run. A failed computation still counts a
  miss (`failed_computation_counts_miss`), and once the generation has reached its last value a
  new pass wraps it to zero and evicts nothing (`beginPass_at_last_generation`).
-/

namespace StaticWrap.Facts.Cache

variable {V ε : Type}

/-! ### Runs of operations -/

/-- An operation on a cache. A computation is given by the outcome it has when it runs. -/
inductive Op (V ε : Type) where
  | beginPass
  | lookup (identity scope : String)
  | store (identity scope : String) (value : V)
  | getOrCompute (identity scope : String) (outcome : Except ε V)

/-- The cache after one operation. -/
def Op.apply : Op V ε → Cache V → Cache V
  | .beginPass, c => c.beginPass.2
  | .lookup identity scope, c => (c.lookup identity scope).2
  | .store identity scope v, c => c.store identity scope v
  | .getOrCompute identity scope r, c => (Id.run (c.getOrCompute identity scope (pure r))).2

/-- The cache after a run of operations from a new cache. -/
def after (ops : List (Op V ε)) : Cache V := ops.foldl (fun c op => op.apply c) {}

theorem after_snoc (ops : List (Op V ε)) (op : Op V ε) :
    after (ops ++ [op]) = op.apply (after ops) := by
  simp only [after, List.foldl_append, List.foldl_cons, List.foldl_nil]

/-- The operation begins a pass. -/
def Op.isBeginPass : Op V ε → Bool
  | .beginPass => true
  | _ => false

/-- The number of passes a run begins. -/
def passes (ops : List (Op V ε)) : Nat := ops.countP Op.isBeginPass

/-- The operations since the last pass began. -/
def sinceLastPass (ops : List (Op V ε)) : List (Op V ε) :=
  (ops.reverse.takeWhile fun op => !op.isBeginPass).reverse

theorem sinceLastPass_beginPass (ops : List (Op V ε)) :
    sinceLastPass (ops ++ [.beginPass]) = [] := by
  simp [sinceLastPass, Op.isBeginPass]

theorem sinceLastPass_snoc {op : Op V ε} (within : op.isBeginPass = false) (ops : List (Op V ε)) :
    sinceLastPass (ops ++ [op]) = sinceLastPass ops ++ [op] := by
  simp [sinceLastPass, within]

/-! ### What a pass stores -/

/-- The value an operation stores for an identity and scope. -/
def Op.storedValue (identity scope : String) : Op V ε → Option V
  | .store i s v => if i = identity ∧ s = scope then some v else none
  | _ => none

/-- The value an operation computes for an identity and scope. -/
def Op.computedValue (identity scope : String) : Op V ε → Option V
  | .getOrCompute i s (.ok v) => if i = identity ∧ s = scope then some v else none
  | _ => none

/-- The identity and scope an operation may store a value for. -/
def Op.storedKey : Op V ε → Option (String × String)
  | .store i s _ => some (i, s)
  | .getOrCompute i s (.ok _) => some (i, s)
  | _ => none

/-- The value of the latest store of an identity and scope. -/
def latestStore (ops : List (Op V ε)) (identity scope : String) : Option V :=
  ops.reverse.findSome? (Op.storedValue identity scope)

/-- The outcome of the first successful computation for an identity and scope. -/
def firstComputed (ops : List (Op V ε)) (identity scope : String) : Option V :=
  ops.findSome? (Op.computedValue identity scope)

/-- The identities and scopes that stores and successful computations name. -/
def storedKeys (ops : List (Op V ε)) : List (String × String) := ops.filterMap Op.storedKey

/-- What an operation does to the values of a pass: a store sets its key's value, and a
successful computation sets it when the key has none. -/
def Op.hold (h : List (String × String × V)) : Op V ε → List (String × String × V)
  | .store i s v => storeIn h i s v
  | .getOrCompute i s (.ok v) => if (valueIn h i s).isSome then h else storeIn h i s v
  | _ => h

/-- The values a run of operations within a pass leaves. -/
def held (ops : List (Op V ε)) : List (String × String × V) := ops.foldl Op.hold []

theorem held_snoc (ops : List (Op V ε)) (op : Op V ε) :
    held (ops ++ [op]) = Op.hold (held ops) op := by
  simp only [held, List.foldl_append, List.foldl_cons, List.foldl_nil]

@[simp] theorem valueIn_cons (e : String × String × V) (h : List (String × String × V))
    (identity scope : String) :
    valueIn (e :: h) identity scope =
      if Keyed identity scope e then some e.2.2 else valueIn h identity scope := by
  cases keyed : Keyed identity scope e <;> simp [valueIn, keyed]

theorem keyed_iff (identity scope : String) (e : String × String × V) :
    Keyed identity scope e = true ↔ e.1 = identity ∧ e.2.1 = scope := by
  simp [Keyed]

/-- Replacing the value of a key: found under the key when the key was there, the others found
as before. -/
theorem valueIn_replace (h : List (String × String × V)) (i s : String) (v : V)
    (identity scope : String) :
    valueIn (h.map fun e => if Keyed i s e then (i, s, v) else e) identity scope =
      if i = identity ∧ s = scope then (if h.any (Keyed i s) then some v else none)
      else valueIn h identity scope := by
  induction h with
  | nil => split <;> rfl
  | cons e rest ih =>
    rw [List.map_cons, valueIn_cons, ih, valueIn_cons, List.any_cons]
    by_cases keyed : Keyed i s e = true
    · obtain ⟨first, second⟩ := (keyed_iff i s e).1 keyed
      by_cases same : i = identity ∧ s = scope
      · obtain ⟨rfl, rfl⟩ := same
        have self : Keyed i s (i, s, v) = true := (keyed_iff i s _).2 ⟨rfl, rfl⟩
        simp only [keyed, self, if_true, Bool.true_or, and_self]
      · have other : Keyed identity scope e = false := by
          rw [Bool.eq_false_iff, ne_eq, keyed_iff, first, second]
          exact same
        have other' : Keyed identity scope (i, s, v) = false := by
          rw [Bool.eq_false_iff, ne_eq, keyed_iff]
          exact same
        simp only [keyed, if_true, other', other, Bool.false_eq_true, if_false, same]
    · have unkeyed : Keyed i s e = false := by simpa using keyed
      by_cases same : i = identity ∧ s = scope
      · obtain ⟨rfl, rfl⟩ := same
        simp only [unkeyed, Bool.false_eq_true, if_false, Bool.false_or, and_self, if_true]
      · simp only [unkeyed, Bool.false_eq_true, if_false, same]

/-- A value added at the end is found only when its key has none before it. -/
theorem valueIn_snoc (h : List (String × String × V)) (i s : String) (v : V)
    (identity scope : String) :
    valueIn (h ++ [(i, s, v)]) identity scope =
      (valueIn h identity scope).or (if i = identity ∧ s = scope then some v else none) := by
  induction h with
  | nil =>
    rw [List.nil_append, valueIn_cons]
    by_cases same : i = identity ∧ s = scope
    · obtain ⟨rfl, rfl⟩ := same
      simp [Keyed, valueIn]
    · have other : Keyed identity scope (i, s, v) = false := by
        rw [Bool.eq_false_iff, ne_eq, keyed_iff]
        exact same
      simp [other, same, valueIn]
  | cons e rest ih =>
    rw [List.cons_append, valueIn_cons, ih, valueIn_cons]
    split <;> rfl

/-- A stored value is found under its key; the others are found as before. -/
theorem valueIn_storeIn (h : List (String × String × V)) (i s : String) (v : V)
    (identity scope : String) :
    valueIn (storeIn h i s v) identity scope =
      if i = identity ∧ s = scope then some v else valueIn h identity scope := by
  unfold storeIn
  split
  · rename_i present
    rw [valueIn_replace, present]
    rfl
  · rename_i absent
    rw [valueIn_snoc]
    by_cases same : i = identity ∧ s = scope
    · obtain ⟨rfl, rfl⟩ := same
      -- the key had no value, as it had no entry
      have none : valueIn h i s = none := by
        unfold valueIn
        rw [Option.map_eq_none_iff, List.find?_eq_none]
        intro e mem keyed
        exact absent (List.any_eq_true.2 ⟨e, mem, keyed⟩)
      simp [none]
    · simp only [same, if_false, Option.or_none]

/-! ### The keys a pass holds -/

/-- The identity and scope of a keyed value. -/
def entryKey (e : String × String × V) : String × String := (e.1, e.2.1)

theorem any_keyed_iff (h : List (String × String × V)) (identity scope : String) :
    h.any (Keyed identity scope) = true ↔ (identity, scope) ∈ h.map entryKey := by
  simp only [List.any_eq_true, keyed_iff, List.mem_map, entryKey, Prod.mk.injEq]

theorem isSome_valueIn_iff (h : List (String × String × V)) (identity scope : String) :
    (valueIn h identity scope).isSome ↔ (identity, scope) ∈ h.map entryKey := by
  rw [valueIn, Option.isSome_map, List.find?_isSome, ← any_keyed_iff, List.any_eq_true]

/-- A store adds its key when it is new and keeps the keys otherwise. -/
theorem keys_storeIn (h : List (String × String × V)) (i s : String) (v : V) :
    (storeIn h i s v).map entryKey =
      if (i, s) ∈ h.map entryKey then h.map entryKey else h.map entryKey ++ [(i, s)] := by
  unfold storeIn
  by_cases present : (i, s) ∈ h.map entryKey
  · rw [if_pos ((any_keyed_iff h i s).2 present), if_pos present, List.map_map]
    apply List.map_congr_left
    intro e _
    by_cases keyed : Keyed i s e = true
    · obtain ⟨first, second⟩ := (keyed_iff i s e).1 keyed
      simp [keyed, entryKey, first, second]
    · simp [keyed]
  · rw [if_neg (mt (any_keyed_iff h i s).1 present), if_neg present, List.map_append]
    rfl

/-- What one operation does to the keys held. -/
theorem keys_hold (h : List (String × String × V)) (op : Op V ε) :
    (Op.hold h op).map entryKey =
      match op.storedKey with
      | some k => if k ∈ h.map entryKey then h.map entryKey else h.map entryKey ++ [k]
      | none => h.map entryKey := by
  match op with
  | .beginPass | .lookup _ _ | .getOrCompute _ _ (.error _) => rfl
  | .store i s v => exact keys_storeIn h i s v
  | .getOrCompute i s (.ok v) =>
    simp only [Op.hold, Op.storedKey]
    by_cases present : (i, s) ∈ h.map entryKey
    · rw [if_pos ((isSome_valueIn_iff h i s).2 present), if_pos present]
    · rw [if_neg (mt (isSome_valueIn_iff h i s).1 present), keys_storeIn]

theorem storedKeys_snoc (ops : List (Op V ε)) (op : Op V ε) :
    storedKeys (ops ++ [op]) = storedKeys ops ++ op.storedKey.toList := by
  simp only [storedKeys, List.filterMap_append, List.filterMap_cons, List.filterMap_nil]
  cases op.storedKey <;> rfl

/-- The keys held are those stored, each once. -/
theorem keys_held (ops : List (Op V ε)) :
    ((held ops).map entryKey).Nodup ∧
      ∀ k, k ∈ (held ops).map entryKey ↔ k ∈ storedKeys ops := by
  induction ops using List.reverseRecOn with
  | nil => simp [held, storedKeys]
  | append_singleton ops op ih =>
    obtain ⟨nodup, mem⟩ := ih
    rw [held_snoc, keys_hold, storedKeys_snoc]
    -- the new key is appended exactly when it is not held yet
    cases op.storedKey with
    | none => exact ⟨nodup, fun k => by rw [mem, Option.toList_none, List.append_nil]⟩
    | some k =>
      dsimp only
      by_cases kept : k ∈ (held ops).map entryKey
      · rw [if_pos kept]
        refine ⟨nodup, fun k' => ?_⟩
        rw [mem, Option.toList_some, List.mem_append, List.mem_singleton]
        exact ⟨.inl, fun | .inl old => old | .inr rfl => (mem k').1 kept⟩
      · rw [if_neg kept]
        refine ⟨List.nodup_append.2 ⟨nodup, List.nodup_singleton k, ?_⟩, fun k' => ?_⟩
        · intro a old b new
          rw [List.mem_singleton.1 new]
          exact fun same => kept (same ▸ old)
        · rw [List.mem_append, List.mem_append, mem, Option.toList_some]

/-- A pass holds one entry per key it stored. -/
theorem length_held (ops : List (Op V ε)) :
    (held ops).length = (storedKeys ops).toFinset.card := by
  obtain ⟨nodup, mem⟩ := keys_held ops
  calc (held ops).length = ((held ops).map entryKey).length := (List.length_map _).symm
    _ = ((held ops).map entryKey).toFinset.card := (List.toFinset_card_of_nodup nodup).symm
    _ = (storedKeys ops).toFinset.card := by
      congr 1
      ext k
      rw [List.mem_toFinset, List.mem_toFinset, mem]

/-! ### The values a pass holds -/

theorem latestStore_snoc (ops : List (Op V ε)) (op : Op V ε) (identity scope : String) :
    latestStore (ops ++ [op]) identity scope =
      (op.storedValue identity scope).or (latestStore ops identity scope) := by
  simp only [latestStore, List.reverse_append, List.reverse_singleton, List.singleton_append,
    List.findSome?_cons]
  cases op.storedValue identity scope <;> rfl

theorem firstComputed_snoc (ops : List (Op V ε)) (op : Op V ε) (identity scope : String) :
    firstComputed (ops ++ [op]) identity scope =
      (firstComputed ops identity scope).or (op.computedValue identity scope) := by
  simp [firstComputed, List.findSome?_append]

/-- An identity and scope hold the value of their latest store in the pass or, with no store,
that of their first successful computation. -/
theorem valueIn_held (ops : List (Op V ε)) (identity scope : String) :
    valueIn (held ops) identity scope =
      (latestStore ops identity scope).or (firstComputed ops identity scope) := by
  induction ops using List.reverseRecOn with
  | nil => rfl
  | append_singleton ops op ih =>
    rw [held_snoc, latestStore_snoc, firstComputed_snoc]
    match op with
    | .beginPass | .lookup _ _ | .getOrCompute _ _ (.error _) =>
      simp only [Op.hold, Op.storedValue, Op.computedValue, Option.none_or, Option.or_none, ih]
    | .store i s v =>
      simp only [Op.hold, valueIn_storeIn, Op.storedValue, Op.computedValue, Option.or_none]
      by_cases same : i = identity ∧ s = scope
      · simp only [same, and_self, if_true, Option.some_or]
      · simp only [same, if_false, Option.none_or, ih]
    | .getOrCompute i s (.ok v) =>
      simp only [Op.hold, Op.storedValue, Option.none_or, Op.computedValue]
      rw [← Option.or_assoc, ← ih]
      by_cases same : i = identity ∧ s = scope
      · obtain ⟨rfl, rfl⟩ := same
        -- a computation sets the value only when there was none
        cases found : valueIn (held ops) i s with
        | some w => simp [found]
        | none => simp [valueIn_storeIn]
      · split
        · simp only [Option.or_none]
        · simp only [valueIn_storeIn, same, if_false, Option.or_none]

/-! ### Computations -/

/-- A computation with the given outcome that counts its runs. -/
def counted (r : Except ε V) : StateM Nat (Except ε V) := fun n => (r, n + 1)

/-- A computation runs exactly when the lookup misses. -/
theorem getOrCompute_counted (c : Cache V) (identity scope : String) (r : Except ε V) (n : Nat) :
    ((c.getOrCompute identity scope (counted r)).run n).2 =
      if (c.lookup identity scope).1.isSome then n else n + 1 := by
  unfold Cache.getOrCompute
  rcases c.lookup identity scope with ⟨_ | v, c'⟩
  · cases r <;> rfl
  · rfl

/-- The answer of a computation of known outcome: the value found, or else the outcome, stored
when it is a value. -/
theorem getOrCompute_pure (c : Cache V) (identity scope : String) (r : Except ε V) :
    Id.run (c.getOrCompute identity scope (pure r)) =
      match (c.lookup identity scope).1, r with
      | some v, _ => (.ok v, (c.lookup identity scope).2)
      | none, .ok v => (.ok v, (c.lookup identity scope).2.store identity scope v)
      | none, .error e => (.error e, (c.lookup identity scope).2) := by
  unfold Cache.getOrCompute
  rcases c.lookup identity scope with ⟨_ | v, c'⟩
  · cases r <;> rfl
  · rfl

/-- A lookup that misses counts the miss and nothing else. -/
theorem lookup_miss (c : Cache V) (identity scope : String)
    (missing : (c.lookup identity scope).1 = none) :
    (c.lookup identity scope).2 = { c with misses := c.misses + 1 } := by
  unfold Cache.lookup at missing ⊢
  dsimp only at missing ⊢
  split at missing
  · cases missing
  · rfl

/-! ### Reachable caches -/

/-- Every entry carries the cache's generation. -/
def Current (c : Cache V) : Prop := ∀ e ∈ c.entries, e.1.generation = c.generation

theorem Current.empty : ({} : Cache V).Current := fun _ mem => by simp at mem

theorem Current.length_view {c : Cache V} (current : c.Current) :
    c.view.length = c.entries.length := by
  rw [view, List.length_map, List.filter_eq_self.2]
  intro e mem
  rw [current e mem, beq_self_eq_true]

theorem Current.bounded {c : Cache V} (current : c.Current)
    (room : c.generation.toNat + 1 < UInt64.size) : c.Bounded :=
  ⟨room, fun e mem => (current e mem) ▸ UInt64.le_refl _⟩

theorem Current.lookup {c : Cache V} (current : c.Current) (identity scope : String) :
    (c.lookup identity scope).2.Current := by
  obtain ⟨entries, generation⟩ := lookup_fields c identity scope
  intro e mem
  rw [generation]
  exact current e (entries ▸ mem)

theorem Current.store {c : Cache V} (current : c.Current) (identity scope : String) (v : V) :
    (c.store identity scope v).Current := by
  intro e mem
  rw [generation_store]
  rcases mem_entries_store mem with old | rfl
  · exact current e old
  · rfl

/-- Within a pass, an operation keeps every entry current and the generation as it is, and
changes the current entries as it changes the values of the pass. -/
theorem Current.apply {c : Cache V} (current : c.Current) {op : Op V ε}
    (within : op.isBeginPass = false) :
    (op.apply c).Current ∧ (op.apply c).generation = c.generation ∧
      (op.apply c).view = Op.hold c.view op := by
  match op with
  | .beginPass => cases within
  | .lookup identity scope =>
    exact ⟨current.lookup identity scope, (lookup_fields c identity scope).2,
      view_lookup c identity scope⟩
  | .store identity scope v =>
    exact ⟨current.store identity scope v, generation_store c identity scope v,
      view_store c identity scope v⟩
  | .getOrCompute identity scope r =>
    have generation := (lookup_fields c identity scope).2
    rw [Op.apply, getOrCompute_pure]
    -- the cache after the lookup, then after the store of a computed value
    cases found : (c.lookup identity scope).1 with
    | some w =>
      have held : (valueIn c.view identity scope).isSome := by rw [← lookup_value, found]; rfl
      refine ⟨current.lookup identity scope, generation, ?_⟩
      cases r <;> simp [Op.hold, held, view_lookup]
    | none =>
      have missing : (valueIn c.view identity scope).isSome = false := by
        rw [← lookup_value, found]; rfl
      cases r with
      | error e => exact ⟨current.lookup identity scope, generation, view_lookup c identity scope⟩
      | ok v =>
        refine ⟨(current.lookup identity scope).store identity scope v,
          (generation_store _ identity scope v).trans generation, ?_⟩
        simp [Op.hold, missing, view_store, view_lookup]

theorem Op.eq_beginPass {op : Op V ε} (begins : op.isBeginPass = true) : op = .beginPass := by
  cases op <;> first | rfl | cases begins

theorem passes_snoc (ops : List (Op V ε)) (op : Op V ε) :
    passes (ops ++ [op]) = passes ops + if op.isBeginPass then 1 else 0 := by
  simp only [passes, List.countP_append, List.countP_singleton]

/-- Along a run that begins fewer than `2 ^ 64` passes, every entry is current, the generation
counts the passes begun, and the current entries are the values the last pass holds. -/
theorem current_after (ops : List (Op V ε)) (fewer : passes ops < UInt64.size) :
    (after ops).Current ∧ (after ops).generation.toNat = passes ops ∧
      (after ops).view = held (sinceLastPass ops) := by
  induction ops using List.reverseRecOn with
  | nil => exact ⟨Current.empty, rfl, rfl⟩
  | append_singleton ops op ih =>
    rw [passes_snoc] at fewer ⊢
    obtain ⟨current, counts, holds⟩ := ih (by split at fewer <;> omega)
    rw [after_snoc]
    cases begins : op.isBeginPass with
    | true =>
      -- a new pass: the generation still has room, so every entry goes
      obtain rfl := Op.eq_beginPass begins
      have room : (after ops).generation.toNat + 1 < UInt64.size := by
        rw [counts]; simpa [begins] using fewer
      have empty := entries_beginPass (current.bounded room)
      refine ⟨fun e mem => by simp [Op.apply, empty] at mem, ?_, ?_⟩
      · rw [if_pos rfl, ← counts]
        exact toNat_succ room
      · rw [sinceLastPass_beginPass]
        simp [Op.apply, view, empty, held]
    | false =>
      obtain ⟨current', generation', view'⟩ := current.apply begins
      rw [sinceLastPass_snoc begins, held_snoc, generation', view', holds]
      exact ⟨current', by simp [counts], rfl⟩

/-- A new pass of a bounded cache returns the next generation and the number of entries it
evicts, all of them. -/
theorem beginPass_of_bounded {c : Cache V} (bounded : c.Bounded) :
    c.beginPass.1 = (c.generation + 1, c.entries.length) := by
  have empty := entries_beginPass bounded
  simp only [beginPass] at empty ⊢
  rw [empty, List.length_nil, Nat.sub_zero]

/-- Once the generation has reached its last value, a new pass wraps it to zero and evicts
nothing: the entries of the last generation outlive the pass, and none is current. -/
theorem beginPass_at_last_generation (c : Cache V) (last : c.generation + 1 = 0) :
    c.beginPass = ((0, 0), { c with generation := 0 }) := by
  simp [beginPass, last, UInt64.not_lt_zero, List.filter_true]

/-- Along every run that begins fewer than `2 ^ 64 - 1` passes, every entry carries the current
generation; a lookup finds the value of the latest store of the last pass or, with no store, of
its first successful computation, and finds one exactly when the pass stored one; a failed
computation returns its error and counts a miss, changing nothing else; a computation runs
exactly when the lookup misses; and a new pass returns the number of passes begun and the number
of keys the last pass stored. -/
theorem generations_isolate_passes (ops : List (Op V ε)) (fewer : passes ops + 1 < UInt64.size) :
    let c := after ops
    let pass := sinceLastPass ops
    (∀ e ∈ c.entries, e.1.generation = c.generation) ∧
    (∀ identity scope, (c.lookup identity scope).1 =
      (latestStore pass identity scope).or (firstComputed pass identity scope)) ∧
    (∀ identity scope,
      (c.lookup identity scope).1.isSome ↔ (identity, scope) ∈ storedKeys pass) ∧
    (∀ identity scope (e : ε), (c.lookup identity scope).1 = none →
      Id.run (c.getOrCompute identity scope (pure (.error e))) =
        (.error e, { c with misses := c.misses + 1 })) ∧
    (∀ identity scope (r : Except ε V) (n : Nat),
      ((c.getOrCompute identity scope (counted r)).run n).2 =
        if (c.lookup identity scope).1.isSome then n else n + 1) ∧
    c.beginPass.1 = (UInt64.ofNat (passes ops + 1), (storedKeys pass).toFinset.card) := by
  intro c pass
  obtain ⟨current, counts, holds⟩ := current_after ops (by omega)
  have found : ∀ identity scope,
      (c.lookup identity scope).1 = valueIn (held pass) identity scope := fun identity scope => by
    rw [lookup_value, holds]
  refine ⟨current, fun identity scope => ?_, fun identity scope => ?_,
    fun identity scope e missing => ?_, getOrCompute_counted c, ?_⟩
  · rw [found, valueIn_held]
  · rw [found, isSome_valueIn_iff, (keys_held pass).2]
  · rw [getOrCompute_pure, missing, lookup_miss c identity scope missing]
  · have room : c.generation.toNat + 1 < UInt64.size := counts ▸ fewer
    rw [beginPass_of_bounded (current.bounded room), ← current.length_view, holds, length_held]
    -- the generation counts the passes, with room for the next one
    have next : c.generation + 1 = UInt64.ofNat (passes ops + 1) := by
      apply UInt64.toNat_inj.1
      rw [toNat_succ room, UInt64.toNat_ofNat_of_lt' fewer, counts]
    rw [next]

/-- The run of the cache tests: a failed computation, a successful one, and two stores of one
key within a pass. -/
theorem generations_isolate_passes_on_a_pass :
    passes ([.beginPass, .getOrCompute "x" "" (.error "boom"), .getOrCompute "x" "" (.ok 7),
      .store "y" "" 9, .store "y" "" 10] : List (Op Int String)) + 1 < UInt64.size ∧
    ((after ([.beginPass, .getOrCompute "x" "" (.error "boom"), .getOrCompute "x" "" (.ok 7),
      .store "y" "" 9, .store "y" "" 10] : List (Op Int String))).lookup "y" "").1 = some 10 := by
  refine ⟨by decide, ?_⟩
  rw [(generations_isolate_passes ([.beginPass, .getOrCompute "x" "" (.error "boom"),
    .getOrCompute "x" "" (.ok 7), .store "y" "" 9, .store "y" "" 10] : List (Op Int String))
    (by decide)).2.1]
  decide

/-- A computation that fails does not leave the cache as it was: it counts a miss. -/
theorem failed_computation_counts_miss :
    (Id.run (({} : Cache Int).getOrCompute "x" "" (pure (.error "boom" : Except String Int)))).2.stats ≠
      ({} : Cache Int).stats := by
  decide

end StaticWrap.Facts.Cache
