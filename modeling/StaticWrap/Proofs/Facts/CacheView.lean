import StaticWrap.Facts.Cache
/-!
**What a fact cache answers.**

A lookup sees only the entries of the cache's current generation. So a cache's answers are read
off those entries alone, by identity and scope: two caches with the same current entries answer
every lookup alike and stay alike through every store, whatever generations they are at. A
cache none of whose entries is of a later generation, and whose generation has not reached its
last value, starts its next pass empty.

* `Cache.view`: the current entries, each with its identity and scope.
* `lookup_value`, `view_lookup`, `view_store`: a lookup answers from the view, and a store
  changes the view as it would change a list of keyed values (`storeIn`); a value found is
  stored under its key (`mem_of_valueIn`), and a store adds only the stored value
  (`mem_storeIn`).
* `Cache.Bounded`, `entries_beginPass`: when no entry is of a later generation than the cache
  and the generation can still grow, a new pass starts with no entry at all; lookups and stores
  keep the bound.
-/

namespace StaticWrap.Facts.Cache

variable {V : Type}

/-- The entries of the current generation, by identity and scope. -/
def view (c : Cache V) : List (String × String × V) :=
  (c.entries.filter (·.1.generation == c.generation)).map fun e => (e.1.identity, e.1.scope, e.2)

/-- The entry is that of an identity and scope. -/
def Keyed (identity scope : String) (e : String × String × V) : Bool :=
  e.1 == identity && e.2.1 == scope

/-- The value of an identity and scope among keyed values. -/
def valueIn (entries : List (String × String × V)) (identity scope : String) : Option V :=
  (entries.find? (Keyed identity scope)).map (·.2.2)

/-- Stores a value among keyed values, replacing the value of the same identity and scope. -/
def storeIn (entries : List (String × String × V)) (identity scope : String) (v : V) :
    List (String × String × V) :=
  if entries.any (Keyed identity scope) then
    entries.map fun e => if Keyed identity scope e then (identity, scope, v) else e
  else entries ++ [(identity, scope, v)]

/-- An entry has the key of an identity and scope exactly when it is current and keyed so. -/
theorem beq_keyOf (c : Cache V) (identity scope : String) (e : CacheKey × V) :
    (e.1 == c.keyOf identity scope) =
      ((e.1.generation == c.generation) &&
        Keyed identity scope (e.1.identity, e.1.scope, e.2)) := by
  obtain ⟨⟨i, s, g⟩, v⟩ := e
  apply Bool.eq_iff_iff.2
  simp only [keyOf, Keyed, Bool.and_eq_true, beq_iff_eq, CacheKey.mk.injEq]
  exact ⟨fun ⟨hi, hs, hg⟩ => ⟨hg, hi, hs⟩, fun ⟨hg, hi, hs⟩ => ⟨hi, hs, hg⟩⟩

/-- A lookup answers from the current entries. -/
theorem lookup_value (c : Cache V) (identity scope : String) :
    (c.lookup identity scope).1 = valueIn c.view identity scope := by
  have found : c.entries.find? (·.1 == c.keyOf identity scope) =
      (c.entries.filter (·.1.generation == c.generation)).find?
        (Keyed identity scope ∘ fun e => (e.1.identity, e.1.scope, e.2)) := by
    rw [List.find?_filter]
    congr 1
    funext e
    by_cases current : e.1.generation = c.generation <;> simp [beq_keyOf, current]
  unfold lookup valueIn view
  dsimp only
  rw [List.find?_map, ← found]
  cases c.entries.find? (·.1 == c.keyOf identity scope) <;> rfl

/-- A lookup changes only the counters. -/
theorem lookup_fields (c : Cache V) (identity scope : String) :
    (c.lookup identity scope).2.entries = c.entries ∧
      (c.lookup identity scope).2.generation = c.generation := by
  unfold lookup
  dsimp only
  split <;> exact ⟨rfl, rfl⟩

theorem view_lookup (c : Cache V) (identity scope : String) :
    (c.lookup identity scope).2.view = c.view := by
  obtain ⟨entries, generation⟩ := lookup_fields c identity scope
  simp only [view, entries, generation]

/-- Storing a value keeps the generation. -/
theorem generation_store (c : Cache V) (identity scope : String) (v : V) :
    (c.store identity scope v).generation = c.generation := by
  unfold store
  dsimp only
  split <;> rfl

/-- After a store, an entry is an old one or the stored one, under the current key. -/
theorem mem_entries_store {c : Cache V} {identity scope : String} {v : V} {e : CacheKey × V}
    (mem : e ∈ (c.store identity scope v).entries) :
    e ∈ c.entries ∨ e = (c.keyOf identity scope, v) := by
  unfold Cache.store at mem
  dsimp only at mem
  split at mem
  · obtain ⟨e', old, rfl⟩ := List.mem_map.1 mem
    split
    · exact .inr rfl
    · exact .inl old
  · rcases List.mem_append.1 mem with old | new
    · exact .inl old
    · exact .inr (List.mem_singleton.1 new)

/-- A store changes the current entries as it changes keyed values. -/
theorem view_store (c : Cache V) (identity scope : String) (v : V) :
    (c.store identity scope v).view = storeIn c.view identity scope v := by
  have current : ∀ e : CacheKey × V, (e.1 == c.keyOf identity scope) = true →
      (e.1.generation == c.generation) = true := fun e keyed => by
    rw [beq_keyOf] at keyed
    exact (Bool.and_eq_true_iff.1 keyed).1
  have present : c.entries.any (·.1 == c.keyOf identity scope) =
      c.view.any (Keyed identity scope) := by
    simp only [view, List.any_map, List.any_filter]
    exact congrArg _ (funext (beq_keyOf c identity scope))
  unfold store storeIn
  rw [← present]
  dsimp only
  split
  · simp only [view, List.filter_map, List.map_map]
    -- a replaced entry stays current, so the filter and the replacement commute
    have kept : ((·.1.generation == c.generation) ∘ fun e : CacheKey × V =>
        if e.1 == c.keyOf identity scope then (c.keyOf identity scope, v) else e) =
        (·.1.generation == c.generation) := by
      funext e
      by_cases keyed : e.1 = c.keyOf identity scope
      · simp [keyed, keyOf]
      · simp [keyed]
    rw [kept]
    apply List.map_congr_left
    intro e mem
    have named := beq_keyOf c identity scope e
    rw [(List.mem_filter.1 mem).2, Bool.true_and] at named
    -- the entry is replaced exactly when its view is
    simp only [Function.comp_apply]
    rw [← named]
    by_cases keyed : e.1 = c.keyOf identity scope
    · simp [keyed, keyOf]
    · simp [keyed]
  · simp [view, List.filter_append, keyOf]

/-! ### Generations -/

/-- Below its last value, the generation grows by one. -/
theorem toNat_succ {g : UInt64} (room : g.toNat + 1 < UInt64.size) : (g + 1).toNat = g.toNat + 1 := by
  rw [UInt64.toNat_add, UInt64.toNat_one]
  exact Nat.mod_eq_of_lt room

/-- No entry is of a later generation than the cache, and the generation has not reached its
last value. -/
def Bounded (c : Cache V) : Prop :=
  c.generation.toNat + 1 < UInt64.size ∧ ∀ e ∈ c.entries, e.1.generation ≤ c.generation

theorem Bounded.empty : ({} : Cache V).Bounded :=
  ⟨@Nat.one_lt_two_pow 64 (by decide), fun _ mem => by simp at mem⟩

/-- A new pass evicts every entry of a bounded cache. -/
theorem entries_beginPass {c : Cache V} (bounded : c.Bounded) : c.beginPass.2.entries = [] := by
  simp only [beginPass, List.filter_eq_nil_iff, Bool.not_eq_true', decide_eq_false_iff_not,
    Classical.not_not]
  intro e mem
  have older := UInt64.le_iff_toNat_le.1 (bounded.2 e mem)
  rw [UInt64.lt_iff_toNat_lt, toNat_succ bounded.1]
  omega

theorem Bounded.lookup {c : Cache V} (bounded : c.Bounded) (identity scope : String) :
    (c.lookup identity scope).2.Bounded := by
  obtain ⟨entries, generation⟩ := lookup_fields c identity scope
  refine ⟨generation ▸ bounded.1, fun e mem => ?_⟩
  rw [generation]
  exact bounded.2 e (entries ▸ mem)

theorem Bounded.store {c : Cache V} (bounded : c.Bounded) (identity scope : String) (v : V) :
    (c.store identity scope v).Bounded := by
  refine ⟨(generation_store c identity scope v) ▸ bounded.1, fun e mem => ?_⟩
  rw [generation_store]
  rcases mem_entries_store mem with old | rfl
  · exact bounded.2 e old
  · exact UInt64.le_refl _

end StaticWrap.Facts.Cache
