import StaticWrap.Proofs.Facts.CacheView
import StaticWrap.Discover.Package
/-!
**The caches of discovery.**

Discovery looks a marker's target up in a cache of the pass, by the target's key and the
annotated package, and computes the entry afresh only when it is not there. What a marker
obtains is therefore read off the current entries of the two caches and its fresh entry alone,
and so is what the caches hold after it.

* `cachedEntry_eq`, `cachedEntry_value`, `cachedEntry_view`: the stored entry of the key, or
  the fresh one, which is stored when it succeeds.
* `Discoverer.view`: the current entries of both caches. Discoverers with the same view obtain
  the same entry for a marker whose fresh entries agree, and are left with the same view
  (`entryOf_congr`); over a package, discovery then finds the same (`parsePackage_congr`),
  whatever the log.
* `Discoverer.Bounded`: neither cache holds an entry of a later generation, nor has reached
  its last generation. A new pass then starts with both empty (`view_beginPass`), and discovery
  keeps the bound.
-/

namespace StaticWrap.Discover

open StaticWrap.Facts StaticWrap.Model

/-! ### One lookup -/

theorem cachedEntry_eq (cache : Cache Entry) (target : Target) (importer : String)
    (compute : Except Failure Entry) :
    cachedEntry cache target importer compute =
      match cache.lookup (targetKey target) importer with
      | (some v, c) => (.ok v, c)
      | (none, c) =>
        match compute with
        | .ok v => (.ok v, c.store (targetKey target) importer v)
        | .error e => (.error e, c) := by
  unfold cachedEntry Cache.getOrCompute
  rcases cache.lookup (targetKey target) importer with ⟨_ | v, c⟩
  · cases compute <;> rfl
  · rfl

/-- The entry obtained through a cache: the current entry of the key, or the fresh one. -/
theorem cachedEntry_value (cache : Cache Entry) (target : Target) (importer : String)
    (compute : Except Failure Entry) :
    (cachedEntry cache target importer compute).1 =
      match Cache.valueIn cache.view (targetKey target) importer with
      | some v => .ok v
      | none => compute := by
  rw [cachedEntry_eq, ← Cache.lookup_value]
  rcases cache.lookup (targetKey target) importer with ⟨_ | v, c⟩
  · cases compute <;> rfl
  · rfl

/-- The current entries after a lookup: the fresh entry joins them when it is used and
succeeds. -/
theorem cachedEntry_view (cache : Cache Entry) (target : Target) (importer : String)
    (compute : Except Failure Entry) :
    (cachedEntry cache target importer compute).2.view =
      match Cache.valueIn cache.view (targetKey target) importer, compute with
      | none, .ok v => Cache.storeIn cache.view (targetKey target) importer v
      | _, _ => cache.view := by
  rw [cachedEntry_eq]
  have value := Cache.lookup_value cache (targetKey target) importer
  have kept := Cache.view_lookup cache (targetKey target) importer
  rcases found : cache.lookup (targetKey target) importer with ⟨_ | v, c⟩
  · rw [found] at value kept
    rw [← value]
    cases compute with
    | error e => exact kept
    | ok v => rw [Cache.view_store, kept]
  · rw [found] at value kept
    rw [← value]
    exact kept

theorem cachedEntry_bounded {cache : Cache Entry} (bounded : cache.Bounded) (target : Target)
    (importer : String) (compute : Except Failure Entry) :
    (cachedEntry cache target importer compute).2.Bounded := by
  rw [cachedEntry_eq]
  have looked := bounded.lookup (targetKey target) importer
  rcases found : cache.lookup (targetKey target) importer with ⟨_ | v, c⟩ <;>
    rw [found] at looked
  · cases compute with
    | error e => exact looked
    | ok v => exact looked.store _ _ _
  · exact looked

/-! ### A discoverer -/

/-- The current entries of the self-wrap cache and of the cache of resolved packages. -/
def Discoverer.view (d : Discoverer) :
    List (String × String × Entry) × List (String × String × Entry) :=
  (d.selfCache.view, d.externalCache.view)

/-- Neither cache holds an entry of a later generation than its own, nor has reached its last
generation. -/
def Discoverer.Bounded (d : Discoverer) : Prop := d.selfCache.Bounded ∧ d.externalCache.Bounded

theorem Discoverer.Bounded.empty : ({} : Discoverer).Bounded :=
  ⟨Facts.Cache.Bounded.empty, Facts.Cache.Bounded.empty⟩

/-- Two discoverers with the same current entries obtain the same entry for a marker whose
fresh entries agree, and keep the same current entries. -/
theorem entryOf_congr {d₁ d₂ : Discoverer} (same : d₁.view = d₂.view)
    {resolve₁ resolve₂ : ExternalResolver} {src : PackageSource} {m : Found}
    (fresh : freshEntry resolve₁ src m = freshEntry resolve₂ src m) :
    (d₁.entryOf resolve₁ src m).1 = (d₂.entryOf resolve₂ src m).1 ∧
      (d₁.entryOf resolve₁ src m).2.view = (d₂.entryOf resolve₂ src m).2.view := by
  obtain ⟨self, external⟩ := Prod.mk.inj same
  unfold Discoverer.entryOf
  dsimp only
  split
  · refine ⟨?_, ?_⟩ <;> simp only [Discoverer.view, cachedEntry_value, cachedEntry_view, self, external, fresh]
  · split
    · exact ⟨fresh, same⟩
    · refine ⟨?_, ?_⟩ <;>
        simp only [Discoverer.view, cachedEntry_value, cachedEntry_view, self, external, fresh]

theorem Discoverer.Bounded.entryOf {d : Discoverer} (bounded : d.Bounded)
    (resolve : ExternalResolver) (src : PackageSource) (m : Found) :
    (d.entryOf resolve src m).2.Bounded := by
  unfold Discoverer.entryOf
  dsimp only
  split
  · exact ⟨cachedEntry_bounded bounded.1 _ _ _, bounded.2⟩
  · split
    · exact bounded
    · exact ⟨bounded.1, cachedEntry_bounded bounded.2 _ _ _⟩

/-! ### A package -/

/-- Two states of a package's discovery alike but for their logs, and for what their caches
hold beyond the current entries. -/
structure Progress.Alike (p q : Progress) : Prop where
  view : p.discoverer.view = q.discoverer.view
  collector : p.collector = q.collector
  problems : p.problems = q.problems
  skipped : p.skipped = q.skipped

theorem processMarker_eq (resolve : ExternalResolver) (src : PackageSource) (st : Progress)
    (m : Found) :
    processMarker resolve src st m =
      { st with discoverer := (st.discoverer.entryOf resolve src m).2 }.addEntry (targetOf src m)
        (locationText m.location) (st.discoverer.entryOf resolve src m).1 := rfl

@[simp, grind =] theorem addEntry_discoverer (st : Progress) (target : Target) (pos : String)
    (result : Except Failure Entry) : (st.addEntry target pos result).discoverer = st.discoverer := by
  unfold Progress.addEntry
  cases result with
  | error e => rfl
  | ok entry =>
    dsimp only
    split <;> rfl

/-- What an entry adds does not depend on the log. -/
theorem addEntry_alike {p q : Progress} (alike : p.Alike q) (target : Target) (pos : String)
    (result : Except Failure Entry) : (p.addEntry target pos result).Alike (q.addEntry target pos result) := by
  obtain ⟨d₁, log₁, collector, problems, skipped⟩ := p
  obtain ⟨d₂, log₂, _, _, _⟩ := q
  obtain ⟨view, rfl, rfl, rfl⟩ := alike
  unfold Progress.addEntry
  cases result with
  | error e => exact ⟨view, rfl, rfl, rfl⟩
  | ok entry =>
    dsimp only
    split
    · exact ⟨view, rfl, rfl, rfl⟩
    · exact ⟨view, rfl, rfl, rfl⟩

theorem processMarker_alike {p q : Progress} (alike : p.Alike q)
    {resolve₁ resolve₂ : ExternalResolver} {src : PackageSource} {m : Found}
    (fresh : freshEntry resolve₁ src m = freshEntry resolve₂ src m) :
    (processMarker resolve₁ src p m).Alike (processMarker resolve₂ src q m) := by
  obtain ⟨result, view⟩ := entryOf_congr alike.view fresh
  rw [processMarker_eq, processMarker_eq, result]
  apply addEntry_alike
  exact ⟨view, alike.collector, alike.problems, alike.skipped⟩

/-- Over the markers of a package, discovery from alike states stays alike when each marker's
fresh entries agree. -/
theorem foldl_processMarker_alike {p q : Progress} (alike : p.Alike q)
    {resolve₁ resolve₂ : ExternalResolver} {src : PackageSource} (markers : List Found)
    (fresh : ∀ m ∈ markers, freshEntry resolve₁ src m = freshEntry resolve₂ src m) :
    (markers.foldl (processMarker resolve₁ src) p).Alike
      (markers.foldl (processMarker resolve₂ src) q) := by
  induction markers generalizing p q with
  | nil => exact alike
  | cons m rest ih =>
    exact ih (processMarker_alike alike (fresh m List.mem_cons_self))
      fun m' mem => fresh m' (List.mem_cons_of_mem _ mem)

/-- Discoverers with the same current entries find the same in a package whose sources read
the same and whose markers' fresh entries agree, whatever their logs; they are left with the
same current entries. -/
theorem parsePackage_congr {d₁ d₂ : Discoverer} (same : d₁.view = d₂.view) (log₁ log₂ : Report.Log)
    {t₁ t₂ : Disk.Tree} {tags : List String} {resolve₁ resolve₂ : ExternalResolver}
    {dir pkgPath : String} (sources : readPackageFiles t₁ tags dir = readPackageFiles t₂ tags dir)
    (fresh : ∀ files name, readPackageFiles t₁ tags dir = .ok (files, name) →
      ∀ m ∈ (findMarkers ⟨dir, name, pkgPath, files⟩).1,
        freshEntry resolve₁ ⟨dir, name, pkgPath, files⟩ m =
          freshEntry resolve₂ ⟨dir, name, pkgPath, files⟩ m) :
    (d₁.parsePackage log₁ t₁ tags resolve₁ dir pkgPath).1 =
        (d₂.parsePackage log₂ t₂ tags resolve₂ dir pkgPath).1 ∧
      (d₁.parsePackage log₁ t₁ tags resolve₁ dir pkgPath).2.1.view =
        (d₂.parsePackage log₂ t₂ tags resolve₂ dir pkgPath).2.1.view := by
  unfold Discoverer.parsePackage
  rw [← sources]
  split
  · exact ⟨rfl, same⟩
  · rename_i files name read
    dsimp only
    obtain ⟨view, collector, problems, skipped⟩ := @foldl_processMarker_alike
      { discoverer := d₁, log := log₁, problems := (findMarkers ⟨dir, name, pkgPath, files⟩).2 }
      { discoverer := d₂, log := log₂, problems := (findMarkers ⟨dir, name, pkgPath, files⟩).2 }
      ⟨same, rfl, rfl, rfl⟩ _ _ _ _ (fresh files name read)
    rw [collector, problems, skipped]
    exact ⟨rfl, view⟩

theorem Discoverer.Bounded.processMarker {st : Progress} (bounded : st.discoverer.Bounded)
    (resolve : ExternalResolver) (src : PackageSource) (m : Found) :
    (Discover.processMarker resolve src st m).discoverer.Bounded := by
  rw [processMarker_eq, addEntry_discoverer]
  exact bounded.entryOf resolve src m

theorem Discoverer.Bounded.foldl_processMarker {st : Progress} (bounded : st.discoverer.Bounded)
    (resolve : ExternalResolver) (src : PackageSource) (markers : List Found) :
    (markers.foldl (Discover.processMarker resolve src) st).discoverer.Bounded := by
  induction markers generalizing st with
  | nil => exact bounded
  | cons m rest ih => exact ih (bounded.processMarker resolve src m)

theorem Discoverer.Bounded.parsePackage {d : Discoverer} (bounded : d.Bounded) (log : Report.Log)
    (t : Disk.Tree) (tags : List String) (resolve : ExternalResolver) (dir pkgPath : String) :
    (d.parsePackage log t tags resolve dir pkgPath).2.1.Bounded := by
  unfold Discoverer.parsePackage
  split
  · exact bounded
  · exact @Discoverer.Bounded.foldl_processMarker { discoverer := d, log, problems := _ }
      bounded resolve _ _

end StaticWrap.Discover
