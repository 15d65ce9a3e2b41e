import StaticWrap.Model.Package
/-!
**Reference lists and the placeholders written against them.**

`addRef` grows a list of package references: it returns the index of a path already present,
or appends the reference (`addRef_index`, `addRef_findIdx?`, `addRef_distinct`).

* `placedIn later`: the qualifier that writes the placeholder of a package's path in `later`,
  and fails when `later` lacks the path (`placedIn_eq_some`).
* `Settles act view`: run from a list with distinct paths, `act` only adds references, keeps the
  paths distinct, and returns what `view` gives against every list extending its result. The
  rules `Settles.pure`, `Settles.bind`, `Settles.forIn`, `Settles.mapM` carry it along a
  program, from `settles_refText` for the qualifier that numbers packages.
-/

namespace StaticWrap.Model

/-- No two references of a list share a path. -/
def PathsDistinct (refs : List PackageRef) : Prop := (refs.map (·.path)).Nodup

instance : DecidablePred PathsDistinct := fun refs =>
  inferInstanceAs (Decidable (refs.map (·.path)).Nodup)

/-- The placeholder of a package against a list of references: that of the first reference
with its path, when the list holds one. -/
def placedIn (later : List PackageRef) (r : PackageRef) : Option String :=
  (later.findIdx? (·.path == r.path)).map placeholder

/-- Where a path is found, the list holds a reference with that path. -/
theorem path_at_findIdx? {later : List PackageRef} {r : PackageRef} {i : Nat}
    (found : later.findIdx? (·.path == r.path) = some i) :
    (later[i]?).map (·.path) = some r.path := by
  obtain ⟨inside, same, -⟩ := List.findIdx?_eq_some_iff_getElem.1 found
  rw [List.getElem?_eq_getElem inside]
  simpa using same

/-- What `placedIn` writes is the placeholder of an index where the list holds the package's
path. -/
theorem placedIn_eq_some {later : List PackageRef} {r : PackageRef} {s : String}
    (placed : placedIn later r = some s) :
    ∃ i, s = placeholder i ∧ (later[i]?).map (·.path) = some r.path := by
  obtain ⟨i, found, rfl⟩ := Option.map_eq_some_iff.1 placed
  exact ⟨i, rfl, path_at_findIdx? found⟩

/-- The index `addRef` hands out is where the path first stands in every later list, and the
list only grows. -/
theorem addRef_index (refs : List PackageRef) (ref : PackageRef) {later : List PackageRef}
    (extends_ : (addRef refs ref).1 <+: later) :
    refs <+: (addRef refs ref).1 ∧ later.findIdx (·.path == ref.path) = (addRef refs ref).2 := by
  obtain ⟨more, rfl⟩ := extends_
  unfold addRef
  cases found : refs.findIdx? (·.path == ref.path) with
  | some i =>
    obtain ⟨inside, first⟩ := List.findIdx?_eq_some_iff_findIdx_eq.1 found
    refine ⟨List.prefix_refl refs, ?_⟩
    dsimp only
    rw [List.findIdx_append, first, if_pos inside]
  | none =>
    have absent : refs.findIdx (·.path == ref.path) = refs.length :=
      List.findIdx_eq_length.2 (List.findIdx?_eq_none_iff.1 found)
    refine ⟨List.prefix_append refs [ref], ?_⟩
    dsimp only
    rw [List.append_assoc, List.findIdx_append, absent, if_neg (Nat.lt_irrefl _)]
    simp [List.findIdx_cons]

theorem addRef_length_le (refs : List PackageRef) (ref : PackageRef) :
    (addRef refs ref).1.length ≤ refs.length + 1 := by
  unfold addRef
  split <;> simp

theorem addRef_distinct {refs : List PackageRef} (ref : PackageRef)
    (distinct : PathsDistinct refs) : PathsDistinct (addRef refs ref).1 := by
  unfold addRef
  split
  · exact distinct
  · rename_i absent
    have fresh : ∀ r ∈ refs, ¬r.path = ref.path := by
      simpa [List.findIdx?_eq_none_iff] using absent
    simpa [PathsDistinct, List.nodup_append] using And.intro distinct fresh

/-- The index `addRef` hands out is found in every list that extends its result. -/
theorem addRef_findIdx? {refs later : List PackageRef} {ref : PackageRef}
    (extends_ : (addRef refs ref).1 <+: later) :
    later.findIdx? (·.path == ref.path) = some (addRef refs ref).2 := by
  have inside : (addRef refs ref).2 < (addRef refs ref).1.length := by
    unfold addRef
    split
    · rename_i found
      exact (List.findIdx?_eq_some_iff_findIdx_eq.1 found).1
    · simp
  exact List.findIdx?_eq_some_iff_findIdx_eq.2
    ⟨Nat.lt_of_lt_of_le inside extends_.length_le, (addRef_index refs ref extends_).2⟩

/-- The index `addRef` hands out holds a reference with the path asked for. -/
theorem addRef_path (refs : List PackageRef) (ref : PackageRef) :
    ((addRef refs ref).1[(addRef refs ref).2]?).map (·.path) = some ref.path :=
  path_at_findIdx? (addRef_findIdx? (List.prefix_refl _))

/-- `Settles act view`: run from references whose paths are distinct, `act` only adds
references and keeps the paths distinct, and what it returns is what `view` gives against every
list that extends the references it leaves. -/
def Settles {α : Type} (act : StateM (List PackageRef) α) (view : List PackageRef → Option α) :
    Prop :=
  ∀ refs, PathsDistinct refs → refs <+: (act.run refs).2 ∧ PathsDistinct (act.run refs).2 ∧
    ∀ later, (act.run refs).2 <+: later → view later = some (act.run refs).1

namespace Settles

variable {α β γ : Type}

theorem pure (a : α) : Settles (Pure.pure a) (fun _ => some a) :=
  fun refs distinct => ⟨List.prefix_refl refs, distinct, fun _ _ => rfl⟩

/-- The second step runs from what the first leaves, so a list extending the end extends
both. -/
theorem bind {x : StateM (List PackageRef) α} {f : α → StateM (List PackageRef) β}
    {v : List PackageRef → Option α} {w : α → List PackageRef → Option β}
    (first : Settles x v) (next : ∀ a, Settles (f a) (w a)) :
    Settles (x >>= f) (fun later => v later >>= fun a => w a later) := by
  intro refs distinct
  obtain ⟨grow, distinct', seen⟩ := first refs distinct
  obtain ⟨grow', distinct'', seen'⟩ := next (x.run refs).1 (x.run refs).2 distinct'
  refine ⟨grow.trans grow', distinct'', fun later extends_ => ?_⟩
  show (v later >>= fun a => w a later) = some ((f (x.run refs).1).run (x.run refs).2).1
  rw [seen later (grow'.trans extends_)]
  exact seen' later extends_

theorem forIn {xs : List β} {init : γ} {f : β → γ → StateM (List PackageRef) (ForInStep γ)}
    {g : List PackageRef → β → γ → Option (ForInStep γ)}
    (body : ∀ x acc, Settles (f x acc) (fun later => g later x acc)) :
    Settles (ForIn.forIn xs init f) (fun later => ForIn.forIn xs init (g later)) := by
  induction xs generalizing init with
  | nil => exact pure init
  | cons x xs ih =>
    simp only [List.forIn_cons]
    refine bind (body x init) fun step => ?_
    cases step with
    | done acc => exact pure acc
    | yield acc => exact ih

theorem mapM {xs : List β} {f : β → StateM (List PackageRef) γ}
    {g : List PackageRef → β → Option γ}
    (each : ∀ x, Settles (f x) (fun later => g later x)) :
    Settles (xs.mapM f) (fun later => xs.mapM (g later)) := by
  induction xs with
  | nil => exact pure []
  | cons x xs ih =>
    simp only [List.mapM_cons]
    exact bind (each x) fun a => bind ih fun as => pure (a :: as)

/-- Run from no references, the result has distinct paths and is what the view gives
against them. -/
theorem run_nil {act : StateM (List PackageRef) α} {view : List PackageRef → Option α}
    (settles : Settles act view) :
    PathsDistinct (act.run []).2 ∧ view (act.run []).2 = some (act.run []).1 := by
  obtain ⟨-, distinct, seen⟩ := settles [] List.nodup_nil
  exact ⟨distinct, seen _ (List.prefix_refl _)⟩

end Settles

/-- The qualifier that numbers packages writes what `placedIn` writes against every list that
extends the references it leaves. -/
theorem settles_refText (r : PackageRef) : Settles (refText r) (fun later => placedIn later r) :=
  fun refs distinct => ⟨(addRef_index refs r (List.prefix_refl _)).1, addRef_distinct r distinct,
    fun later extends_ => by
      simp only [placedIn, addRef_findIdx? extends_]
      rfl⟩

end StaticWrap.Model
