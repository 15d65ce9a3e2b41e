import Mathlib.Data.String.Basic
import StaticWrap.Proofs.Render.Qualification
/-!
**The import table as a state machine.**

A generated file's import table is built by a run of operations: qualifying a package, adding
an import path, resolving a text, and asking whether a name is taken. Along every run from a
fresh table the table stays sound (`ImportTable.Sound`), and everything below is read off that one
invariant:

* `KeepsSound`: run from a sound table, a step leaves a sound table extending it. Every operation
  keeps it (`ImportOp.keepsSound`), hence every run (`KeepsSound.mapM`).
* `ImportTable.byPath`, `ImportTable.byAlias`: the qualifier of a path and the path of a
  qualifier, inverse to each other on a sound table (`byPath_eq_some_iff_byAlias`).
* `qualify_eq_empty_iff`, `qualify_later`: qualifying gives nothing exactly for the file's own
  package and the empty path, and gives a path the same qualifier on every later call.
* `numberedAlias_first_free`: the numbered names are tried until one is free, and one is met
  before the tries run out.
* `specs_paths_sorted`, `binding_eq_qualify`: the written imports list every path once, in order,
  and each binds the qualifier of its path.
* `import_table_invariant`: all of it along every run.
-/

namespace StaticWrap.Render

open StaticWrap.Model

/-! ### Runs of operations -/

/-- An operation on an import table. -/
inductive ImportOp where
  | qualify (ref : PackageRef)
  | addImport (path : String)
  | resolve (text : String) (refs : List PackageRef)
  | isQualifier (name : String)
  deriving Repr

/-- What an operation answers: a qualifier, a resolved text, or whether a name is taken. -/
inductive ImportAnswer where
  | qualifier (q : String)
  | text (s : String)
  | taken (b : Bool)
  deriving DecidableEq, Repr

/-- One operation on the table. -/
def ImportOp.run : ImportOp → StateM ImportTable ImportAnswer
  | .qualify ref => .qualifier <$> ImportTable.qualify ref
  | .addImport path => .qualifier <$> ImportTable.addImport path
  | .resolve text refs => .text <$> ImportTable.resolve text refs
  | .isQualifier name => fun t => (.taken (t.isQualifier name), t)

/-- The table of a file of the package `self` after a run of operations. -/
def ImportTable.after (self : String) (reserved : List String) (ops : List ImportOp) :
    ImportTable :=
  ((ops.mapM ImportOp.run).run { self, reserved }).2

/-- Run from a sound table, the step leaves a sound table extending it. -/
def KeepsSound {α : Type} (m : StateM ImportTable α) : Prop :=
  ∀ t : ImportTable, t.Sound → (m.run t).2.Sound ∧ t.Extends (m.run t).2

section KeepsSound

variable {α β : Type}

theorem KeepsSound.pure (a : α) : KeepsSound (Pure.pure a : StateM ImportTable α) :=
  fun t sound => ⟨sound, .refl t⟩

theorem KeepsSound.bind {m : StateM ImportTable α} {k : α → StateM ImportTable β}
    (first : KeepsSound m) (rest : ∀ a, KeepsSound (k a)) : KeepsSound (m >>= k) := by
  intro t sound
  have run : (m >>= k).run t = (k (m.run t).1).run (m.run t).2 := rfl
  obtain ⟨sound₁, extends₁⟩ := first t sound
  obtain ⟨sound₂, extends₂⟩ := rest (m.run t).1 (m.run t).2 sound₁
  rw [run]
  exact ⟨sound₂, extends₁.trans extends₂⟩

theorem KeepsSound.map {m : StateM ImportTable α} (h : α → β) (first : KeepsSound m) :
    KeepsSound (h <$> m) := by
  intro t sound
  have run : (h <$> m).run t = (h (m.run t).1, (m.run t).2) := rfl
  rw [run]
  exact first t sound

theorem KeepsSound.mapM {F : β → StateM ImportTable α} :
    ∀ (xs : List β), (∀ x ∈ xs, KeepsSound (F x)) → KeepsSound (xs.mapM F)
  | [], _ => KeepsSound.pure []
  | x :: xs, each => by
    rw [List.mapM_cons]
    exact (each x List.mem_cons_self).bind fun a =>
      (KeepsSound.mapM xs fun y mem => each y (List.mem_cons_of_mem _ mem)).bind fun as =>
        KeepsSound.pure (a :: as)

theorem Qualifies.keepsSound {m : StateM ImportTable α} {f : ImportTable → α}
    {u : ImportTable → List (List Char)} (q : Qualifies m f u) : KeepsSound m :=
  fun t sound => ⟨(q t sound).1, (q t sound).2.1⟩

end KeepsSound

/-- Every operation keeps a table sound: the steps that qualify by `Qualifies`, and asking about
a name changes nothing. -/
theorem ImportOp.keepsSound : ∀ op : ImportOp, KeepsSound op.run
  | .qualify ref => (qualify_qualifies ref).keepsSound.map _
  | .addImport _ => (qualify_qualifies _).keepsSound.map _
  | .resolve text refs => (resolve_qualifies text refs).keepsSound.map _
  | .isQualifier _ => fun t sound => ⟨sound, .refl t⟩

theorem keepsSound_run (ops : List ImportOp) : KeepsSound (ops.mapM ImportOp.run) :=
  KeepsSound.mapM ops fun op _ => op.keepsSound

/-- Every table reached by a run is sound and keeps the package and reserved names. -/
theorem ImportTable.after_sound (self : String) (reserved : List String) (ops : List ImportOp) :
    (ImportTable.after self reserved ops).Sound ∧
      ({ self, reserved } : ImportTable).Extends (ImportTable.after self reserved ops) :=
  keepsSound_run ops _ (ImportTable.Sound.start self reserved)

/-! ### The two views of a table -/

/-- The qualifier of an imported path. -/
def ImportTable.byPath (t : ImportTable) (path : String) : Option String :=
  (t.entries.find? (·.path == path)).map (·.qualifier)

/-- The path imported under a qualifier. -/
def ImportTable.byAlias (t : ImportTable) (q : String) : Option String :=
  (t.entries.find? (·.qualifier == q)).map (·.path)

/-- Among entries with distinct keys, the search for an entry's key finds that entry. -/
theorem find?_key_of_nodup {key : ImportEntry → String} :
    ∀ {l : List ImportEntry}, (l.map key).Nodup → ∀ {e : ImportEntry}, e ∈ l →
      l.find? (key · == key e) = some e
  | [], _, _, absent => absurd absent List.not_mem_nil
  | x :: xs, nodup, e, mem => by
    rw [List.map_cons, List.nodup_cons] at nodup
    rcases List.mem_cons.1 mem with rfl | later
    · simp
    · -- the head has another key, so the search passes it
      have other : key x ≠ key e := fun same => nodup.1 (same ▸ List.mem_map_of_mem later)
      rw [List.find?_cons, beq_false_of_ne other]
      exact find?_key_of_nodup nodup.2 later

/-- A search by key finds an entry with an image exactly when some entry has that key and
image. -/
theorem find?_map_eq_some_iff {key value : ImportEntry → String} {l : List ImportEntry}
    (nodup : (l.map key).Nodup) (k v : String) :
    (l.find? (key · == k)).map value = some v ↔ ∃ e ∈ l, key e = k ∧ value e = v := by
  constructor
  · intro found
    obtain ⟨e, first, rfl⟩ := Option.map_eq_some_iff.1 found
    exact ⟨e, List.mem_of_find?_eq_some first, by simpa using List.find?_some first, rfl⟩
  · rintro ⟨e, mem, rfl, rfl⟩
    rw [find?_key_of_nodup nodup mem]
    rfl

/-- On a sound table the two views are inverse: a path has a qualifier exactly when the
qualifier has that path. -/
theorem byPath_eq_some_iff_byAlias {t : ImportTable} (sound : t.Sound) (path q : String) :
    t.byPath path = some q ↔ t.byAlias q = some path := by
  rw [ImportTable.byPath, ImportTable.byAlias, find?_map_eq_some_iff sound.paths,
    find?_map_eq_some_iff sound.qualifiers]
  exact exists_congr fun e => and_congr_right fun _ => And.comm

/-! ### Qualifying -/

theorem own_iff (ref : PackageRef) (self : String) :
    (ref.path.isEmpty || ref.path == self) = true ↔ ref.path = "" ∨ ref.path = self := by
  simp [String.isEmpty_iff]

/-- Qualifying gives no qualifier exactly for the file's own package and the empty path. -/
theorem qualify_eq_empty_iff {t : ImportTable} (sound : t.Sound) (ref : PackageRef) :
    ((ImportTable.qualify ref).run t).1 = "" ↔ ref.path = "" ∨ ref.path = t.self := by
  have run : (ImportTable.qualify ref).run t = ImportTable.qualify ref t := rfl
  rw [run, ← own_iff]
  unfold ImportTable.qualify
  by_cases own : (ref.path.isEmpty || ref.path == t.self) = true
  · simp only [own, if_true]
  · rw [if_neg own, iff_false_intro own, iff_false]
    split
    · -- an import of the path is there, under a qualifier that is not empty
      rename_i e found
      exact (sound.available e (List.mem_of_find?_eq_some found)).1
    · exact ((t.available_iff _).1 (available_pickAlias t ref.path _)).1

/-- A qualifier once given is given again on every later call for the same path, whatever name
comes with it. -/
theorem qualify_later {t T : ImportTable} (sound : t.Sound) (ref ref' : PackageRef)
    (samePath : ref.path = ref'.path) (later : ((ImportTable.qualify ref).run t).2.Extends T)
    (soundLater : T.Sound) :
    ((ImportTable.qualify ref').run T).1 = ((ImportTable.qualify ref).run t).1 := by
  obtain ⟨_, extended, value'⟩ := qualify_qualifies ref' T soundLater
  obtain ⟨_, _, value⟩ := qualify_qualifies ref t sound
  -- both answers are read off the table after the later call
  have final := later.trans extended
  have sameQualifier : ∀ U : ImportTable, U.qualifierOf ref = U.qualifierOf ref' := fun U => by
    simp only [ImportTable.qualifierOf, samePath]
  rw [(value' _ (.refl _)).1, (value _ final).1]
  exact (sameQualifier _).symm

/-! ### The numbered names -/

/-- The numbered names are tried in order: the search returns the first free one, provided one
is met before the tries run out. -/
theorem numberedAlias_first (t : ImportTable) (name : String) :
    ∀ fuel i, (∃ k < fuel, t.available (name ++ toString (i + k))) →
      ∃ k < fuel, numberedAlias t name fuel i = name ++ toString (i + k) ∧
        t.available (name ++ toString (i + k)) ∧
          ∀ j < k, t.available (name ++ toString (i + j)) = false
  | 0, _, ⟨_, lt, _⟩ => absurd lt (Nat.not_lt_zero _)
  | fuel + 1, i, ⟨k, lt, free⟩ => by
    unfold numberedAlias
    dsimp only
    split
    · rename_i first
      exact ⟨0, Nat.succ_pos _, rfl, first, fun j lt => absurd lt (Nat.not_lt_zero j)⟩
    · rename_i taken
      -- the first candidate is taken, so the free one comes later
      cases k with
      | zero => exact absurd free (by simpa using taken)
      | succ k =>
        have shifted : ∀ j, i + 1 + j = i + (j + 1) := fun j => by omega
        obtain ⟨k', lt', found, free', before⟩ :=
          numberedAlias_first t name fuel (i + 1) ⟨k, by omega, shifted k ▸ free⟩
        refine ⟨k' + 1, by omega, shifted k' ▸ found, shifted k' ▸ free', fun j lt => ?_⟩
        cases j with
        | zero => simpa using taken
        | succ j => exact shifted j ▸ before j (by omega)

/-- The search through the numbered names that a new qualifier falls back on ends at the first
free number from 2 up: with as many tries as there are names to clash with, plus one, a free
one is always met. -/
theorem numberedAlias_first_free (t : ImportTable) (name : String) :
    ∃ i, 2 ≤ i ∧
      numberedAlias t name (t.entries.length + t.reserved.length + 1) 2 = name ++ toString i ∧
        t.available (name ++ toString i) ∧
          ∀ j, 2 ≤ j → j < i → t.available (name ++ toString j) = false := by
  obtain ⟨k, _, found, free, before⟩ := numberedAlias_first t name _ 2
    (exists_available_numbered t name 2)
  refine ⟨2 + k, by omega, found, free, fun j low high => ?_⟩
  have shifted : 2 + (j - 2) = j := by omega
  exact shifted ▸ before (j - 2) (by omega)

/-! ### The written imports -/

/-- The name the package at a path is recorded to declare. -/
def ImportTable.declaredOf (t : ImportTable) (path : String) : String :=
  ((t.entries.find? (·.path == path)).map (·.declared)).getD ""

/-- The identifier an import binds: its alias, or else the name its package declares. -/
def ImportTable.binding (t : ImportTable) (s : ImportSpec) : String :=
  if s.localName.isEmpty then t.declaredOf s.path else s.localName

/-- The import written for an entry. -/
def ImportEntry.spec (e : ImportEntry) : ImportSpec :=
  { localName := if e.qualifier != e.declared then e.qualifier else "", path := e.path }

theorem specs_eq (t : ImportTable) :
    t.specs = (Text.sortBy (·.path) t.entries).map ImportEntry.spec := rfl

theorem specs_paths (t : ImportTable) :
    t.specs.map (·.path) = (Text.sortBy (·.path) t.entries).map (·.path) := by
  rw [specs_eq, List.map_map]
  rfl

theorem sortBy_perm (t : ImportTable) : (Text.sortBy (·.path) t.entries).Perm t.entries :=
  List.mergeSort_perm _ _

/-- The written imports are those of the table's entries. -/
@[simp] theorem mem_specs {t : ImportTable} {s : ImportSpec} :
    s ∈ t.specs ↔ ∃ e ∈ t.entries, e.spec = s := by
  rw [specs_eq, List.mem_map]
  exact exists_congr fun e => and_congr_left fun _ => (sortBy_perm t).mem_iff

/-- The written imports list the paths of the table, sorted, each once. -/
theorem specs_paths_sorted {t : ImportTable} (sound : t.Sound) :
    (t.specs.map (·.path)).Pairwise (· < ·) := by
  have distinct : (t.specs.map (·.path)).Nodup := by
    rw [specs_paths]
    exact ((sortBy_perm t).map _).nodup_iff.2 sound.paths
  have ordered : (t.specs.map (·.path)).Pairwise (· ≤ ·) := by
    rw [specs_paths, List.pairwise_map]
    refine (List.pairwise_mergeSort (fun a b c ab bc => ?_) (fun a b => ?_) t.entries).imp ?_
    · simp only [Text.textLe, decide_eq_true_eq] at ab bc ⊢
      exact le_trans ab bc
    · simp only [Text.textLe, Bool.or_eq_true, decide_eq_true_eq]
      exact le_total _ _
    · intro a b le
      simpa [Text.textLe] using le
  exact (ordered.and distinct).imp fun ⟨le, ne⟩ => lt_of_le_of_ne le ne

theorem mem_specs_paths_iff {t : ImportTable} (path : String) :
    path ∈ t.specs.map (·.path) ↔ (t.byPath path).isSome := by
  rw [specs_paths, ((sortBy_perm t).map _).mem_iff, ImportTable.byPath, Option.isSome_map,
    List.find?_isSome]
  simp

/-- The recorded name of an entry's path is the entry's own. -/
theorem declaredOf_entry {t : ImportTable} (sound : t.Sound) {e : ImportEntry}
    (mem : e ∈ t.entries) : t.declaredOf e.path = e.declared := by
  rw [ImportTable.declaredOf, find?_key_of_nodup sound.paths mem]
  rfl

theorem byPath_entry {t : ImportTable} (sound : t.Sound) {e : ImportEntry}
    (mem : e ∈ t.entries) : t.byPath e.path = some e.qualifier := by
  rw [ImportTable.byPath, find?_key_of_nodup sound.paths mem]
  rfl

/-- An entry's import is written without alias exactly when its qualifier is the recorded
name, and either way it binds the qualifier. -/
theorem entry_spec {t : ImportTable} (sound : t.Sound) {e : ImportEntry} (mem : e ∈ t.entries) :
    (e.spec.localName = "" ↔ e.qualifier = e.declared) ∧ t.binding e.spec = e.qualifier := by
  have nonempty := (sound.available e mem).1
  by_cases same : e.qualifier = e.declared
  · have plain : e.spec.localName = "" := by simp [ImportEntry.spec, same]
    refine ⟨iff_of_true plain same, ?_⟩
    have unaliased : t.binding e.spec = t.declaredOf e.path := by
      simp only [ImportTable.binding, plain, String.isEmpty_iff, if_true]
      rfl
    rw [unaliased, declaredOf_entry sound mem, same]
  · have aliased : e.spec.localName = e.qualifier := by simp [ImportEntry.spec, same]
    refine ⟨iff_of_false (aliased ▸ nonempty) same, ?_⟩
    have named : e.qualifier.isEmpty = false := by simpa [String.isEmpty_iff] using nonempty
    simp only [ImportTable.binding, aliased, named, Bool.false_eq_true, if_false]

theorem localName_eq_empty_iff {t : ImportTable} (sound : t.Sound) {s : ImportSpec}
    (mem : s ∈ t.specs) : s.localName = "" ↔ t.byPath s.path = some (t.declaredOf s.path) := by
  obtain ⟨e, entry, rfl⟩ := mem_specs.1 mem
  rw [(entry_spec sound entry).1, show e.spec.path = e.path from rfl, byPath_entry sound entry,
    declaredOf_entry sound entry, Option.some_inj]

/-- Each written import binds the qualifier that qualifying its path gives, whatever name comes
with the path. -/
theorem binding_eq_qualify {t : ImportTable} (sound : t.Sound) {s : ImportSpec}
    (mem : s ∈ t.specs) (name : String) :
    ((ImportTable.qualify ⟨s.path, name⟩).run t).1 = t.binding s := by
  obtain ⟨e, entry, rfl⟩ := mem_specs.1 mem
  have run : (ImportTable.qualify ⟨e.path, name⟩).run t = ImportTable.qualify ⟨e.path, name⟩ t :=
    rfl
  have outside : (e.path.isEmpty || e.path == t.self) = false := by
    obtain ⟨nonempty, notSelf⟩ := sound.outside e entry
    simpa [String.isEmpty_iff] using ⟨nonempty, notSelf⟩
  rw [(entry_spec sound entry).2, show e.spec.path = e.path from rfl, run]
  unfold ImportTable.qualify
  simp only [outside, Bool.false_eq_true, if_false, find?_key_of_nodup sound.paths entry]

/-- The identifiers bound by the written imports are pairwise distinct. -/
theorem bindings_nodup {t : ImportTable} (sound : t.Sound) : (t.specs.map t.binding).Nodup := by
  have same : t.specs.map t.binding = (Text.sortBy (·.path) t.entries).map (·.qualifier) := by
    rw [specs_eq, List.map_map]
    refine List.map_congr_left fun e mem => ?_
    exact (entry_spec sound ((sortBy_perm t).mem_iff.1 mem)).2
  rw [same]
  exact ((sortBy_perm t).map _).nodup_iff.2 sound.qualifiers

/-! ### Along every run -/

/-- Along every run of operations on a fresh table of the package `self` with reserved names
`reserved`: the qualifier of a path and the path of a qualifier are inverse to each other; no
qualifier given out is empty, `_` or reserved; qualifying gives no qualifier exactly for `self`
and the empty path, and gives a path the same qualifier on every later call, whatever name comes
with it; the numbered search for a new qualifier ends at the first free number; and the
written imports list every path once, sorted, without alias exactly when the qualifier is the
recorded name, binding pairwise distinct identifiers, each the qualifier of its path. -/
theorem import_table_invariant (self : String) (reserved : List String) (ops : List ImportOp) :
    let T := ImportTable.after self reserved ops
    (∀ path q, T.byPath path = some q ↔ T.byAlias q = some path) ∧
    (∀ e ∈ T.entries, e.qualifier ≠ "" ∧ e.qualifier ≠ "_" ∧ e.qualifier ∉ reserved) ∧
    (∀ ref : PackageRef, ((ImportTable.qualify ref).run T).1 = "" ↔
      ref.path = "" ∨ ref.path = self) ∧
    (∀ (ref : PackageRef) (name : String) (more : List ImportOp),
      let first := (ImportTable.qualify ref).run T
      ((ImportTable.qualify ⟨ref.path, name⟩).run ((more.mapM ImportOp.run).run first.2).2).1 =
        first.1) ∧
    (∀ name, ∃ i, 2 ≤ i ∧
      numberedAlias T name (T.entries.length + T.reserved.length + 1) 2 = name ++ toString i ∧
        T.available (name ++ toString i) ∧
          ∀ j, 2 ≤ j → j < i → T.available (name ++ toString j) = false) ∧
    (∀ path, path ∈ T.specs.map (·.path) ↔ (T.byPath path).isSome) ∧
    (T.specs.map (·.path)).Pairwise (· < ·) ∧
    (∀ s ∈ T.specs, s.localName = "" ↔ T.byPath s.path = some (T.declaredOf s.path)) ∧
    (T.specs.map T.binding).Nodup ∧
    (∀ s ∈ T.specs, ∀ name, ((ImportTable.qualify ⟨s.path, name⟩).run T).1 = T.binding s) := by
  intro T
  obtain ⟨sound, fromStart⟩ := ImportTable.after_sound self reserved ops
  have reservedSame : T.reserved = reserved := fromStart.reserved.symm
  have selfSame : T.self = self := fromStart.self.symm
  refine ⟨byPath_eq_some_iff_byAlias sound, fun e mem => reservedSame ▸ sound.available e mem,
    fun ref => selfSame ▸ qualify_eq_empty_iff sound ref, fun ref name more => ?_,
    numberedAlias_first_free T, mem_specs_paths_iff, specs_paths_sorted sound,
    fun s mem => localName_eq_empty_iff sound mem, bindings_nodup sound,
    fun s mem name => binding_eq_qualify sound mem name⟩
  -- the later call sees a sound table extending the one the first call left
  obtain ⟨soundFirst, _⟩ := (qualify_qualifies ref).keepsSound T sound
  obtain ⟨soundLater, later⟩ := keepsSound_run more _ soundFirst
  exact qualify_later sound ref ⟨ref.path, name⟩ rfl later soundLater

end StaticWrap.Render
