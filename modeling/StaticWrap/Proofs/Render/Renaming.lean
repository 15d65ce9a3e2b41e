import Mathlib.Data.List.Nodup
import StaticWrap.Render.Signature
/-!
**Renaming parameters apart.**

`normalizeParams` gives every parameter of a forwarded function a name the wrapper can use. A
parameter without a usable name (empty or `_`) at position `i` starts from `p<i>`, one whose
name is reserved from that name with an underscore; either then takes further underscores
while its name is taken, a keyword or reserved. Every other parameter keeps its name. The
search for a free name is bounded, and the bound always suffices: the candidates differ in
length, so of `n + 1` of them at most `n` are among `n` names.

* `Renamed`: what a run of the renaming over a list establishes, position by position
  (`renamed_renameParams`).
* `normalizeParams_renames_apart`: when the usable names are distinct and no keyword, the
  result has the input's length, types and passing kinds; its names are usable, distinct, no
  keyword and not reserved; a usable unreserved name is kept, and a missing one at position `i`
  becomes `p<i>`, a reserved one itself and `_`, followed by the fewest underscores that make
  it fresh: no keyword, not reserved and the name of no other parameter.
-/

namespace StaticWrap.Render

open StaticWrap.Model

/-! ### Candidates -/

def underscores (k : Nat) : String := String.ofList (List.replicate k '_')

@[simp] theorem underscores_zero : underscores 0 = "" := rfl

@[simp] theorem length_underscores (k : Nat) : (underscores k).length = k := by
  simp [underscores]

theorem underscores_succ (k : Nat) : underscores (k + 1) = "_" ++ underscores k := by
  simp [underscores, List.replicate_succ]

/-- The candidate after a blocked one. -/
theorem append_underscores_succ (s : String) (k : Nat) :
    s ++ "_" ++ underscores k = s ++ underscores (k + 1) := by
  rw [underscores_succ, String.append_assoc]

theorem append_underscores_injective (s : String) {j k : Nat}
    (same : s ++ underscores j = s ++ underscores k) : j = k := by
  have lengths := congrArg String.length same
  simpa [String.length_append] using lengths

/-- `name` is `base` followed by underscores, and every shorter such candidate is blocked. -/
def FirstAfter (blocked : String → Prop) (base name : String) : Prop :=
  ∃ k, name = base ++ underscores k ∧ ∀ j < k, blocked (base ++ underscores j)

theorem FirstAfter.mono {blocked blocked' : String → Prop} {base name : String}
    (first : FirstAfter blocked base name) (weaker : ∀ c, blocked c → blocked' c) :
    FirstAfter blocked' base name := by
  obtain ⟨k, named, before⟩ := first
  exact ⟨k, named, fun j lt => weaker _ (before j lt)⟩

/-! ### The bounded search -/

/-- The search returns the first free candidate, provided one lies within the bound. -/
theorem unblock_first (blocked : String → Bool) :
    ∀ fuel s, (∃ k < fuel, blocked (s ++ underscores k) = false) →
      ∃ k < fuel, unblock blocked fuel s = s ++ underscores k ∧
        blocked (s ++ underscores k) = false ∧ ∀ j < k, blocked (s ++ underscores j) = true
  | 0, _, ⟨_, lt, _⟩ => absurd lt (Nat.not_lt_zero _)
  | fuel + 1, s, ⟨k, lt, free⟩ => by
    unfold unblock
    split
    · rename_i first
      -- the name itself is blocked, so the free candidate comes later
      cases k with
      | zero => exact absurd free (by simpa using first)
      | succ k =>
        obtain ⟨k', lt', found, free', before⟩ := unblock_first blocked fuel (s ++ "_")
          ⟨k, by omega, by rwa [append_underscores_succ]⟩
        rw [append_underscores_succ] at found free'
        refine ⟨k' + 1, by omega, found, free', fun j lt => ?_⟩
        cases j with
        | zero => simpa using first
        | succ j => simpa [append_underscores_succ] using before j (by omega)
    · rename_i free
      exact ⟨0, by omega, by simp, by simpa using free, fun j lt => absurd lt (Nat.not_lt_zero j)⟩

/-- Of as many candidates as there are names to avoid, plus one, one avoids them all. -/
theorem exists_unblocked (blocked : String → Bool) (names : List String)
    (covered : ∀ c, blocked c = true → c ∈ names) (s : String) :
    ∃ k < names.length + 1, blocked (s ++ underscores k) = false := by
  apply Classical.byContradiction
  intro noneFree
  have distinct : ((List.range (names.length + 1)).map fun k => s ++ underscores k).Nodup :=
    List.Nodup.map (fun _ _ same => append_underscores_injective s same) List.nodup_range
  have within : ((List.range (names.length + 1)).map fun k => s ++ underscores k) ⊆ names := by
    intro c mem
    obtain ⟨k, lt, rfl⟩ := List.mem_map.1 mem
    exact covered _ (by simpa using fun free => noneFree ⟨k, List.mem_range.1 lt, free⟩)
  have := distinct.length_le_of_subset within
  simp only [List.length_map, List.length_range] at this
  omega

/-! ### One parameter -/

/-- A name that can stand as it is: neither empty nor `_`. -/
def usable (name : String) : Bool := !name.isEmpty && name != "_"

theorem usable_append {s : String} (named : usable s = true) (t : String) :
    usable (s ++ t) = true := by
  simp only [usable, Bool.and_eq_true, Bool.not_eq_true', String.isEmpty_eq_false_iff,
    bne_iff_ne, ne_eq] at named ⊢
  refine ⟨fun empty => named.1 (String.append_eq_empty_iff.1 empty).1, fun single => ?_⟩
  have lengths := congrArg String.length single
  have : s.length ≠ 0 := fun zero => named.1 (String.length_eq_zero_iff.1 zero)
  have : t.length = 0 := by
    have underscore : ("_" : String).length = 1 := rfl
    simp only [String.length_append, underscore] at lengths
    omega
  rw [String.length_eq_zero_iff.1 this, String.append_empty] at single
  exact named.2 single

theorem usable_eq_true {name : String} :
    usable name = true ↔ name.isEmpty = false ∧ (name == "_") = false := by
  simp [usable, bne]

theorem usable_eq_false {name : String} :
    usable name = false ↔ (name.isEmpty || name == "_") = true := by
  cases empty : name.isEmpty <;> cases under : (name == "_") <;> simp [usable, bne, empty, under]

theorem usable_positional (i : Nat) : usable ("p" ++ toString i) = true :=
  usable_append (by decide) _

/-- The names a renamed parameter avoids: those taken, the keywords and the reserved ones. -/
def blockedBy (reserved taken : List String) (name : String) : Bool :=
  taken.contains name || Go.isKeyword name || reserved.contains name

/-- The number of tries the renaming allows. -/
def renameBound (reserved taken : List String) : Nat :=
  taken.length + reserved.length + Go.keywords.length + 1

section Steps

variable (reserved : List String) (taken : List String) (i : Nat) (p : Param) (ps : List Param)

theorem renameParams_kept (named : usable p.name = true) (free : p.name ∉ reserved) :
    renameParams reserved taken i (p :: ps) = p :: renameParams reserved taken (i + 1) ps := by
  obtain ⟨nonempty, plain⟩ := usable_eq_true.1 named
  simp [renameParams, nonempty, plain, free]

theorem renameParams_blank (blank : usable p.name = false) :
    renameParams reserved taken i (p :: ps) =
      let name := unblock (blockedBy reserved taken) (renameBound reserved taken)
        ("p" ++ toString i)
      { p with name } :: renameParams reserved (name :: taken) (i + 1) ps := by
  simp only [renameParams, usable_eq_false.1 blank, if_true]
  rfl

theorem renameParams_reserved (named : usable p.name = true) (held : p.name ∈ reserved) :
    renameParams reserved taken i (p :: ps) =
      let name := unblock (blockedBy reserved taken) (renameBound reserved taken) (p.name ++ "_")
      { p with name } :: renameParams reserved (name :: taken) (i + 1) ps := by
  obtain ⟨nonempty, plain⟩ := usable_eq_true.1 named
  simp only [renameParams, nonempty, plain, Bool.false_or, Bool.false_eq_true, if_false,
    List.contains_iff_mem, held, if_true]
  rfl

/-- A renamed parameter's name is the first candidate clear of the names it avoids. -/
theorem unblock_free (s : String) :
    ∃ k, unblock (blockedBy reserved taken) (renameBound reserved taken) s = s ++ underscores k ∧
      blockedBy reserved taken (s ++ underscores k) = false ∧
        ∀ j < k, blockedBy reserved taken (s ++ underscores j) = true := by
  have covered : ∀ c, blockedBy reserved taken c = true → c ∈ taken ++ reserved ++ Go.keywords := by
    intro c blocked
    simp only [blockedBy, Go.isKeyword, Bool.or_eq_true, List.contains_iff_mem] at blocked
    grind
  obtain ⟨k, lt, free⟩ := exists_unblocked _ _ covered s
  obtain ⟨k, _, found, free, before⟩ := unblock_first (blockedBy reserved taken)
    (renameBound reserved taken) s ⟨k, by simpa [renameBound, Nat.add_assoc] using lt, free⟩
  exact ⟨k, found, free, before⟩

theorem blockedBy_false {name : String} (free : blockedBy reserved taken name = false) :
    name ∉ taken ∧ Go.isKeyword name = false ∧ name ∉ reserved := by
  simpa [blockedBy, List.contains_iff_mem, and_assoc] using free

end Steps

/-- No name the renaming gives is reserved, whatever the list: a kept name is not reserved,
and a new one is searched clear of the reserved names. -/
theorem renameParams_not_reserved (reserved : List String) :
    ∀ (taken : List String) (i : Nat) (ps : List Param),
      ∀ q ∈ renameParams reserved taken i ps, q.name ∉ reserved
  | _, _, [] => fun _ mem => absurd mem List.not_mem_nil
  | taken, i, p :: ps => by
    intro q mem
    cases named : usable p.name with
    | false =>
      rw [renameParams_blank reserved taken i p ps named] at mem
      rcases List.mem_cons.1 mem with rfl | later
      · obtain ⟨k, found, free, _⟩ := unblock_free reserved taken ("p" ++ toString i)
        rw [found]
        exact (blockedBy_false reserved taken free).2.2
      · exact renameParams_not_reserved reserved _ _ ps q later
    | true =>
      by_cases held : p.name ∈ reserved
      · rw [renameParams_reserved reserved taken i p ps named held] at mem
        rcases List.mem_cons.1 mem with rfl | later
        · obtain ⟨k, found, free, _⟩ := unblock_free reserved taken (p.name ++ "_")
          rw [found]
          exact (blockedBy_false reserved taken free).2.2
        · exact renameParams_not_reserved reserved _ _ ps q later
      · rw [renameParams_kept reserved taken i p ps named held] at mem
        rcases List.mem_cons.1 mem with rfl | later
        · exact held
        · exact renameParams_not_reserved reserved _ _ ps q later

theorem normalizeParams_not_reserved (params : List Param) (reserved : List String) :
    ∀ q ∈ normalizeParams params reserved, q.name ∉ reserved :=
  renameParams_not_reserved reserved _ 0 params

/-! ### A run over a list -/

/-- A candidate is blocked for a position: taken when the run started, a keyword, reserved,
or the name of an earlier position. -/
def Blocked (reserved taken before : List String) (c : String) : Prop :=
  c ∈ taken ∨ Go.isKeyword c = true ∨ c ∈ reserved ∨ c ∈ before

/-- What the run leaves at position `i`, where `p` became `q`: `taken` holds the names in use
when the run started, `before` the names of the earlier positions. -/
structure SlotRenamed (reserved taken : List String) (i : Nat) (before : List String)
    (p q : Param) : Prop where
  type : q.type = p.type
  passing : q.passing = p.passing
  kept : usable p.name = true → p.name ∉ reserved → q.name = p.name
  blank : usable p.name = false →
    FirstAfter (Blocked reserved taken before) ("p" ++ toString i) q.name
  held : usable p.name = true → p.name ∈ reserved →
    FirstAfter (Blocked reserved taken before) (p.name ++ "_") q.name

/-- What a run over `ps` from position `i`, with the names `taken` in use, leaves as `out`. -/
structure Renamed (reserved taken : List String) (i : Nat) (ps out : List Param) : Prop where
  length : out.length = ps.length
  allowed : ∀ q ∈ out, usable q.name = true ∧ Go.isKeyword q.name = false ∧ q.name ∉ reserved
  nodup : (out.map (·.name)).Nodup
  avoids : ∀ q ∈ out, q.name ∈ taken → q.name ∈ ps.map (·.name)
  slots : ∀ m p q, ps[m]? = some p → out[m]? = some q →
    SlotRenamed reserved taken (i + m) ((out.take m).map (·.name)) p q

section Run

variable {reserved taken : List String} {i : Nat}

theorem Renamed.nil : Renamed reserved taken i [] [] :=
  ⟨rfl, by simp, List.nodup_nil, by simp, by simp⟩

/-- The slots of the rest of a run, read one position further on. -/
theorem SlotRenamed.shift {taken' before' : List String} {p q : Param} {i' : Nat}
    (slot : SlotRenamed reserved taken' i' before' p q) (index : i' = i)
    {before : List String} (weaker : ∀ c, Blocked reserved taken' before' c →
      Blocked reserved taken before c) :
    SlotRenamed reserved taken i before p q := by
  subst index
  exact ⟨slot.type, slot.passing, slot.kept, fun blank => (slot.blank blank).mono weaker,
    fun named held => (slot.held named held).mono weaker⟩

/-- The rest's positions, behind a head `q`. -/
theorem Renamed.tail_slots {ps out : List Param} {q : Param} {taken' : List String}
    (rest : Renamed reserved taken' (i + 1) ps out)
    (weaker : ∀ c before, Blocked reserved taken' before c →
      Blocked reserved taken (q.name :: before) c) :
    ∀ m p' q', ps[m]? = some p' → out[m]? = some q' →
      SlotRenamed reserved taken (i + (m + 1)) (((q :: out).take (m + 1)).map (·.name)) p' q' :=
  fun m _ _ atP atQ => (rest.slots m _ _ atP atQ).shift (by omega) (weaker · _)

/-- A usable unreserved name heads the run unchanged. -/
theorem Renamed.cons_kept {p : Param} {ps out : List Param}
    (rest : Renamed reserved taken (i + 1) ps out) (named : usable p.name = true)
    (free : p.name ∉ reserved) (notKeyword : Go.isKeyword p.name = false)
    (inUse : p.name ∈ taken) (alone : p.name ∉ (ps.map (·.name)).filter usable) :
    Renamed reserved taken i (p :: ps) (p :: out) := by
  refine ⟨by simp [rest.length], ?_, ?_, ?_, ?_⟩
  · intro q mem
    rcases List.mem_cons.1 mem with rfl | later
    · exact ⟨named, notKeyword, free⟩
    · exact rest.allowed q later
  · -- a later parameter with the same name kept it, and then it is a usable name twice
    refine List.nodup_cons.2 ⟨fun mem => alone ?_, rest.nodup⟩
    obtain ⟨q, later, same⟩ := List.mem_map.1 mem
    have input : q.name ∈ ps.map (·.name) := rest.avoids q later (by rw [same]; exact inUse)
    exact List.mem_filter.2 ⟨by rwa [same] at input, named⟩
  · intro q mem _
    rcases List.mem_cons.1 mem with rfl | later
    · exact List.mem_cons_self
    · exact List.mem_cons_of_mem _ (rest.avoids q later ‹_›)
  · intro m p' q' atP atQ
    cases m with
    | zero =>
      cases atP
      cases atQ
      exact ⟨rfl, rfl, fun _ _ => rfl, fun blank => absurd named (by simp [blank]),
        fun _ held => absurd held free⟩
    | succ m =>
      exact rest.tail_slots (fun c before blocked => by
        rcases blocked with inUse | keyword | held | earlier
        exacts [.inl inUse, .inr (.inl keyword), .inr (.inr (.inl held)),
          .inr (.inr (.inr (List.mem_cons_of_mem _ earlier)))]) m p' q' atP atQ

/-- A parameter renamed to a name clear of those in use heads the run under that name. -/
theorem Renamed.cons_renamed {p : Param} {ps out : List Param} {name : String}
    (rest : Renamed reserved (name :: taken) (i + 1) ps out)
    (unused : name ∉ taken) (named : usable name = true) (notKeyword : Go.isKeyword name = false)
    (free : name ∉ reserved) (covers : ∀ p' ∈ ps, usable p'.name = true → p'.name ∈ taken)
    (head : SlotRenamed reserved taken i [] p { p with name }) :
    Renamed reserved taken i (p :: ps) ({ p with name } :: out) := by
  refine ⟨by simp [rest.length], ?_, ?_, ?_, ?_⟩
  · intro q mem
    rcases List.mem_cons.1 mem with rfl | later
    · exact ⟨named, notKeyword, free⟩
    · exact rest.allowed q later
  · -- a later parameter named so kept an input name, and every usable input name is in use
    refine List.nodup_cons.2 ⟨fun mem => ?_, rest.nodup⟩
    obtain ⟨q, later, same⟩ := List.mem_map.1 mem
    have input : q.name ∈ ps.map (·.name) :=
      rest.avoids q later (by rw [same]; exact List.mem_cons_self)
    obtain ⟨p', inputs, spelled⟩ := List.mem_map.1 input
    have inUse : p'.name ∈ taken := covers p' inputs (by rw [spelled, same]; exact named)
    exact unused (by rwa [spelled, same] at inUse)
  · intro q mem inUse
    rcases List.mem_cons.1 mem with rfl | later
    · exact absurd inUse unused
    · exact List.mem_cons_of_mem _ (rest.avoids q later (List.mem_cons_of_mem _ inUse))
  · intro m p' q' atP atQ
    cases m with
    | zero =>
      cases atP
      cases atQ
      exact head
    | succ m =>
      exact rest.tail_slots (fun c before blocked => by
        rcases blocked with inUse | keyword | held | earlier
        · rcases List.mem_cons.1 inUse with rfl | old
          · exact .inr (.inr (.inr List.mem_cons_self))
          · exact .inl old
        exacts [.inr (.inl keyword), .inr (.inr (.inl held)),
          .inr (.inr (.inr (List.mem_cons_of_mem _ earlier)))]) m p' q' atP atQ

/-- The head slot of a parameter renamed from `s`: its name is `s` with the fewest underscores
that clear the names in use, and it keeps its type and passing kind. -/
theorem slot_of_unblock {s name : String}
    (found : ∃ k, name = s ++ underscores k ∧ ∀ j < k, blockedBy reserved taken (s ++ underscores j) = true) :
    FirstAfter (Blocked reserved taken []) s name := by
  obtain ⟨k, spelled, before⟩ := found
  refine ⟨k, spelled, fun j lt => ?_⟩
  have blocked := before j lt
  simp only [blockedBy, Go.isKeyword, Bool.or_eq_true, List.contains_iff_mem] at blocked
  unfold Blocked Go.isKeyword
  simp only [List.contains_iff_mem]
  tauto

end Run

/-- **Every run of the renaming establishes `Renamed`**, when the usable names of the list are
in use, distinct and no keyword. The induction follows the list; `taken` grows by each new
name. -/
theorem renamed_renameParams (reserved : List String) :
    ∀ (taken : List String) (i : Nat) (ps : List Param),
      (∀ p ∈ ps, usable p.name = true → p.name ∈ taken) →
      ((ps.map (·.name)).filter usable).Nodup →
      (∀ p ∈ ps, usable p.name = true → Go.isKeyword p.name = false) →
      Renamed reserved taken i ps (renameParams reserved taken i ps)
  | _, _, [], _, _, _ => Renamed.nil
  | taken, i, p :: ps, covers, distinct, notKeyword => by
    have covers' : ∀ p' ∈ ps, usable p'.name = true → p'.name ∈ taken :=
      fun p' mem => covers p' (List.mem_cons_of_mem _ mem)
    have notKeyword' := fun p' mem => notKeyword p' (List.mem_cons_of_mem _ mem)
    cases named : usable p.name with
    | false =>
      -- a missing name: `p<i>` and underscores
      rw [renameParams_blank reserved taken i p ps named]
      have distinct' : ((ps.map (·.name)).filter usable).Nodup := by
        simpa [List.filter_cons, named] using distinct
      obtain ⟨k, found, free, before⟩ := unblock_free reserved taken ("p" ++ toString i)
      obtain ⟨unused, keyword, held⟩ := blockedBy_false reserved taken free
      rw [← found] at unused keyword held
      refine Renamed.cons_renamed
        (renamed_renameParams reserved _ (i + 1) ps
          (fun p' mem u => List.mem_cons_of_mem _ (covers' p' mem u)) distinct' notKeyword')
        unused (found ▸ usable_append (usable_positional i) _) keyword held covers'
        ⟨rfl, rfl, fun u => absurd named (by simp [u]), fun _ => ?_, fun u => absurd named (by simp [u])⟩
      exact slot_of_unblock ⟨k, found, before⟩
    | true =>
      have distinct' : ((ps.map (·.name)).filter usable).Nodup := by
        simp only [List.map_cons, List.filter_cons, named, if_true] at distinct
        exact (List.nodup_cons.1 distinct).2
      have alone : p.name ∉ (ps.map (·.name)).filter usable := by
        simp only [List.map_cons, List.filter_cons, named, if_true] at distinct
        exact (List.nodup_cons.1 distinct).1
      by_cases held : p.name ∈ reserved
      · -- a reserved name: itself, an underscore, and more while blocked
        rw [renameParams_reserved reserved taken i p ps named held]
        obtain ⟨k, found, free, before⟩ := unblock_free reserved taken (p.name ++ "_")
        obtain ⟨unused, keyword, reservedName⟩ := blockedBy_false reserved taken free
        rw [← found] at unused keyword reservedName
        refine Renamed.cons_renamed
          (renamed_renameParams reserved _ (i + 1) ps
            (fun p' mem u => List.mem_cons_of_mem _ (covers' p' mem u)) distinct' notKeyword')
          unused (found ▸ usable_append (usable_append named _) _) keyword reservedName covers'
          ⟨rfl, rfl, fun _ free => absurd held free, fun u => absurd named (by simp [u]),
            fun _ _ => ?_⟩
        exact slot_of_unblock ⟨k, found, before⟩
      · rw [renameParams_kept reserved taken i p ps named held]
        exact Renamed.cons_kept
          (renamed_renameParams reserved taken (i + 1) ps covers' distinct' notKeyword')
          named held (notKeyword p List.mem_cons_self named)
          (covers p List.mem_cons_self named) alone

/-! ### The whole list -/

/-- The name is fresh at position `i` of `out`: no keyword, not reserved, and the name of no
other position. -/
def FreshAt (reserved : List String) (out : List Param) (i : Nat) (name : String) : Prop :=
  Go.isKeyword name = false ∧ name ∉ reserved ∧ ∀ j q, j ≠ i → out[j]? = some q → q.name ≠ name

/-- `name` is `base` followed by the fewest underscores that make it fresh at position `i`. -/
def FirstFreshAt (reserved : List String) (out : List Param) (i : Nat) (base name : String) :
    Prop :=
  FreshAt reserved out i name ∧ FirstAfter (fun c => ¬ FreshAt reserved out i c) base name

theorem normalizeParams_eq (params : List Param) (reserved : List String) :
    normalizeParams params reserved =
      renameParams reserved ((params.map (·.name)).filter usable) 0 params := rfl

theorem index_unique_of_nodup {l : List String} (nodup : l.Nodup) {i j : Nat} {a : String}
    (atI : l[i]? = some a) (atJ : l[j]? = some a) : i = j := by
  rw [List.getElem?_eq_some_iff] at atI atJ
  obtain ⟨_, rfl⟩ := atI
  obtain ⟨_, same⟩ := atJ
  exact (nodup.getElem_inj_iff).1 same.symm

theorem exists_getElem?_of_length_eq {α β : Type} {l : List α} {l' : List β}
    (lengths : l.length = l'.length) {i : Nat} {x : α} (at_ : l[i]? = some x) :
    ∃ y, l'[i]? = some y := by
  obtain ⟨bound, _⟩ := List.getElem?_eq_some_iff.1 at_
  exact ⟨l'[i], List.getElem?_eq_getElem (lengths ▸ bound)⟩

section Whole

variable {params : List Param} {reserved : List String}

/-- A name that two positions of a renamed list share is one position's. -/
theorem Renamed.fresh_at {taken : List String} {out : List Param} (renamed : Renamed reserved taken 0 params out)
    {i : Nat} {q : Param} (at_ : out[i]? = some q) : FreshAt reserved out i q.name := by
  have allowed := renamed.allowed q (List.mem_of_getElem? at_)
  refine ⟨allowed.2.1, allowed.2.2, fun j q' other atJ same => other ?_⟩
  have atJ' : (out.map (·.name))[j]? = some q.name := by simp [atJ, same]
  have atI' : (out.map (·.name))[i]? = some q.name := by simp [at_]
  exact index_unique_of_nodup renamed.nodup atJ' atI'

/-- A candidate blocked for a renamed position is not fresh there: it is a keyword, reserved,
kept at another position, or given to an earlier one. -/
theorem Renamed.not_fresh_of_blocked {out : List Param}
    (renamed : Renamed reserved ((params.map (·.name)).filter usable) 0 params out)
    {i : Nat} {p : Param} (atP : params[i]? = some p)
    (notKept : ¬ (usable p.name = true ∧ p.name ∉ reserved)) {c : String}
    (blocked : Blocked reserved ((params.map (·.name)).filter usable)
      ((out.take i).map (·.name)) c) :
    ¬ FreshAt reserved out i c := by
  rintro ⟨keyword, free, alone⟩
  rcases blocked with inUse | keyword' | held | earlier
  · -- an input name: reserved, or kept where it stands
    obtain ⟨input, named⟩ := List.mem_filter.1 inUse
    obtain ⟨p', mem, rfl⟩ := List.mem_map.1 input
    obtain ⟨m, atP'⟩ := List.mem_iff_getElem?.1 mem
    obtain ⟨q', atQ'⟩ := exists_getElem?_of_length_eq renamed.length.symm atP'
    have kept := (renamed.slots m p' q' atP' atQ').kept named free
    refine alone m q' (fun same => notKept ?_) atQ' kept
    subst same
    cases atP.symm.trans atP'
    exact ⟨named, free⟩
  · exact absurd keyword' (by simp [keyword])
  · exact free held
  · obtain ⟨q', mem, same⟩ := List.mem_map.1 earlier
    obtain ⟨m, atQ'⟩ := List.mem_iff_getElem?.1 mem
    rw [List.getElem?_take] at atQ'
    split at atQ'
    · exact alone m q' (by omega) atQ' same
    · cases atQ'

end Whole

/-- **Renaming puts parameters apart.** When the usable names of a parameter list are distinct
and no keyword, `normalizeParams` keeps the length, the types and the passing kinds; it gives
usable, pairwise distinct names that are no keyword and not reserved; it keeps every usable
unreserved name; and it names a parameter without a usable name at position `i` `p<i>`, a
reserved one itself and `_`, each followed by the fewest underscores that make it fresh. The
reserved names are any finite set, none at all included. -/
theorem normalizeParams_renames_apart (params : List Param) (reserved : List String)
    (distinct : ((params.map (·.name)).filter usable).Nodup)
    (notKeyword : ∀ p ∈ params, usable p.name = true → Go.isKeyword p.name = false) :
    let out := normalizeParams params reserved
    out.length = params.length ∧ (out.map (·.name)).Nodup ∧
    (∀ q ∈ out, usable q.name = true ∧ Go.isKeyword q.name = false ∧ q.name ∉ reserved) ∧
    ∀ i p q, params[i]? = some p → out[i]? = some q →
      q.type = p.type ∧ q.passing = p.passing ∧
      (usable p.name = true → p.name ∉ reserved → q.name = p.name) ∧
      (usable p.name = false → FirstFreshAt reserved out i ("p" ++ toString i) q.name) ∧
      (usable p.name = true → p.name ∈ reserved →
        FirstFreshAt reserved out i (p.name ++ "_") q.name) := by
  intro out
  have covers : ∀ p ∈ params, usable p.name = true → p.name ∈ (params.map (·.name)).filter usable :=
    fun p mem named => List.mem_filter.2 ⟨List.mem_map_of_mem mem, named⟩
  have renamed : Renamed reserved ((params.map (·.name)).filter usable) 0 params out := by
    rw [show out = _ from normalizeParams_eq params reserved]
    exact renamed_renameParams reserved _ 0 params covers distinct notKeyword
  refine ⟨renamed.length, renamed.nodup, renamed.allowed, fun i p q atP atQ => ?_⟩
  have slot := renamed.slots i p q atP atQ
  rw [Nat.zero_add] at slot
  have fresh := renamed.fresh_at atQ
  refine ⟨slot.type, slot.passing, slot.kept, fun blank => ⟨fresh, ?_⟩,
    fun named held => ⟨fresh, ?_⟩⟩
  · exact (slot.blank blank).mono fun c => renamed.not_fresh_of_blocked atP (by simp [blank])
  · exact (slot.held named held).mono fun c =>
      renamed.not_fresh_of_blocked atP fun kept => kept.2 held

/-- Four parameters: a kept name `p1`, a missing one after it (which `p1` pushes to `p1_`), a
reserved `x` and a blank `_`. -/
theorem normalizeParams_renames_apart_around_a_namesake :
    let params : List Param :=
      [⟨"p1", "int", .plain⟩, ⟨"", "string", .plain⟩, ⟨"x", "bool", .plain⟩,
        ⟨"_", "error", .variadic⟩]
    (((params.map (·.name)).filter usable).Nodup ∧
      ∀ p ∈ params, usable p.name = true → Go.isKeyword p.name = false) ∧
    let out := normalizeParams params ["x"]
    out.length = params.length ∧ (out.map (·.name)).Nodup ∧
    (∀ q ∈ out, usable q.name = true ∧ Go.isKeyword q.name = false ∧ q.name ∉ ["x"]) ∧
    ∀ i p q, params[i]? = some p → out[i]? = some q →
      q.type = p.type ∧ q.passing = p.passing ∧
      (usable p.name = true → p.name ∉ ["x"] → q.name = p.name) ∧
      (usable p.name = false → FirstFreshAt ["x"] out i ("p" ++ toString i) q.name) ∧
      (usable p.name = true → p.name ∈ ["x"] → FirstFreshAt ["x"] out i (p.name ++ "_") q.name) :=
  ⟨⟨by decide, by decide⟩, normalizeParams_renames_apart _ _ (by decide) (by decide)⟩

example :
    (normalizeParams [⟨"p1", "int", .plain⟩, ⟨"", "string", .plain⟩, ⟨"x", "bool", .plain⟩,
      ⟨"_", "error", .variadic⟩] ["x"]).map (·.name) = ["p1", "p1_", "x_", "p3"] := by
  decide

end StaticWrap.Render
