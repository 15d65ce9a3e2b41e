import StaticWrap.Marker.Schema
/-!
**The schema registry as a state machine.**

A registry receives calls one after another: a registration either adds its schema or is refused
and leaves the registry as it was, and a lookup changes nothing. From a fresh registry:

* `register_refused_iff`: a registration is refused exactly when the schema describes another
  kind, the kind is already in, or a parameter is bad (`BadParam`: no name, an unknown type, a
  required parameter with a default, a default of another type), and the fault names the kind;
* `replay_get?`: a lookup finds the first acceptable registration of its kind, which is the one
  registration of that kind that succeeds;
* `registry_state_machine`: so after any calls a lookup succeeds exactly with the schema of a
  registration that succeeded, refusal is exactly the three conditions and leaves the registry
  unchanged, and the kinds are listed once each, in ascending order.
-/

namespace StaticWrap.Marker

/-! ### One registration -/

/-- What the check before registering refuses in one parameter: an empty name, an unknown type,
a required parameter with a default, or a default of another type than the declared one. -/
def BadParam (p : String × ParamSpec) : Prop :=
  p.1 = "" ∨ (∃ n unknown, p.2.type = .other n unknown) ∨ (p.2.required = true ∧ p.2.default?.isSome) ∨
    ∃ d, p.2.default? = some d ∧ p.2.type.admits d = false

/-- One parameter is refused exactly when it is bad. -/
theorem schemaFault?_singleton_isSome_iff (p : String × ParamSpec) :
    (schemaFault? [p]).isSome ↔ BadParam p := by
  obtain ⟨name, ⟨type, required, default?, rule?⟩⟩ := p
  simp only [schemaFault?, List.findSome?_cons, List.findSome?_nil, BadParam]
  by_cases unnamed : name = ""
  · simp [unnamed]
  · have named : name.isEmpty = false := by simpa using unnamed
    -- every type against every kind of default, required or not
    rcases default? with _ | (_ | _ | _ | _) <;> cases type <;> cases required <;>
      simp_all [ParamType.admits]

/-- The check finds no fault exactly when no parameter is bad. -/
theorem schemaFault?_eq_none_iff (params : List (String × ParamSpec)) :
    schemaFault? params = none ↔ ∀ p ∈ params, ¬ BadParam p := by
  induction params with
  | nil => simp [schemaFault?]
  | cons p params ih =>
    have head := schemaFault?_singleton_isSome_iff p
    have split : schemaFault? (p :: params) = (schemaFault? [p]).or (schemaFault? params) := by
      simp only [schemaFault?, List.findSome?_cons, List.findSome?_nil]
      split <;> simp_all
    rw [split, Option.or_eq_none_iff, ih, ← Option.not_isSome_iff_eq_none, head]
    simp

/-- A registration succeeds exactly when the schema is of the kind, the kind is not in yet and
no parameter is bad; the schema then joins the entries at the end. -/
theorem register_eq_ok_iff (r r' : Registry) (k : Kind) (s : Schema) :
    r.register k s = .ok r' ↔
      (s.kind = k ∧ r.get? k = none ∧ ∀ p ∈ s.params, ¬ BadParam p) ∧
        r' = { entries := r.entries ++ [(k, s)] } := by
  unfold Registry.register
  by_cases sameKind : s.kind = k
  · by_cases registered : (r.get? k).isSome
    · simp [sameKind, registered, Option.isSome_iff_ne_none.1 registered]
    · have absent : r.get? k = none := Option.not_isSome_iff_eq_none.1 registered
      rw [if_neg (fun other => other sameKind), if_neg registered]
      cases fault : schemaFault? s.params with
      | some msg =>
        have bad : ¬ ∀ p ∈ s.params, ¬ BadParam p := by
          rw [← schemaFault?_eq_none_iff, fault]
          simp
        simp only [reduceCtorEq, false_iff, not_and]
        exact fun ⟨_, _, good⟩ => absurd good bad
      | none =>
        have good := (schemaFault?_eq_none_iff s.params).1 fault
        simp only [Except.ok.injEq]
        exact ⟨fun same => ⟨⟨sameKind, absent, good⟩, same.symm⟩, fun ⟨_, same⟩ => same.symm⟩
  · simp [sameKind]

/-- **A registration is refused** exactly when the schema describes another kind, the kind is
already registered, or one of its parameters is bad; the fault names the kind. -/
theorem register_refused_iff (r : Registry) (k : Kind) (s : Schema) :
    (∃ f, r.register k s = .error f) ↔
      s.kind ≠ k ∨ (r.get? k).isSome ∨ ∃ p ∈ s.params, BadParam p := by
  cases outcome : r.register k s with
  | error f =>
    -- refused: one of the three conditions of success fails
    refine iff_of_true ⟨f, rfl⟩ ?_
    by_cases sameKind : s.kind = k
    · by_cases registered : (r.get? k).isSome
      · exact .inr (.inl registered)
      · have absent : r.get? k = none := Option.not_isSome_iff_eq_none.1 registered
        by_cases bad : ∃ p ∈ s.params, BadParam p
        · exact .inr (.inr bad)
        · have good : ∀ p ∈ s.params, ¬ BadParam p := fun p mem isBad => bad ⟨p, mem, isBad⟩
          have ok := (register_eq_ok_iff r { entries := r.entries ++ [(k, s)] } k s).2
            ⟨⟨sameKind, absent, good⟩, rfl⟩
          rw [ok] at outcome
          cases outcome
    · exact .inl sameKind
  | ok r' =>
    obtain ⟨⟨sameKind, absent, good⟩, -⟩ := (register_eq_ok_iff r r' k s).1 outcome
    simp only [reduceCtorEq, exists_false, false_iff]
    rintro (other | registered | ⟨p, mem, bad⟩)
    · exact other sameKind
    · simp [absent] at registered
    · exact good p mem bad

/-- A refusal is a registration fault of the kind asked for. -/
theorem register_fault_names_kind {r : Registry} {k : Kind} {s : Schema} {f : Fault}
    (refused : r.register k s = .error f) : ∃ msg, f = .registration k msg := by
  unfold Registry.register at refused
  split at refused
  · exact ⟨_, (Except.error.inj refused).symm⟩
  · split at refused
    · exact ⟨_, (Except.error.inj refused).symm⟩
    · split at refused
      · exact ⟨_, (Except.error.inj refused).symm⟩
      · cases refused

/-! ### Calls one after another -/

/-- A call on a registry. -/
inductive Call where
  | register (k : Kind) (s : Schema)
  | get (k : Kind)
  deriving DecidableEq, Repr

/-- The registry after a call: a registration that succeeds adds its schema; a refused one, like a
lookup, leaves the registry as it was. -/
def Registry.apply (r : Registry) : Call → Registry
  | .register k s =>
    match r.register k s with
    | .ok r' => r'
    | .error _ => r
  | .get _ => r

/-- The registry after calls made on a fresh one. -/
def replay (calls : List Call) : Registry := calls.foldl Registry.apply {}

/-- A registration the registry accepts when its kind is not in yet. -/
def acceptable (k : Kind) (s : Schema) : Bool := s.kind == k && (schemaFault? s.params).isNone

/-- The schema of a registration of `k` that the registry accepts, if the call is one. -/
def Call.accepted? (k : Kind) : Call → Option Schema
  | .register k' s => if k' = k ∧ acceptable k s then some s else none
  | .get _ => none

/-- The schema of the first acceptable registration of a kind. -/
def firstAccepted (calls : List Call) (k : Kind) : Option Schema :=
  calls.findSome? (Call.accepted? k)

theorem acceptable_iff (k : Kind) (s : Schema) :
    acceptable k s = true ↔ s.kind = k ∧ ∀ p ∈ s.params, ¬ BadParam p := by
  rw [← schemaFault?_eq_none_iff]
  simp [acceptable]

@[simp] theorem firstAccepted_nil (k : Kind) : firstAccepted [] k = none := rfl

/-- A call at the end counts only when no earlier registration of the kind was accepted. -/
theorem firstAccepted_append_singleton (calls : List Call) (c : Call) (k : Kind) :
    firstAccepted (calls ++ [c]) k = (firstAccepted calls k).or (c.accepted? k) := by
  simp only [firstAccepted, List.findSome?_append, List.findSome?_cons, List.findSome?_nil]
  cases c.accepted? k <;> cases calls.findSome? (Call.accepted? k) <;> rfl

/-- The registry's lookup is the first acceptable registration of each kind, and each kind is
listed once. -/
structure Registry.Recorded (r : Registry) (calls : List Call) : Prop where
  get : ∀ k, r.get? k = firstAccepted calls k
  keysNodup : (r.entries.map (·.1)).Nodup

theorem Registry.Recorded.fresh : ({} : Registry).Recorded [] :=
  ⟨fun _ => rfl, List.nodup_nil⟩

/-- **One step keeps the record.** -/
theorem Registry.Recorded.apply {r : Registry} {calls : List Call} (recorded : r.Recorded calls)
    (c : Call) : (r.apply c).Recorded (calls ++ [c]) := by
  cases c with
  | get k =>
    refine ⟨fun k' => ?_, recorded.keysNodup⟩
    rw [firstAccepted_append_singleton, ← recorded.get k']
    simp [Registry.apply, Call.accepted?]
  | register k s =>
    cases outcome : r.register k s with
    | error f =>
      refine ⟨fun k' => ?_, by simpa [Registry.apply, outcome] using recorded.keysNodup⟩
      simp only [Registry.apply, outcome]
      rw [firstAccepted_append_singleton, ← recorded.get k']
      -- a refused registration is unacceptable, or comes after an accepted one of its kind
      cases found : r.get? k' with
      | some s' => rfl
      | none =>
        simp only [Option.none_or, Call.accepted?]
        by_cases same : k = k'
        · subst same
          have refused := (register_refused_iff r k s).1 ⟨f, outcome⟩
          have unacceptable : acceptable k s = false := by
            rw [← Bool.not_eq_true, acceptable_iff]
            rintro ⟨sameKind, good⟩
            rcases refused with other | registered | ⟨p, mem, bad⟩
            · exact other sameKind
            · simp [found] at registered
            · exact good p mem bad
          simp [unacceptable]
        · simp [same]
    | ok r' =>
      obtain ⟨⟨sameKind, absent, good⟩, rfl⟩ := (register_eq_ok_iff r r' k s).1 outcome
      have accepted : acceptable k s = true := (acceptable_iff k s).2 ⟨sameKind, good⟩
      have fresh : ∀ p ∈ r.entries, k ≠ p.1 := by
        simpa [Registry.get?] using absent
      refine ⟨fun k' => ?_, ?_⟩
      · simp only [Registry.apply, outcome, Registry.get?, List.lookup_append]
        rw [firstAccepted_append_singleton, ← recorded.get k']
        by_cases same : k' = k
        · subst same
          simp [Registry.get?, Call.accepted?, accepted]
        · have differs : (k' == k) = false := by simpa using same
          simp [Registry.get?, Call.accepted?, Ne.symm same, List.lookup_cons, differs]
      · simp only [Registry.apply, outcome, List.map_append, List.map_cons, List.map_nil]
        refine List.nodup_append.2 ⟨recorded.keysNodup, by simp, ?_⟩
        intro a inKeys b inNew
        obtain ⟨p, mem, rfl⟩ := List.mem_map.1 inKeys
        rw [List.mem_singleton.1 inNew]
        exact (fresh p mem).symm

/-- **Every run keeps the record.** -/
theorem Registry.Recorded.foldl {r : Registry} {done : List Call} (recorded : r.Recorded done)
    (calls : List Call) : (calls.foldl Registry.apply r).Recorded (done ++ calls) := by
  induction calls generalizing r done with
  | nil => simpa using recorded
  | cons c calls ih =>
    rw [List.foldl_cons, ← List.singleton_append, ← List.append_assoc]
    exact ih (recorded.apply c)

theorem replay_recorded (calls : List Call) : (replay calls).Recorded calls := by
  simpa [replay] using Registry.Recorded.fresh.foldl calls

/-! ### What the calls leave -/

/-- **A lookup finds the registration that succeeded**: after any calls, a kind's schema is `s`
exactly when a registration of `s` under the kind succeeded on the registry it met. -/
theorem replay_get?_eq_some_iff (calls : List Call) (k : Kind) (s : Schema) :
    (replay calls).get? k = some s ↔
      ∃ pre post, calls = pre ++ .register k s :: post ∧
        ∃ r', (replay pre).register k s = .ok r' := by
  rw [(replay_recorded calls).get k, firstAccepted, List.findSome?_eq_some_iff]
  constructor
  · rintro ⟨pre, c, post, rfl, accepted, before⟩
    cases c with
    | get _ => cases accepted
    | register k' s' =>
      simp only [Call.accepted?, Option.ite_none_right_eq_some, Option.some.injEq] at accepted
      obtain ⟨⟨rfl, acceptedHere⟩, rfl⟩ := accepted
      obtain ⟨sameKind, good⟩ := (acceptable_iff k' s').1 acceptedHere
      -- no earlier registration of the kind was accepted, so the kind is not in yet
      have absent : (replay pre).get? k' = none := by
        rw [(replay_recorded pre).get k', firstAccepted, List.findSome?_eq_none_iff]
        exact before
      exact ⟨pre, post, rfl, _,
        (register_eq_ok_iff _ _ k' s').2 ⟨⟨sameKind, absent, good⟩, rfl⟩⟩
  · rintro ⟨pre, post, rfl, r', succeeded⟩
    obtain ⟨⟨sameKind, absent, good⟩, -⟩ := (register_eq_ok_iff _ _ k s).1 succeeded
    have before : ∀ c ∈ pre, c.accepted? k = none := by
      rw [← List.findSome?_eq_none_iff, ← firstAccepted, ← (replay_recorded pre).get k]
      exact absent
    have acceptedHere : acceptable k s = true := (acceptable_iff k s).2 ⟨sameKind, good⟩
    exact ⟨pre, .register k s, post, rfl, by simp [Call.accepted?, acceptedHere], before⟩

/-- A registration changes the entries exactly when it succeeds. -/
theorem apply_register_unchanged_iff (r : Registry) (k : Kind) (s : Schema) :
    (r.apply (.register k s)).entries = r.entries ↔ ∃ f, r.register k s = .error f := by
  unfold Registry.apply
  cases outcome : r.register k s with
  | error f => simp [outcome]
  | ok r' =>
    obtain ⟨-, rfl⟩ := (register_eq_ok_iff r r' k s).1 outcome
    simp [outcome]

/-- The kinds of a recorded registry are listed once each, by number, and are the kinds in it. -/
theorem Registry.Recorded.kinds {r : Registry} {calls : List Call} (recorded : r.Recorded calls) :
    r.kinds.Pairwise (fun a b => a.toInt ≤ b.toInt) ∧ r.kinds.Nodup ∧
      ∀ k, k ∈ r.kinds ↔ (r.get? k).isSome := by
  have perm := List.mergeSort_perm (r.entries.map (·.1)) fun a b => decide (a.toInt ≤ b.toInt)
  refine ⟨?_, perm.nodup_iff.2 recorded.keysNodup, fun k => ?_⟩
  · have sorted := @List.pairwise_mergeSort Kind (fun a b => decide (a.toInt ≤ b.toInt))
      (fun a b c ab bc => by simp only [decide_eq_true_eq] at ab bc ⊢; omega)
      (fun a b => by simp only [Bool.or_eq_true, decide_eq_true_eq]; omega)
      (r.entries.map (·.1))
    exact sorted.imp fun ordered => by simpa using ordered
  · rw [Registry.kinds, perm.mem_iff, Registry.get?, List.lookup_isSome_iff]
    simp only [List.mem_map, beq_iff_eq]
    exact ⟨fun ⟨p, mem, same⟩ => ⟨p, mem, same.symm⟩, fun ⟨p, mem, same⟩ => ⟨p, mem, same.symm⟩⟩

/-- **The registry as a state machine.** After any calls on a fresh registry: a lookup gives
`s` exactly when a registration of `s` under the kind succeeded; a registration is refused
exactly when the schema describes another kind, the kind is in, or a parameter is bad, and
exactly the refused registrations leave the registry unchanged; the kinds are listed once each,
in ascending order, and are the registered ones. -/
theorem registry_state_machine (calls : List Call) :
    (∀ k s, (replay calls).get? k = some s ↔
      ∃ pre post, calls = pre ++ .register k s :: post ∧
        ∃ r', (replay pre).register k s = .ok r') ∧
    (∀ k s, ((∃ f, (replay calls).register k s = .error f) ↔
        s.kind ≠ k ∨ ((replay calls).get? k).isSome ∨ ∃ p ∈ s.params, BadParam p) ∧
      (((replay calls).apply (.register k s)).entries = (replay calls).entries ↔
        ∃ f, (replay calls).register k s = .error f)) ∧
    ((replay calls).kinds.Pairwise (fun a b => a.toInt ≤ b.toInt) ∧ (replay calls).kinds.Nodup ∧
      ∀ k, k ∈ (replay calls).kinds ↔ ((replay calls).get? k).isSome) :=
  ⟨replay_get?_eq_some_iff calls,
    fun k s => ⟨register_refused_iff _ k s, apply_register_unchanged_iff _ k s⟩,
    (replay_recorded calls).kinds⟩

end StaticWrap.Marker
