import StaticWrap.Types.Basic
/-!
**Equality of types.**

Two types are equal when they are built alike. `GoType.beq` compares them part by part;
`GoType.eq_of_beq` and `GoType.beq_self` show that it is equality, which makes equality of types
decidable, so that a list of types met can be asked whether it holds a type.
-/

namespace StaticWrap.Types

mutual

/-- Types built alike. -/
def GoType.beq : GoType → GoType → Bool
  | .basic a, .basic b => a == b
  | .named o as, .named p bs => o == p && typesBeq as bs
  | .aliased o as, .aliased p bs => o == p && typesBeq as bs
  | .param a, .param b => a == b
  | .pointer a, .pointer b => a.beq b
  | .slice a, .slice b => a.beq b
  | .array n a, .array m b => n == m && a.beq b
  | .map k v, .map k' v' => k.beq k' && v.beq v'
  | .chan d a, .chan d' b => d == d' && a.beq b
  | .func s, .func s' => s.beq s'
  | .struct fs, .struct gs => fieldsBeq fs gs
  | .iface i ms es, .iface j ns fs => i == j && methodsBeq ms ns && typesBeq es fs
  | .union ts, .union us => termsBeq ts us
  | .invalid, .invalid => true
  | _, _ => false
termination_by structural s _ => s

/-- Lists of types built alike. -/
def typesBeq : List GoType → List GoType → Bool
  | [], [] => true
  | a :: as, b :: bs => a.beq b && typesBeq as bs
  | _, _ => false
termination_by structural as _ => as

/-- Function types built alike. -/
def FuncType.beq : FuncType → FuncType → Bool
  | .mk ps rs v, .mk qs ss w => varsBeq ps qs && varsBeq rs ss && v == w
termination_by structural s _ => s

/-- Parameters or results built alike. -/
def varsBeq : List Var → List Var → Bool
  | [], [] => true
  | .mk n a :: as, .mk m b :: bs => n == m && a.beq b && varsBeq as bs
  | _, _ => false
termination_by structural as _ => as

/-- Struct fields built alike. -/
def fieldsBeq : List StructField → List StructField → Bool
  | [], [] => true
  | .mk n p e a tag :: fs, .mk n' p' e' b tag' :: gs =>
    n == n' && p == p' && e == e' && a.beq b && tag == tag' && fieldsBeq fs gs
  | _, _ => false
termination_by structural fs _ => fs

/-- Interface methods built alike. -/
def methodsBeq : List Method → List Method → Bool
  | [], [] => true
  | .mk n p s :: ms, .mk n' p' s' :: ns => n == n' && p == p' && s.beq s' && methodsBeq ms ns
  | _, _ => false
termination_by structural ms _ => ms

/-- Union terms built alike. -/
def termsBeq : List Term → List Term → Bool
  | [], [] => true
  | .mk t a :: ts, .mk t' b :: us => t == t' && a.beq b && termsBeq ts us
  | _, _ => false
termination_by structural ts _ => ts

end

mutual

theorem GoType.eq_of_beq : ∀ {s t : GoType}, s.beq t = true → s = t
  | .basic a, t, h => by
    cases t with
    | basic b => simp_all [GoType.beq]
    | _ => simp [GoType.beq] at h
  | .named o as, t, h => by
    cases t with
    | named p bs =>
      simp only [GoType.beq, Bool.and_eq_true, beq_iff_eq] at h
      rw [h.1, typesEq_of_beq h.2]
    | _ => simp [GoType.beq] at h
  | .aliased o as, t, h => by
    cases t with
    | aliased p bs =>
      simp only [GoType.beq, Bool.and_eq_true, beq_iff_eq] at h
      rw [h.1, typesEq_of_beq h.2]
    | _ => simp [GoType.beq] at h
  | .param a, t, h => by
    cases t with
    | param b => simp_all [GoType.beq]
    | _ => simp [GoType.beq] at h
  | .pointer a, t, h => by
    cases t with
    | pointer b => rw [GoType.eq_of_beq (show a.beq b = true from h)]
    | _ => simp [GoType.beq] at h
  | .slice a, t, h => by
    cases t with
    | slice b => rw [GoType.eq_of_beq (show a.beq b = true from h)]
    | _ => simp [GoType.beq] at h
  | .array n a, t, h => by
    cases t with
    | array m b =>
      simp only [GoType.beq, Bool.and_eq_true, beq_iff_eq] at h
      rw [h.1, GoType.eq_of_beq h.2]
    | _ => simp [GoType.beq] at h
  | .map k v, t, h => by
    cases t with
    | map k' v' =>
      simp only [GoType.beq, Bool.and_eq_true] at h
      rw [GoType.eq_of_beq h.1, GoType.eq_of_beq h.2]
    | _ => simp [GoType.beq] at h
  | .chan d a, t, h => by
    cases t with
    | chan d' b =>
      simp only [GoType.beq, Bool.and_eq_true, beq_iff_eq] at h
      rw [h.1, GoType.eq_of_beq h.2]
    | _ => simp [GoType.beq] at h
  | .func s, t, h => by
    cases t with
    | func s' => rw [FuncType.eq_of_beq (show s.beq s' = true from h)]
    | _ => simp [GoType.beq] at h
  | .struct fs, t, h => by
    cases t with
    | struct gs => rw [fieldsEq_of_beq (show fieldsBeq fs gs = true from h)]
    | _ => simp [GoType.beq] at h
  | .iface i ms es, t, h => by
    cases t with
    | iface j ns fs =>
      simp only [GoType.beq, Bool.and_eq_true, beq_iff_eq] at h
      rw [h.1.1, methodsEq_of_beq h.1.2, typesEq_of_beq h.2]
    | _ => simp [GoType.beq] at h
  | .union ts, t, h => by
    cases t with
    | union us => rw [termsEq_of_beq (show termsBeq ts us = true from h)]
    | _ => simp [GoType.beq] at h
  | .invalid, t, h => by
    cases t with
    | invalid => rfl
    | _ => simp [GoType.beq] at h

theorem typesEq_of_beq : ∀ {as bs : List GoType}, typesBeq as bs = true → as = bs
  | [], [], _ => rfl
  | a :: as, b :: bs, h => by
    simp only [typesBeq, Bool.and_eq_true] at h
    rw [GoType.eq_of_beq h.1, typesEq_of_beq h.2]
  | [], _ :: _, h | _ :: _, [], h => by simp [typesBeq] at h

theorem FuncType.eq_of_beq : ∀ {s t : FuncType}, s.beq t = true → s = t
  | .mk ps rs v, .mk qs ss w, h => by
    simp only [FuncType.beq, Bool.and_eq_true, beq_iff_eq] at h
    rw [varsEq_of_beq h.1.1, varsEq_of_beq h.1.2, h.2]

theorem varsEq_of_beq : ∀ {as bs : List Var}, varsBeq as bs = true → as = bs
  | [], [], _ => rfl
  | .mk n a :: as, .mk m b :: bs, h => by
    simp only [varsBeq, Bool.and_eq_true, beq_iff_eq] at h
    rw [h.1.1, GoType.eq_of_beq h.1.2, varsEq_of_beq h.2]
  | [], _ :: _, h | _ :: _, [], h => by simp [varsBeq] at h

theorem fieldsEq_of_beq : ∀ {fs gs : List StructField}, fieldsBeq fs gs = true → fs = gs
  | [], [], _ => rfl
  | .mk n p e a tag :: fs, .mk n' p' e' b tag' :: gs, h => by
    simp only [fieldsBeq, Bool.and_eq_true, beq_iff_eq] at h
    obtain ⟨⟨⟨⟨⟨rfl, rfl⟩, rfl⟩, same⟩, rfl⟩, rest⟩ := h
    rw [GoType.eq_of_beq same, fieldsEq_of_beq rest]
  | [], _ :: _, h | _ :: _, [], h => by simp [fieldsBeq] at h

theorem methodsEq_of_beq : ∀ {ms ns : List Method}, methodsBeq ms ns = true → ms = ns
  | [], [], _ => rfl
  | .mk n p s :: ms, .mk n' p' s' :: ns, h => by
    simp only [methodsBeq, Bool.and_eq_true, beq_iff_eq] at h
    obtain ⟨⟨⟨rfl, rfl⟩, same⟩, rest⟩ := h
    rw [FuncType.eq_of_beq same, methodsEq_of_beq rest]
  | [], _ :: _, h | _ :: _, [], h => by simp [methodsBeq] at h

theorem termsEq_of_beq : ∀ {ts us : List Term}, termsBeq ts us = true → ts = us
  | [], [], _ => rfl
  | .mk t a :: ts, .mk t' b :: us, h => by
    simp only [termsBeq, Bool.and_eq_true, beq_iff_eq] at h
    rw [h.1.1, GoType.eq_of_beq h.1.2, termsEq_of_beq h.2]
  | [], _ :: _, h | _ :: _, [], h => by simp [termsBeq] at h

end

mutual

theorem GoType.beq_self : ∀ t : GoType, t.beq t = true
  | .basic _ | .param _ | .invalid => by simp [GoType.beq]
  | .named _ as | .aliased _ as => by simp [GoType.beq, typesBeq_self as]
  | .pointer a | .slice a => by simp [GoType.beq, GoType.beq_self a]
  | .array _ a | .chan _ a => by simp [GoType.beq, GoType.beq_self a]
  | .map k v => by simp [GoType.beq, GoType.beq_self k, GoType.beq_self v]
  | .func s => by simp [GoType.beq, FuncType.beq_self s]
  | .struct fs => by simp [GoType.beq, fieldsBeq_self fs]
  | .iface _ ms es => by simp [GoType.beq, methodsBeq_self ms, typesBeq_self es]
  | .union ts => by simp [GoType.beq, termsBeq_self ts]

theorem typesBeq_self : ∀ as : List GoType, typesBeq as as = true
  | [] => rfl
  | a :: as => by simp [typesBeq, GoType.beq_self a, typesBeq_self as]

theorem FuncType.beq_self : ∀ s : FuncType, s.beq s = true
  | .mk ps rs _ => by simp [FuncType.beq, varsBeq_self ps, varsBeq_self rs]

theorem varsBeq_self : ∀ as : List Var, varsBeq as as = true
  | [] => rfl
  | .mk _ a :: as => by simp [varsBeq, GoType.beq_self a, varsBeq_self as]

theorem fieldsBeq_self : ∀ fs : List StructField, fieldsBeq fs fs = true
  | [] => rfl
  | .mk _ _ _ a _ :: fs => by simp [fieldsBeq, GoType.beq_self a, fieldsBeq_self fs]

theorem methodsBeq_self : ∀ ms : List Method, methodsBeq ms ms = true
  | [] => rfl
  | .mk _ _ s :: ms => by simp [methodsBeq, FuncType.beq_self s, methodsBeq_self ms]

theorem termsBeq_self : ∀ ts : List Term, termsBeq ts ts = true
  | [] => rfl
  | .mk _ a :: ts => by simp [termsBeq, GoType.beq_self a, termsBeq_self ts]

end

attribute [simp] GoType.beq_self typesBeq_self FuncType.beq_self varsBeq_self fieldsBeq_self
  methodsBeq_self termsBeq_self

instance : DecidableEq GoType := fun s t =>
  decidable_of_iff (s.beq t = true) ⟨GoType.eq_of_beq, fun same => same ▸ GoType.beq_self s⟩

end StaticWrap.Types
