import StaticWrap.Typing.Ops
/-!
**Type parameters: their constraints, and inferring them in calls.**

A call of a generic function names its type arguments or leaves them to be inferred:

* `unify` matches a parameter's type against an argument's, binding the type parameters it
  mentions; a defined type matches a type literal by its underlying type, as assignment
  would have it;
* `coreStep` infers from constraints with a single term (`S ~[]E`): a bound `S` tells `E`,
  and a bound `E` tells `S`;
* untyped constant arguments give a type parameter still unbound the default type of the
  largest of their kinds (whole number, rune, floating-point, complex);
* `satisfies` checks an inferred (or given) type argument against its constraint: the
  methods, the terms of its type set, and comparability.

A constraint is read as a `TypeSet`: the methods it demands, the terms it allows (none for
every type), and whether it demands comparable types.
-/

namespace StaticWrap.Typing

open StaticWrap.Types StaticWrap.Load

/-- The values of a type may be compared with `==`; `none` when not known. -/
def comparableType (w : World) : Nat → GoType → Option Bool
  | 0, _ => none
  | n + 1, t =>
    match t with
    | .param _ => none
    | _ =>
      match underlying w 16 t with
      | .basic b => some (b != "untyped nil")
      | .pointer _ | .chan _ _ | .iface _ _ _ => some true
      | .struct fs =>
        fs.foldl (fun acc (fd : StructField) => match acc, fd with
          | some false, _ => some false
          | acc, .mk _ _ _ ft _ =>
            match comparableType w n ft with
            | some false => some false
            | some true => acc
            | none => none) (some true)
      | .array _ el => comparableType w n el
      | .slice _ | .map _ _ | .func _ => some false
      | _ => none

/-- What a constraint demands of a type argument: methods, one of some terms (`none`: any
type), and comparability. -/
structure TypeSet where
  methods : List Method := []
  terms : Option (List Term) := none
  comparable : Bool := false

/-- The type set of a constraint; `none` when it is not known (several term lists to
intersect, or an element not followed). -/
def typeSetOf (w : World) : Nat → GoType → Option TypeSet
  | 0, _ => none
  | n + 1, t =>
    match t with
    | .named ⟨"", _, "comparable", _⟩ _ => some { comparable := true }
    | .union terms => some { terms := some terms }
    | .iface _ methods embeddeds =>
      embeddeds.foldl (fun acc e => do
        let s ← acc
        let es ← typeSetOf w n e
        let terms ← match s.terms, es.terms with
          | none, ts | ts, none => some ts
          | some _, some _ => none
        some { methods := s.methods ++ es.methods, terms,
               comparable := s.comparable || es.comparable })
        (some { methods })
    | .named _ _ | .aliased _ _ =>
      match underlying w 16 t with
      | .iface _ _ _ => typeSetOf w n (underlying w 16 t)
      | .invalid => none
      | _ => some { terms := some [.mk false t] }
    | .param _ | .invalid => none
    | _ => some { terms := some [.mk false t] }

/-- A term holds a type: `~T` every type whose underlying type is `T`'s, `T` only `T`. -/
def Term.includes (w : World) (v : GoType) : Term → Bool
  | .mk true t => identical w 32 (underlying w 16 v) (underlying w 16 t)
  | .mk false t => identical w 32 v t

/-- Every type of a type set is comparable (or it demands comparable types). -/
def TypeSet.isComparable (w : World) (s : TypeSet) : Bool :=
  s.comparable || match s.terms with
    | some ts => ts.all fun (.mk _ t) => comparableType w 16 t == some true
    | none => false

/-- Every type of a type set is ordered: it has terms, all of ordered basic types. -/
def TypeSet.isOrdered (w : World) (s : TypeSet) : Bool :=
  match s.terms with
  | some ts => ts.all fun (.mk _ t) => match underlying w 16 t with
    | .basic b => orderedKind (basicIdentity b)
    | _ => false
  | none => false

/-- Whether the type `v` satisfies the constraint `bound`: the fault when it does not, as
`V does not satisfy C (...)`; `none` when it does or when that is not known. The methods are
looked at first, then the terms, then comparability. -/
def satisfies (w : World) (own : String) (v bound : GoType) : Option String := do
  if hasUnknown 16 v then failure
  let s ← typeSetOf w 16 bound
  let vText := typeMessage own v
  let cText := typeMessage own bound
  let msg (detail : String) : String := vText ++ " does not satisfy " ++ cText ++ " " ++ detail
  if !s.methods.isEmpty then
    match methodsCause w own v (.iface false s.methods []) with
    | .no cause => return msg cause
    | .unknown => failure
    | .yes => pure ()
  match s.terms with
  | some ts =>
    match underlying w 16 v with
    | .iface _ _ _ | .invalid => failure
    | _ =>
      if ts.any (Term.includes w v) then failure
      let alt := ts.findSome? fun (.mk tilde t) =>
        if !tilde && identical w 32 t (underlying w 16 t) && Term.includes w v (.mk true t) then
          some t else none
      match alt with
      | some a => return msg ("(possibly missing ~ for " ++ typeMessage own a ++ " in " ++ cText ++ ")")
      | none =>
        let termText := " | ".intercalate (ts.map fun (.mk tilde t) =>
          (if tilde then "~" else "") ++ typeMessage own t)
        return msg ("(" ++ vText ++ " missing in " ++ termText ++ ")")
  | none =>
    if s.comparable && comparableType w 16 v == some false then
      return vText ++ " does not satisfy comparable"
    failure

/-- Type arguments bound so far, by type parameter name. -/
abbrev Binding := List (String × GoType)

mutual

/-- Puts the bound type arguments in place of their type parameters. -/
def subst (b : Binding) : Nat → GoType → GoType
  | 0, t => t
  | n + 1, t =>
    match t with
    | .param p => (b.lookup p).getD t
    | .pointer e => .pointer (subst b n e)
    | .slice e => .slice (subst b n e)
    | .array l e => .array l (subst b n e)
    | .map k v => .map (subst b n k) (subst b n v)
    | .chan d e => .chan d (subst b n e)
    | .func sig => .func (substSig b n sig)
    | .named o args => .named o (args.map (subst b n))
    | .aliased o args => .aliased o (args.map (subst b n))
    | .struct fs => .struct (fs.map fun (.mk name pkg emb ft tag) => .mk name pkg emb (subst b n ft) tag)
    | _ => t

/-- Puts the bound type arguments in place of their type parameters in a signature. -/
def substSig (b : Binding) : Nat → FuncType → FuncType
  | 0, sig => sig
  | n + 1, .mk ps rs v =>
    .mk (ps.map fun (.mk name t) => .mk name (subst b n t))
      (rs.map fun (.mk name t) => .mk name (subst b n t)) v

end

/-- A type mentions one of the type parameters. -/
def mentions (tps : List String) : Nat → GoType → Bool
  | 0, _ => false
  | n + 1, t =>
    match t with
    | .param p => tps.contains p
    | .pointer e | .slice e | .array _ e | .chan _ e => mentions tps n e
    | .map k v => mentions tps n k || mentions tps n v
    | .func (.mk ps rs _) => (ps ++ rs).any fun (.mk _ t) => mentions tps n t
    | .named _ args | .aliased _ args => args.any (mentions tps n)
    | .struct fs => fs.any fun (.mk _ _ _ ft _) => mentions tps n ft
    | _ => false

mutual

/-- Matches a parameter type against an argument type, binding the type parameters `tps`
the parameter type mentions; `none` when they do not match. A defined type matches a type
literal through its underlying type; a channel that goes both ways matches a directed one. -/
def unify (w : World) (tps : List String) : Nat → GoType → GoType → Binding → Option Binding
  | 0, _, _, b => some b
  | n + 1, p, a, b =>
    match p with
    | .param x =>
      if tps.contains x then
        match b.lookup x with
        | some t => if identical w 32 t a then some b else none
        | none => some ((x, a) :: b)
      else some b
    | _ =>
      if !mentions tps 32 p then some b
      else
        match p, unalias w 8 a with
        | .named o xs, .named o' ys =>
          if o == o' then unifyList w tps n xs ys b else none
        | _, a' =>
          let au := match a' with
            | .named _ _ => underlying w 16 a'
            | t => t
          match p, au with
          | .pointer x, .pointer y | .slice x, .slice y => unify w tps n x y b
          | .array l x, .array m y => if l == m then unify w tps n x y b else none
          | .map k v, .map k' v' => do
            let b ← unify w tps n k k' b
            unify w tps n v v' b
          | .chan d x, .chan d' y =>
            if d == d' || d' == .both then unify w tps n x y b else none
          | .func (.mk ps rs v), .func (.mk qs ss u) =>
            if v != u || ps.length != qs.length || rs.length != ss.length then none
            else do
              let b ← unifyList w tps n (ps.map fun (.mk _ t) => t) (qs.map fun (.mk _ t) => t) b
              unifyList w tps n (rs.map fun (.mk _ t) => t) (ss.map fun (.mk _ t) => t) b
          | _, _ => none

/-- Matches lists of types pairwise. -/
def unifyList (w : World) (tps : List String) : Nat → List GoType → List GoType → Binding →
    Option Binding
  | 0, _, _, b => some b
  | _ + 1, [], [], b => some b
  | n + 1, x :: xs, y :: ys, b => do
    let b ← unify w tps n x y b
    unifyList w tps n xs ys b
  | _ + 1, _, _, _ => none

end

/-- The single term of a constraint's type set, if it has exactly one: its core type. -/
def coreTerm (w : World) (bound : GoType) : Option Term := do
  let s ← typeSetOf w 16 bound
  match s.terms with
  | some [t] => some t
  | _ => none

/-- One round of inference from constraints with a core type: a bound type parameter is
matched against its core type, and one not bound takes its core type when that mentions
only bound ones. -/
def coreStep (w : World) (params : List (String × GoType)) (b : Binding) : Option Binding :=
  let tps := params.map (·.1)
  params.foldl (fun acc (name, bound) => do
    let b ← acc
    match coreTerm w bound with
    | none => some b
    | some (.mk tilde core) =>
      if !mentions tps 32 core then some b
      else match b.lookup name with
        | some t => unify w tps 32 core (if tilde then underlying w 16 t else t) b
        | none =>
          let c := subst b 32 core
          if mentions tps 32 c then some b else some ((name, c) :: b)) (some b)

/-- The rank of an untyped constant's kind among the numeric kinds; other kinds rank alone. -/
def untypedRank : GoType → Nat
  | .basic "untyped int" => 1
  | .basic "untyped rune" => 2
  | .basic "untyped float" => 3
  | .basic "untyped complex" => 4
  | _ => 0

end StaticWrap.Typing
