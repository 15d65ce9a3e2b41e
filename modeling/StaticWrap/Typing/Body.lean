import StaticWrap.Typing.Ops
import StaticWrap.Typing.Terminating
import StaticWrap.Typing.Branches
import StaticWrap.Typing.Infer
/-!
**Checking expressions and statements.**

The checker walks a function body as the type checker of the language does, with the names
in scope, and gives each expression an operand. The faults it reports are the ones whose
every part it can know:

* names: `undefined: x`, `use of package fmt not in selector`, `cannot use _ as value`;
* uses of operands: a call without results used as a value, a built-in not called, a type
  used as an expression, several results where one is needed;
* assignments, initializations, arguments, returns and composite literal elements:
  `cannot use X as T value in CONTEXT`, with why (truncated, overflows, the missing method),
  and the counts: `assignment mismatch`, `not enough return values`, `too many arguments`;
* operators: mismatched operand types, an operator not defined on an operand, division by
  zero, conversions of constants that do not fit;
* statements: an expression that is not used, a condition that is not boolean, `x++` on a
  value that is not a number, `:=` that declares nothing new, a redeclared name, an
  assignment to what cannot be assigned;
* at the end of a function: unused labels, a missing return, and variables declared and not
  used (block by block, each block's in order of position, then the blocks inside it).

Whatever depends on a type this reading does not know is skipped: the operand is
`invalid`, and no fault is built from it.

Every function runs on fuel; the checks of a file start with more fuel than the file has
bytes, four times over, which no nesting of its syntax exhausts.
-/

namespace StaticWrap.Typing

open StaticWrap.GoSource
open StaticWrap.Types
open StaticWrap.Load

/-- Records faults found by resolving a type, unless faults are not recorded. -/
def recordFaults (fs : List TypeFault) : CheckM Unit := modify fun s =>
  if s.quiet then s else { s with faults := s.faults ++ fs.toArray }

/-- The identifiers a type expression names at its heads (not after a dot). -/
def typeExprNames : Nat → Expr → List String
  | 0, _ => []
  | n + 1, e =>
    match e with
    | .ident id => [id.name]
    | .selector _ _ => []
    | .paren _ x _ | .star _ x | .ellipsis _ (some x) | .unary _ _ x => typeExprNames n x
    | .array _ _ x | .chan _ _ _ x => typeExprNames n x
    | .map _ k v | .binary k _ _ v => typeExprNames n k ++ typeExprNames n v
    | .index x _ i _ => typeExprNames n x ++ typeExprNames n i
    | .indexList x _ is _ => typeExprNames n x ++ is.flatMap (typeExprNames n)
    | .struct _ fl | .iface _ fl => fl.list.flatMap fun f => typeExprNames n f.type
    | .func sig =>
      (sig.params.list ++ (sig.results.map (·.list)).getD []).flatMap fun f => typeExprNames n f.type
    | _ => []

/-- The package names a type expression qualifies names with. -/
def typeExprQualifiers : Nat → Expr → List String
  | 0, _ => []
  | n + 1, e =>
    match e with
    | .selector (.ident p) _ => [p.name]
    | .paren _ x _ | .star _ x | .ellipsis _ (some x) | .unary _ _ x => typeExprQualifiers n x
    | .array _ len x =>
      (match len with
        | some l => typeExprQualifiers n l
        | none => []) ++ typeExprQualifiers n x
    | .chan _ _ _ x => typeExprQualifiers n x
    | .map _ k v | .binary k _ _ v => typeExprQualifiers n k ++ typeExprQualifiers n v
    | .index x _ i _ => typeExprQualifiers n x ++ typeExprQualifiers n i
    | .indexList x _ is _ => typeExprQualifiers n x ++ is.flatMap (typeExprQualifiers n)
    | .struct _ fl | .iface _ fl => fl.list.flatMap fun f => typeExprQualifiers n f.type
    | .func sig =>
      (sig.params.list ++ (sig.results.map (·.list)).getD []).flatMap fun f =>
        typeExprQualifiers n f.type
    | _ => []

/-- The site where a type expression written inside a function is resolved: the types
declared inside the function that it names are in scope; `none` when it names something
else declared inside the function (such types are not followed). The package names it uses
count as used. -/
def bodySite (f : Frame) (te : Expr) : CheckM (Option Site) := do
  let depth := f.site.unit.depth
  let mut shadowed := false
  let mut locals : List (String × GoType) := []
  for name in typeExprNames depth te do
    match ← lookupLocal name with
    | some (.typeName t) => locals := (name, t) :: locals
    | some _ => shadowed := true
    | none => pure ()
  for q in typeExprQualifiers depth te do
    if (← lookupLocal q).isNone && (f.site.unit.importPath? f.world q).isSome then
      markImport f.site.fileIndex q
  return if shadowed then none else some { f.site with localTypes := locals }

/-- Resolves a type expression written inside a function. -/
def bodyType (f : Frame) (te : Expr) : CheckM GoType := do
  let site? ← bodySite f te
  match te with
  | .ident id =>
    match ← lookupLocal id.name with
    | some (.typeName t) => return t
    | some _ => return .invalid
    | none =>
      let (t, faults) := (resolveType f.site f.site.unit.depth te).run []
      recordFaults faults
      return t
  | _ =>
    match site? with
    | none => return .invalid
    | some site =>
      let (t, faults) := (resolveType site site.unit.depth te).run []
      recordFaults faults
      return t

/-- Reports a name a signature declares twice: its type parameters, receiver, parameters
and results share one block, and each name other than `_` is declared once, in that order. -/
def Frame.duplicateParams (f : Frame) (recv : Option FieldList) (sig : Signature) :
    CheckM Unit := do
  let names (fl : Option FieldList) : List Ident :=
    (fl.map fun l => l.list.flatMap (·.names)).getD []
  let all := names sig.typeParams ++ names recv ++ names (some sig.params) ++ names sig.results
  let mut seen : List Ident := []
  for id in all do
    if id.name == "_" then continue
    match seen.find? (·.name == id.name) with
    | some other =>
      f.fault id.pos (id.name ++ " redeclared in this block")
        [f.note other.pos ("other declaration of " ++ id.name)]
    | none => seen := seen ++ [id]

/-- Resolves the signature of a function literal. When it names something declared inside
the function that is not a type, its parameter and result types are not known (their number
still is, so that the body declares them all). -/
def bodySig (f : Frame) (sig : Signature) : CheckM FuncType := do
  let depth := f.site.unit.depth
  let site? ← bodySite f (.func sig)
  let shadowed := site?.isNone
  let site := site?.getD f.site
  let (ft, faults) := (resolveSig site depth sig).run []
  if !shadowed then
    recordFaults faults
    f.duplicateParams none sig
    return ft
  let blank (vs : List Var) : List Var := vs.map fun v => Var.mk v.name .invalid
  return .mk (blank ft.params) (blank ft.results) ft.variadic

/-- How a message describes the structure of a named type (or alias): by the kind of its
underlying type, a basic type by its name; other types get no description. -/
def typeDesc (w : World) (t : GoType) : String :=
  match t with
  | .named _ _ | .aliased _ _ =>
    match shownUnderlying w 16 t with
    | .basic n => n ++ " "
    | .struct _ => "struct "
    | .pointer _ => "pointer "
    | .func _ => "func "
    | .iface _ _ _ => "interface "
    | .slice _ => "slice "
    | .array _ _ => "array "
    | .map _ _ => "map "
    | .chan _ _ => "chan "
    | .union _ => "union "
    | _ => ""
  | _ => ""

/-- The operand as a message shows it, seen from the checked package. -/
def Frame.show (f : Frame) (x : Operand) : String := operandText f.own (typeDesc f.world) x

/-- A type as a message shows it, seen from the checked package. -/
def Frame.typeText (f : Frame) (t : GoType) : String := typeMessage f.own t

/-- An operand of nothing known for an expression. -/
def unknownOf (e : Expr) : Operand := Operand.unknown e

/-- Refuses operands that are not values: a call without results, a built-in, a type, and
(unless allowed) several results. -/
def Frame.valueOnly (f : Frame) (x : Operand) (allowTuple : Bool := false) : CheckM Operand := do
  match x.mode with
  | .novalue =>
    f.fault x.expr.pos (f.show x ++ " used as value")
    return unknownOf x.expr
  | .builtin _ =>
    f.fault x.expr.pos (f.show x ++ " must be called")
    return unknownOf x.expr
  | .typexpr =>
    f.fault x.expr.pos (f.show x ++ " is not an expression")
    return unknownOf x.expr
  | _ =>
    if !allowTuple && x.tuple.length ≥ 2 then
      f.fault x.expr.pos ("multiple-value " ++ f.show x ++ " in single-value context")
      return unknownOf x.expr
    return x

/-- The suffix a failed implicit conversion adds to its message. -/
def misfitSuffix : Misfit → String
  | .truncated => " (truncated)"
  | .overflows => " (overflows)"
  | .mismatch => ""

/-- Whether the type is an interface that is not a type parameter: `none` when not known. -/
def ifaceTarget? (w : World) (t : GoType) : Option Bool :=
  match t with
  | .param _ => some false
  | _ =>
    match underlying w 16 t with
    | .iface _ _ _ => some true
    | .invalid => none
    | _ => some false

/-- Checks that a value may be assigned to a place of type `t` (`none` for the blank
identifier), reporting why not; gives the operand with the type it takes. -/
def Frame.assignment (f : Frame) (x : Operand) (t : Option GoType) (context : String) :
    CheckM Operand := do
  let w := f.world
  if !x.isKnown then return x
  match x.mode with
  | .novalue | .builtin _ | .typexpr => return unknownOf x.expr
  | _ => pure ()
  let mut x := x
  if x.type.isUntyped then
    let target? : Option GoType ← match t with
      | none =>
        if x.isNil then
          f.fault x.expr.pos ("use of untyped nil in " ++ context)
          return unknownOf x.expr
        pure (some x.type.defaultType)
      | some t =>
        match ifaceTarget? w t with
        | some true => pure (some (if x.isNil then t else x.type.defaultType))
        | some false => pure (some t)
        | none => pure none
    match target? with
    | none => return unknownOf x.expr
    | some target =>
      if x.isNil && (ifaceTarget? w target == some true) then return x
      match implicitType w x target with
      | .unknown => return unknownOf x.expr
      | .fault m =>
        f.fault x.expr.pos ("cannot use " ++ f.show x ++ " as " ++ f.typeText target ++
          " value in " ++ context ++ misfitSuffix m)
        return unknownOf x.expr
      | .ok nt => x := { x with type := nt }
  match t with
  | none => return x
  | some t =>
    if x.isNil then return x
    match assignableTyped w f.own x t with
    | .yes => return x
    | .unknown => return unknownOf x.expr
    | .no cause =>
      f.fault x.expr.pos ("cannot use " ++ f.show x ++ " as " ++ f.typeText t ++ " value in " ++
        context ++ (if cause.isEmpty then "" else ": " ++ cause))
      return unknownOf x.expr

/-- Gives an untyped operand the type `target` as an operator's other operand demands,
reporting a constant that does not fit. -/
def Frame.convertUntyped (f : Frame) (x : Operand) (target : GoType) : CheckM Operand := do
  let w := f.world
  if !x.type.isUntyped || !x.isKnown then return x
  match implicitType w x target with
  | .ok t => return { x with type := t }
  | .unknown => return unknownOf x.expr
  | .fault m =>
    let shown := match shownUnderlying w 16 target with
      | .invalid => target
      | u => u
    let msg := match m with
      | .truncated => f.show x ++ " truncated to " ++ f.typeText shown
      | .overflows => f.show x ++ " overflows " ++ f.typeText shown
      | .mismatch => "cannot convert " ++ f.show x ++ " to type " ++ f.typeText shown
    f.fault x.expr.pos msg
    return unknownOf x.expr

/-- Checks that a typed constant still fits its type after an operation. -/
def Frame.representable (f : Frame) (x : Operand) : CheckM Operand := do
  match x.mode, kindOf f.world x.type with
  | .constant v, some k =>
    if x.type.isUntyped || k.isEmpty then return x
    match representation k v k with
    | .ok () => return x
    | .error m =>
      let shown := shownUnderlying f.world 16 x.type
      let msg := match m with
        | .truncated => f.show x ++ " truncated to " ++ f.typeText shown
        | .overflows => f.show x ++ " overflows " ++ f.typeText shown
        | .mismatch => "cannot convert " ++ f.show x ++ " to type " ++ f.typeText shown
      f.fault x.expr.pos msg
      return unknownOf x.expr
  | _, _ => return x

/-- Whether an untyped operand may take the other operand's type before a binary
operation. -/
def mayConvert (w : World) (x y : Operand) : Bool :=
  if !x.type.isUntyped && !y.type.isUntyped then false
  else if ifaceTarget? w x.type == some true || ifaceTarget? w y.type == some true then true
  else
    let kx := kindOf w x.type
    let ky := kindOf w y.type
    let both (p : String → Bool) : Bool := match kx, ky with
      | some a, some b => p a == p b
      | _, _ => true
    if !both booleanKind || !both stringKind then false
    else if x.isNil then (hasNil w y.type).getD true
    else if y.isNil then (hasNil w x.type).getD true
    else match underlying w 16 x.type, underlying w 16 y.type with
      | .pointer _, _ | _, .pointer _ => false
      | _, _ => true

/-- Gives the operands of a binary operation one type where an untyped one may take the
other's. -/
def Frame.matchTypes (f : Frame) (x y : Operand) : CheckM (Operand × Operand) := do
  if mayConvert f.world x y then
    let x ← f.convertUntyped x y.type
    if !x.isKnown then return (x, y)
    let y ← f.convertUntyped y x.type
    return (x, y)
  return (x, y)

/-- The operand of a comparison's result: an untyped boolean, constant when both sides
are. -/
def comparisonResult (e : Expr) (op : Tok) (x y : Operand) : Operand :=
  match x.value?, y.value? with
  | some a, some b => ⟨.constant (compareConst op a b), untypedBool, e, []⟩
  | _, _ => ⟨.value, untypedBool, e, []⟩

/-- The element type of the channel an operand is, for a receive (`recv`) or a send; or why
the operation is not valid on it: it is not a channel, or one only for the other direction.
`none` when not known. -/
def Frame.chanElem (f : Frame) (x : Operand) (recv : Bool) : Option (Except String GoType) :=
  match x.type, underlying f.world 16 x.type with
  | .param _, _ | _, .invalid | _, .param _ => none
  | _, .chan d el =>
    if recv && d == .send then some (.error ("send-only channel " ++ f.typeText x.type))
    else if !recv && d == .recv then some (.error ("receive-only channel " ++ f.typeText x.type))
    else some (.ok el)
  | _, _ => some (.error ("non-channel " ++ f.typeText x.type))

/-- Why two operands cannot be compared, if they cannot: which operand the fault is at and
the cause. `none` when they can, or when it is not known. -/
def comparisonFault (f : Frame) (op : Tok) (x y : Operand) : Option (Operand × String) :=
  let w := f.world
  let xy := assignableOrUnknown x y.type
  let yx := assignableOrUnknown y x.type
  if xy == some false && yx == some false then
    some (y, "mismatched types " ++ f.typeText x.type ++ " and " ++ f.typeText y.type)
  else if xy.isNone && yx.isNone then none
  else if op == .lss || op == .leq || op == .gtr || op == .geq then
    match kindIs w orderedKind x.type, kindIs w orderedKind y.type with
    | some false, _ => some (x, undefinedOn x)
    | _, some false => some (y, undefinedOn y)
    | _, _ =>
      match paramSet x, paramSet y with
      | some (p, s), _ => if s.isOrdered w then none else some (x, paramCannot p)
      | _, some (p, s) => if s.isOrdered w then none else some (y, paramCannot p)
      | _, _ => none
  else if x.isNil || y.isNil then
    -- only `nil == nil` compares two operands without a type that has nil
    if x.isNil && y.isNil then some (y, undefinedOn y) else none
  else
    match paramSet x, paramSet y with
    | some (_, s), _ => if s.isComparable w then none else some (x, incomparableSet s)
    | _, some (_, s) => if s.isComparable w then none else some (y, incomparableSet s)
    | _, _ =>
      match comparableType w 16 x.type, comparableType w 16 y.type with
      | some false, _ => some (x, incomparable x)
      | _, some false => some (y, incomparable y)
      | _, _ => none
where
  /-- The type set of an operand whose type is a type parameter, with the parameter's name. -/
  paramSet (a : Operand) : Option (String × TypeSet) :=
    match a.type with
    | .param p => (f.bounds.lookup p).bind (typeSetOf f.world 16) |>.map (p, ·)
    | _ => none
  /-- Why the types of a type set cannot be compared. -/
  incomparableSet (s : TypeSet) : String :=
    match s.terms with
    | some [] => "empty type set"
    | _ => "incomparable types in type set"
  /-- An operator that a type parameter's types do not all allow. -/
  paramCannot (p : String) : String := "type parameter " ++ p ++ " cannot use operator " ++ op.text
  /-- The cause when no more particular one is known: the operator is not defined on the
  operand's kind of type. -/
  undefinedOn (a : Operand) : String := "operator " ++ op.text ++ " not defined on " ++ kindWord a.type
  /-- Why an operand's type is not comparable. -/
  incomparable (a : Operand) : String :=
    match underlying f.world 16 a.type with
    | .slice _ | .func _ | .map _ _ => kindWord a.type ++ " can only be compared to nil"
    | .struct fields =>
      match fields.find? (fun (fd : StructField) => match fd with
          | .mk _ _ _ ft _ => comparableType f.world 16 ft == some false) with
      | some (.mk _ _ _ ft _) => "struct containing " ++ f.typeText ft ++ " cannot be compared"
      | none => undefinedOn a
    | .array l el => f.typeText (.array l el) ++ " cannot be compared"
    | _ => undefinedOn a
  /-- Whether an operand is assignable to a type, `none` when not known. -/
  assignableOrUnknown (a : Operand) (t : GoType) : Option Bool :=
    if a.type.isUntyped then
      match implicitType f.world a t with
      | .ok _ => some true
      | .fault _ => some false
      | .unknown => none
    else if t.isUntyped then
      -- a typed value to an untyped kind: only an identical kind would do
      some false
    else
      match assignableTyped f.world f.own a t with
      | .yes => some true
      | .no _ => some false
      | .unknown => none
  /-- How an operator's fault names the kind of a type. -/
  kindWord (t : GoType) : String :=
    match underlying f.world 16 t with
    | .struct _ => "struct"
    | .pointer _ => "pointer"
    | .func _ => "func"
    | .iface _ _ _ => "interface"
    | .slice _ => "slice"
    | .map _ _ => "map"
    | .chan _ _ => "chan"
    | .array _ _ => "array"
    | _ => f.typeText t

/-- Declares a name in the innermost block, reporting a name the block already declares. -/
def Frame.declareName (f : Frame) (id : Ident) (e : Entity) : CheckM Unit := do
  if id.name == "_" then return
  match ← lookupInnermost id.name with
  | some _ =>
    let other ← placeInnermost id.name
    f.fault id.pos (id.name ++ " redeclared in this block")
      (if other == 0 then [] else [f.note other ("other declaration of " ++ id.name)])
    -- the name is not declared again, so a variable it would name is never reported unused
    match e with
    | .var i => markUsed i
    | _ => pure ()
  | none => bindName id.name e id.pos

/-- Reports the count mismatch of a constant or variable specification: a value without a
name, or (for constants, or variables with more than one value) a name without a value.
A specification that repeats an earlier one's values reports an extra value at `specPos`,
with where the value is. -/
def Frame.arity (f : Frame) (specPos : Nat) (names : List Ident) (inits : List Expr)
    (constDecl inherited : Bool) : CheckM Unit := do
  let l := names.length
  let r := inits.length
  if l < r then
    match inits[l]? with
    | some extra =>
      if inherited then
        let u := f.site.unit
        f.fault specPos ("extra init expr at " ++ u.path ++ ":" ++ toString (u.lines.line extra.pos) ++
          ":" ++ toString (u.lines.column extra.pos))
      else f.fault extra.pos ("extra init expr " ++ exprText extra)
    | none => pure ()
  else if l > r && (constDecl || r != 1) then
    match names[r]? with
    | some missing => f.fault missing.pos ("missing init expr for " ++ missing.name)
    | none => pure ()

/-- What a constant declared with the value `x` stands for; `declared` is the type the
declaration gives, if any. The value must be a constant that suits the type. -/
def Frame.constInit (f : Frame) (x : Operand) (declared : Option GoType) : CheckM Entity := do
  if !x.isKnown then return .const .invalid .unknown
  match x.mode with
  | .constant v =>
    let t := declared.getD x.type
    let r ← f.assignment x (some t) "constant declaration"
    if r.isKnown then return .const t v else return .const .invalid .unknown
  | _ =>
    f.fault x.expr.pos (f.show x ++ " is not constant")
    return .const .invalid .unknown

/-- The type a constant declaration gives: a type that is not a basic one is refused. -/
def Frame.constType (f : Frame) (te : Expr) (t : GoType) : CheckM GoType := do
  match kindOf f.world t with
  | some "" =>
    f.fault te.pos ("invalid constant type " ++ f.typeText t)
    return .invalid
  | _ => return t

/-- The blocks of a function in the order their unused variables are reported: the
function's block, then each block inside it (not inside a function literal), depth first. -/
def scopeOrder (tree : Array ScopeNode) : Nat → Nat → List Nat
  | 0, _ => []
  | n + 1, root =>
    let children := (List.range tree.size).filter fun i =>
      match tree[i]? with
      | some node => node.parent == some root && !node.isFunc
      | none => false
    root :: children.flatMap (scopeOrder tree n)

/-- Reports the variables of a function that are declared and not used. -/
def Frame.reportUnused (f : Frame) (funcScope : Nat) : CheckM Unit := do
  let s ← get
  for sc in scopeOrder s.tree (s.tree.size + 1) funcScope do
    let vars := s.locals.toList.filter fun v => v.scope == some sc && !v.used && v.name != "_"
    for v in vars.mergeSort (fun a b => a.pos ≤ b.pos) do
      f.fault v.pos ("declared and not used: " ++ v.name)

/-- The place of a value that initializes or is assigned: a new variable that takes the
value's type, and the type the value must suit. -/
structure InitTarget where
  fresh : Option Nat := none
  type : Option GoType := none

/-- The operands a statement's right-hand side gives its places: one per expression, or the
results of one call, or a value with its `ok`. -/
def spreadValues (x : Operand) (wantTwo : Bool) : List Operand :=
  match x.tuple with
  | [] =>
    match x.mode with
    | .commaok => if wantTwo then [{ x with mode := .value }, ⟨.value, untypedBool, x.expr, []⟩]
        else [x]
    | _ => [x]
  | ts => ts.map fun t => ⟨.value, t, x.expr, []⟩

/-- Initializes one place with a value. -/
def Frame.initOne (f : Frame) (target : InitTarget) (x : Operand) (context : String) :
    CheckM Unit := do
  if !x.isKnown then
    match target.fresh with
    | some i => setVarType i .invalid
    | none => pure ()
    return
  match target.type with
  | some t => discard (f.assignment x (some t) context)
  | none =>
    match target.fresh with
    | some i =>
      if x.isNil then
        f.fault x.expr.pos ("use of untyped nil in " ++ context)
        setVarType i .invalid
      else
        setVarType i x.type.defaultType
        discard (f.assignment x (some x.type.defaultType) context)
    | none => discard (f.assignment x none context)

/-- Reports a count mismatch of an assignment or initialization. -/
def Frame.assignMismatch (f : Frame) (rhs : List Expr) (l r : Nat) : CheckM Unit := do
  let first := rhs.headD default
  match rhs, first.unparen with
  | [_], .call fn _ _ _ _ =>
    f.fault first.pos ("assignment mismatch: " ++ measure l "variable" ++ " but " ++ exprText fn ++
      " returns " ++ measure r "value")
  | _, _ =>
    f.fault first.pos ("assignment mismatch: " ++ measure l "variable" ++ " but " ++ measure r "value")

/-- Reports a count mismatch of a return statement. -/
def Frame.returnMismatch (f : Frame) (retPos : Nat) (results : List GoType)
    (values : List Operand) : CheckM Unit := do
  let l := results.length
  let r := values.length
  if values.any (fun v => hasUnknown 16 v.type) || results.any (hasUnknown 16) then return
  let (pos, qualifier) :=
    if r > l then ((values[l]?.map (·.expr.pos)).getD retPos, "too many")
    else if r > 0 then ((values[r - 1]?.map (·.expr.pos)).getD retPos, "not enough")
    else (retPos, "not enough")
  f.fault pos (qualifier ++ " return values")
    [plainNote ("have " ++ typesSummary f.own (values.map (·.type)) false),
     plainNote ("want " ++ typesSummary f.own results false)]

/-- What checking an index gives: nothing usable (a fault was reported, or the operand is
not known), a valid index whose value is known only when the program runs, or a constant. -/
inductive IndexValue where
  | bad
  | runtime
  | known (v : Int)

/-- Two constant keys of a map literal are the same: numbers by value, whatever their
spelling. -/
def sameConstKey (a b : ConstValue) : Bool :=
  match a.toRat?, b.toRat? with
  | some p, some q => p == q
  | _, _ => a == b

/-- What a range clause over an operand gives: the types of its key and of its value, each
absent where the range has none; or why the operand cannot be ranged over (empty when there is
no particular cause). A pointer to an array ranges as the array; integers need go1.22 and
functions (iterators) go1.23, given whether the file's version allows a feature. -/
def rangeShape (w : World) (allows : Nat → Bool) (x : Operand) :
    Except String (Option GoType × Option GoType) :=
  let core := match underlying w 16 x.type with
    | .pointer p =>
      match underlying w 16 p with
      | .array l e => GoType.array l e
      | _ => .pointer p
    | t => t
  let bad := fun (why : String) => Except.error ("func must be func(yield func(...) bool): " ++ why)
  match core with
  | .basic n =>
    let n := basicIdentity n
    if stringKind n then .ok (some (.basic "int"), some (.basic "rune"))
    else if integerKind n then
      if allows 22 then .ok (some x.type, none) else .error "requires go1.22 or later"
    else .error ""
  | .slice e | .array _ e => .ok (some (.basic "int"), some e)
  | .map k v => .ok (some k, some v)
  | .chan d e => if d == .send then .error "receive from send-only channel" else .ok (some e, none)
  | .func (.mk ps rs _) =>
    if !allows 23 then .error "requires go1.23 or later"
    else match ps, rs with
      | [.mk _ pt], [] =>
        match underlying w 16 pt with
        | .func (.mk cps crs _) =>
          let types := cps.map fun (.mk _ t) => t
          if types.length > 2 then bad "yield func has too many parameters"
          else match crs with
            | [.mk _ rt] =>
              if identical w 16 rt (.basic "bool") then .ok (types.head?, (types.drop 1).head?)
              else if (kindOf w rt).any booleanKind then
                bad "yield func returns user-defined boolean, not bool"
              else bad "yield func does not return bool"
            | _ => bad "yield func does not return bool"
        | _ => bad "argument is not func"
      | [_], _ => bad "unexpected results"
      | _, _ => bad "wrong argument count"
  | _ => .error ""

/-- The type of a literal's kind. -/
def literalType : Tok → GoType
  | .int => untypedInt
  | .float => untypedFloat
  | .imag => untypedComplex
  | .char => untypedRune
  | _ => untypedString

/-- The number that tells a type declared inside a function apart from the package's other
types of its name: the file and the position of its name. -/
def localTypeKey (fileIndex pos : Nat) : Nat := (fileIndex + 1) * 4294967296 + pos

/-- The feature of go1.13 a numeric literal uses, if any: digit separators, binary and
`0o` octal prefixes, and hexadecimal mantissas of floating-point literals. Literals of at most
two characters use none. -/
def literalFeature (kind : Tok) (lit : String) : Option String :=
  let cs := lit.toList
  if cs.length ≤ 2 then none
  else if cs.contains '_' then some "underscore in numeric literal"
  else match cs with
    | '0' :: r :: _ =>
      if r == 'b' || r == 'B' then some "binary literal"
      else if r == 'o' || r == 'O' then some "0o/0O-style octal literal"
      else if kind != .int && (r == 'x' || r == 'X') then some "hexadecimal floating-point literal"
      else none
    | _ => none

/-- The predeclared constants and `nil`. -/
def universeValue? (name : String) (e : Expr) : Option Operand :=
  match name with
  | "true" => some ⟨.constant (.bool true), untypedBool, e, []⟩
  | "false" => some ⟨.constant (.bool false), untypedBool, e, []⟩
  | "nil" => some ⟨.value, untypedNil, e, []⟩
  | _ => none

/-- A frame for code of a package's file at package level. -/
def frameAt (w : World) (p : PackageDecls) (fileIndex : Nat) : Frame :=
  { site := Site.ofFile w p fileIndex, values := valueSites p, methods := methodSites p }

/-- A generic function of the package as a call sees it: its name, its type parameters
(name, where declared, constraint), its signature over them, and the file that declares it. -/
structure GenericFunc where
  name : String
  params : List (String × Nat × GoType)
  sig : FuncType
  unit : SourceUnit

/-- The generic function of the package a call's function expression names, with the type
arguments it gives (`A`, `A[T]`, `A[T, U]`); `none` for anything else. -/
def genericCallee (f : Frame) (fn : Expr) : CheckM (Option (GenericFunc × List Expr)) := do
  let (head, targs) := match fn with
    | .index x _ i _ => (x, [i])
    | .indexList x _ is _ => (x, is)
    | x => (x, [])
  let .ident id := head | return none
  if (← lookupLocal id.name).isSome then return none
  let some vs := f.values.find? (·.name == id.name) | return none
  let some sig := vs.sig | return none
  let some tps := sig.typeParams | return none
  if vs.kind != .kwFunc then return none
  let df := frameAt f.world f.site.pkg vs.fileIndex
  let names := tps.list.flatMap fun fd => fd.names.map (·.name)
  let site := { df.site with typeParams := names }
  let depth := site.unit.depth
  let params := tps.list.flatMap fun fd =>
    let bound := ((resolveType site depth fd.type).run []).1
    fd.names.map fun n => (n.name, n.pos, bound)
  let ft := ((resolveSig site depth sig).run []).1
  return some ({ name := id.name, params, sig := ft, unit := site.unit }, targs)

/-- Runs a computation at package level: no blocks around it. -/
def atPackageLevel {α : Type} (act : CheckM α) : CheckM α := do
  let saved := (← get).scopes
  modify fun s => { s with scopes := [] }
  let r ← act
  modify fun s => { s with scopes := saved }
  return r

/-- What an expression is, as a statement sees it. -/
inductive ExprKind where
  | conversion
  | expression
  | statement
  deriving DecidableEq

/-- The built-in functions whose calls may stand as statements. -/
def statementBuiltins : List String :=
  ["clear", "close", "copy", "delete", "panic", "print", "println", "recover"]

/-- Where the compiler places an error about a type expression: where it starts, except
that a function type starts at its parameters. -/
def compilerStart (e : Expr) : Nat :=
  match e with
  | .func sig => sig.params.opening
  | _ => e.pos

/-- What makes an interface usable only as a constraint: type terms among its elements
(`terms`), or being or embedding `comparable` (`comparable`); `none` for an interface of
methods only (or a type that is not an interface). -/
def constraintOnly (w : World) : Nat → GoType → Option String
  | 0, _ => none
  | n + 1, t =>
    match t with
    | .named ⟨"", _, "comparable", _⟩ _ => some "comparable"
    | _ =>
      match underlying w 16 t with
      | .iface _ _ embeddeds =>
        let kinds := embeddeds.map fun e =>
          match e with
          | .union _ => some "terms"
          | .named ⟨"", _, "comparable", _⟩ _ => some "comparable"
          | _ =>
            match underlying w 16 e with
            | .iface _ _ _ => constraintOnly w n e
            | .invalid => none
            | _ => some "terms"
        if kinds.contains (some "terms") then some "terms"
        else if kinds.contains (some "comparable") then some "comparable"
        else none
      | _ => none

/-- The type of a variable (a parameter, a result, a field, an element) may not be an
interface that only constraints may be. -/
def varTypeCheck (f : Frame) (te : Expr) : CheckM Unit := do
  let t ← quietly (bodyType f te)
  let what := "cannot use type " ++ f.typeText t ++ " outside a type constraint: "
  match constraintOnly f.world 8 t with
  | some "comparable" => f.fault te.pos (what ++ "interface is (or embeds) comparable")
  | some _ => f.fault te.pos (what ++ "interface contains type constraints")
  | none => pure ()

/-- The least number of arguments of a built-in function, and whether it takes more. -/
def builtinArity : String → Nat × Bool
  | "append" | "make" | "max" | "min" => (1, true)
  | "cap" | "clear" | "close" | "imag" | "len" | "new" | "panic" | "real" => (1, false)
  | "complex" | "copy" | "delete" => (2, false)
  | "print" | "println" => (0, true)
  | _ => (0, false)

/-- The expression calls a function or receives from a channel somewhere: then `len` and
`cap` of an array are not constant. -/
def hasCallOrRecv : Nat → Expr → Bool
  | 0, _ => true
  | n + 1, e =>
    match e with
    | .call _ _ _ _ _ => true
    | .unary _ .arrow _ => true
    | .paren _ x _ | .selector x _ | .star _ x | .unary _ _ x | .typeAssert x _ _ _ =>
      hasCallOrRecv n x
    | .index x _ i _ => hasCallOrRecv n x || hasCallOrRecv n i
    | .binary x _ _ y | .keyValue x _ y => hasCallOrRecv n x || hasCallOrRecv n y
    | .slice x _ lo hi mx _ _ =>
      hasCallOrRecv n x || [lo, hi, mx].any fun p => match p with
        | some p => hasCallOrRecv n p
        | none => false
    | .composite _ _ elts _ => elts.any (hasCallOrRecv n)
    | _ => false

/-- The array type under a type, through one pointer, as `len` and `cap` see it. -/
def arrayPtrDeref (w : World) (t : GoType) : GoType :=
  match t with
  | .pointer p =>
    match underlying w 16 p with
    | .array len el => .array len el
    | _ => t
  | _ => t

/-- A shift `x << y` or `x >> y` of checked operands. The shifted operand must be a whole
number (an untyped constant may be one that is whole), the count a whole number that is
not negative; a constant shift is computed (on an untyped operand it gives an untyped
whole number), a shift of an untyped constant by a count that is not constant takes the
type of its context, which is not followed. -/
def Frame.shift (f : Frame) (e : Expr) (x y : Operand) (op : Tok) : CheckM Operand := do
  let w := f.world
  let wholeConst := match x.value? with
    | some (.int _) => true
    | _ => false
  match kindOf w x.type with
  | none => return unknownOf e
  | some k =>
    if !(integerKind k || (x.type.isUntyped && wholeConst)) then
      f.fault x.expr.pos ("invalid operation: shifted operand " ++ f.show x ++ " must be integer")
      return unknownOf e
  let mut y := y
  match y.value? with
  | some v =>
    match v with
    | .int c =>
      if c < 0 then
        f.fault y.expr.pos ("invalid operation: negative shift count " ++ f.show y)
        return unknownOf e
    | _ => pure ()
    if y.type.isUntyped then
      match representation ((kindOf w y.type).getD "") v "uint" with
      | .ok () => pure ()
      | .error m =>
        let msg := match m with
          | .truncated => f.show y ++ " truncated to uint"
          | .overflows => f.show y ++ " overflows uint"
          | .mismatch => "cannot convert " ++ f.show y ++ " to type uint"
        f.fault y.expr.pos msg
        return unknownOf e
  | none =>
    match kindOf w y.type with
    | none => return unknownOf e
    | some k =>
      if integerKind k then pure ()
      else if y.type.isUntyped then
        y ← f.convertUntyped y (.basic "uint")
        if !y.isKnown then return unknownOf e
      else
        f.fault y.expr.pos ("invalid operation: shift count " ++ f.show y ++ " must be integer")
        return unknownOf e
  match x.value?, y.value? with
  | some a, some (.int c) =>
    if c > 1074 then
      f.fault y.expr.pos ("invalid operation: invalid shift count " ++ f.show y)
      return unknownOf e
    let t := if integerKind ((kindOf w x.type).getD "") then x.type else untypedInt
    f.representable ⟨.constant (shiftConst op a c.toNat), t, e, []⟩
  | some _, some _ => return unknownOf e
  | some _, none =>
    if x.type.isUntyped then return unknownOf e
    return ⟨.value, x.type, e, []⟩
  | none, _ => return ⟨.value, x.type, e, []⟩

mutual

/-- Checks an expression, giving its operand as it is (a type, a built-in, several
results and no result are all possible). -/
def rawExpr (f : Frame) : Nat → Expr → CheckM Operand
  | 0, e => pure (unknownOf e)
  | n + 1, e => do
    let w := f.world
    match e with
    | .bad _ _ => return unknownOf e
    | .basic _ kind lit =>
      if kind == .int || kind == .float || kind == .imag then
        match literalFeature kind lit with
        | some what => discard (f.requireVersion e.pos 13 what)
        | none => pure ()
      match ConstValue.ofLiteral kind lit with
      | some v => return ⟨.constant v, literalType kind, e, []⟩
      | none =>
        f.fault e.pos ("malformed constant: " ++ lit) [] .absent
        return unknownOf e
    | .ident id => identExpr f n id e
    | .paren _ x _ =>
      let r ← rawExpr f n x
      return { r with expr := e }
    | .selector x sel => selectorExpr f n e x sel
    | .call fn _ args ell rp => callExpr f n e fn args ell rp
    | .funcLit sig body =>
      let ft ← bodySig f sig
      modify fun s =>
        let item : Pending := { frame := f, scopes := s.scopes, type := ft, sig, body,
                                owner := s.owner }
        if s.quiet then s else { s with delayed := s.delayed.push item }
      return ⟨.value, .func ft, e, []⟩
    | .composite t _ elts rb =>
      match t with
      | some (.array _ (some (.ellipsis _ none)) elt) =>
        let et ← typeExpr f n elt
        let len ← indexedElts f n et elts none
        return ⟨.value, .array len et, e, []⟩
      | some te =>
        let ty ← typeExpr f n te
        compositeLit f n ty elts e.pos rb none
        return ⟨.value, ty, e, []⟩
      | none =>
        compositeLit f n .invalid elts e.pos rb none
        return unknownOf e
    | .index x _ i _ => indexExpr f n e x i
    | .indexList x _ is _ =>
      let _ ← rawExpr f n x
      for i in is do discard (typeOrValue f n i)
      return unknownOf e
    | .slice x _ lo hi mx three _ => sliceExpr f n e x [lo, hi, mx] three
    | .typeAssert x _ t _ =>
      let xo ← valueExpr f n x
      match t with
      | some te =>
        if !xo.isKnown then
          discard (typeExpr f n te)
          return unknownOf e
        match xo.type, underlying w 16 xo.type with
        | .param _, _ | _, .invalid => return unknownOf e
        | _, .iface _ _ _ => pure ()
        | _, _ =>
          f.fault xo.expr.pos ("invalid operation: " ++ f.show xo ++ " is not an interface")
          return unknownOf e
        let ty ← typeExpr f n te
        if hasUnknown 16 ty then return unknownOf e
        -- asserting a type that is not an interface: it must implement the operand's
        match underlying w 16 ty with
        | .iface _ _ _ | .invalid => pure ()
        | _ =>
          match implementsIface w f.own ty xo.type with
          | .no cause =>
            f.fault e.pos ("impossible type assertion: " ++ exprText e ++ "\n\t" ++ cause)
          | _ => pure ()
        return ⟨.commaok, ty, e, []⟩
      | none => return unknownOf e
    | .star _ x =>
      let xo ← typeOrValue f n x
      match xo.mode with
      | .typexpr => return ⟨.typexpr, .pointer xo.type, e, []⟩
      | .invalid => return unknownOf e
      | _ =>
        if xo.isNil then
          f.fault e.pos "invalid operation: cannot indirect nil"
          return unknownOf e
        match underlying w 16 xo.type with
        | .pointer p => return ⟨.variable, p, e, []⟩
        | .invalid => return unknownOf e
        | _ =>
          f.fault xo.expr.pos ("invalid operation: cannot indirect " ++ f.show xo)
          return unknownOf e
    | .unary _ op x => unaryExpr f n e op x
    | .binary x _ op y => binaryExpr f n e x op y false
    | .keyValue _ _ _ => return unknownOf e
    | .ellipsis _ _ => return unknownOf e
    | .array _ _ _ | .struct _ _ | .func _ | .iface _ _ | .map _ _ _ | .chan _ _ _ _ =>
      let t ← typeExpr f n e
      return ⟨.typexpr, t, e, []⟩

/-- Checks an expression that must give one value. -/
def valueExpr (f : Frame) : Nat → Expr → CheckM Operand
  | 0, e => pure (unknownOf e)
  | n + 1, e => do
    let x ← rawExpr f n e
    f.valueOnly x

/-- Checks an expression that may be a type or one value. -/
def typeOrValue (f : Frame) : Nat → Expr → CheckM Operand
  | 0, e => pure (unknownOf e)
  | n + 1, e => do
    let x ← rawExpr f n e
    match x.mode with
    | .typexpr => return x
    | _ => f.valueOnly x

/-- Checks an expression that may give several values. -/
def multiExpr (f : Frame) : Nat → Expr → CheckM Operand
  | 0, e => pure (unknownOf e)
  | n + 1, e => do
    let x ← rawExpr f n e
    f.valueOnly x true

/-- A name used as an expression. -/
def identExpr (f : Frame) : Nat → Ident → Expr → CheckM Operand
  | 0, _, e => pure (unknownOf e)
  | n + 1, id, e => do
    if id.name == "_" then
      f.fault id.pos "cannot use _ as value"
      return unknownOf e
    match ← lookupLocal id.name with
    | some (.var i) =>
      markUsed i
      let v ← localVar i
      return ⟨.variable, v.type, e, []⟩
    | some (.const t v) => return ⟨.constant v, t, e, []⟩
    | some (.typeName t) => return ⟨.typexpr, t, e, []⟩
    | none =>
      match f.values.find? (·.name == id.name) with
      | some vs =>
        noteDep id.name
        let r ← packageValue f n vs
        return { r with expr := e }
      | none =>
        match f.site.pkg.typeDecl? id.name with
        | some d =>
          if d.typeParams.isSome then return ⟨.typexpr, .invalid, e, []⟩
          let obj := declObj f.site.pkg d
          return ⟨.typexpr, (if d.isAlias then .aliased obj [] else .named obj []), e, []⟩
        | none =>
          if (f.site.unit.importPath? f.world id.name).isSome then
            f.fault id.pos ("use of package " ++ id.name ++ " not in selector")
            return unknownOf e
          match universeValue? id.name e with
          | some x => return x
          | none =>
            if id.name == "iota" then
              match f.iota with
              | some k => return ⟨.constant (.int k), untypedInt, e, []⟩
              | none =>
                f.fault id.pos "cannot use iota outside constant declaration"
                return unknownOf e
            else if builtinNames.contains id.name then
              return ⟨.builtin id.name, .invalid, e, []⟩
            else match predeclaredType? id.name with
              | some t => return ⟨.typexpr, t, e, []⟩
              | none =>
                f.fault id.pos ("undefined: " ++ id.name)
                return unknownOf e

/-- The operand a package-level constant, variable or function gives, read from its
declaration in the frame's package without reporting anything. -/
def packageValue (f : Frame) : Nat → ValueSite → CheckM Operand
  | 0, _ => pure (unknownOf default)
  | n + 1, vs => do
    let df : Frame := { frameAt f.world f.site.pkg vs.fileIndex with
                        values := f.values, methods := f.methods }
    let here : Expr := .ident ⟨vs.pos, vs.name⟩
    match vs.kind with
    | .kwFunc =>
      match vs.sig with
      | some sig =>
        if sig.typeParams.isSome then return unknownOf here
        let (ft, _) := (resolveSig df.site df.site.unit.depth sig).run []
        return ⟨.value, .func ft, here, []⟩
      | none => return unknownOf here
    | .kwVar =>
      match vs.typeExpr with
      | some te =>
        let (t, _) := (resolveType df.site df.site.unit.depth te).run []
        return ⟨.variable, t, here, []⟩
      | none =>
        match vs.init with
        | some init =>
          let x ← quietly (atPackageLevel (multiExpr df n init))
          if !x.isKnown then return unknownOf here
          let t := if vs.shared then
              ((spreadValues x true)[vs.index]?.map (·.type)).getD .invalid
            else x.type.defaultType
          if t.isNilType then return unknownOf here
          return ⟨.variable, t, here, []⟩
        | none => return unknownOf here
    | _ =>
      match vs.init with
      | none => return unknownOf here
      | some init =>
        let x ← quietly (atPackageLevel (valueExpr { df with iota := some vs.iota } n init))
        match x.mode with
        | .constant v =>
          match vs.typeExpr with
          | some te =>
            let (t, _) := (resolveType df.site df.site.unit.depth te).run []
            return ⟨.constant v, t, here, []⟩
          | none => return ⟨.constant v, x.type, here, []⟩
        | _ => return unknownOf here

/-- `x.sel`: a name of an imported package, or a field or method. -/
def selectorExpr (f : Frame) : Nat → Expr → Expr → Ident → CheckM Operand
  | 0, e, _, _ => pure (unknownOf e)
  | n + 1, e, x, sel => do
    let w := f.world
    -- a package name, unless something inside the function or the package hides it
    let pkgPath? : Option String ← match x with
      | .ident p => do
        if (← lookupLocal p.name).isSome then pure none
        else if (f.values.find? (·.name == p.name)).isSome then pure none
        else if (f.site.pkg.typeDecl? p.name).isSome then pure none
        else pure (f.site.unit.importPath? w p.name)
      | _ => pure none
    match pkgPath?, x with
    | some path, .ident p =>
      markImport f.site.fileIndex p.name
      match knownPackage? w path with
      | some pkg =>
        let sites := valueSites pkg
        let found : Option (CheckM Operand) :=
          match sites.find? (·.name == sel.name) with
          | some vs => some (do
              let pf := frameAt w pkg vs.fileIndex
              let r ← packageValue pf n vs
              pure { r with expr := e })
          | none =>
            match pkg.typeDecl? sel.name with
            | some d => some (pure (if d.typeParams.isSome then ⟨.typexpr, .invalid, e, []⟩
                else ⟨.typexpr, (if d.isAlias then .aliased (declObj pkg d) []
                  else .named (declObj pkg d) []), e, []⟩))
            | none => none
        match found with
        | none =>
          if pkg.complete then f.fault sel.pos ("undefined: " ++ p.name ++ "." ++ sel.name)
          return unknownOf e
        | some act =>
          if !Go.isExported sel.name then
            f.fault sel.pos ("name " ++ sel.name ++ " not exported by package " ++ pkg.name)
          act
      | none =>
        -- a package of the standard library: its functions' signatures, if catalogued
        match w.find? path with
        | some pkg =>
          if pkg.isOpen then return unknownOf e
          match (valueSites pkg).find? (·.name == sel.name) with
          | some vs =>
            if vs.kind == .kwFunc then
              let pf := frameAt w pkg vs.fileIndex
              let r ← packageValue pf n vs
              return { r with expr := e }
            else return unknownOf e
          | none =>
            match pkg.typeDecl? sel.name with
            | some d =>
              if d.typeParams.isSome || d.isAlias then return ⟨.typexpr, .invalid, e, []⟩
              return ⟨.typexpr, .named (declObj pkg d) [], e, []⟩
            | none => return unknownOf e
        | none => return unknownOf e
    | _, _ =>
      let xo ← typeOrValue f n x
      let own := f.site.pkg.path
      match xo.mode with
      | .invalid => return unknownOf e
      | .typexpr =>
        -- a method expression: the method as a function taking the receiver first
        match methodKey? w own xo.type sel.name with
        | some key => noteDep key
        | none => pure ()
        if hasUnknown 16 xo.type then return unknownOf e
        match selectField w own xo.type sel.name with
        | .method (.mk ps rs variadic) needsAddress =>
          if needsAddress then
            f.fault sel.pos ("invalid method expression " ++ exprText x ++ "." ++ sel.name ++
              " (needs pointer receiver (*" ++ f.typeText xo.type ++ ")." ++ sel.name ++ ")")
            return unknownOf e
          let recvName := match ps with
            | .mk name _ :: _ => if name.isEmpty then "" else "_"
            | [] => ""
          return ⟨.value, .func (.mk (.mk recvName xo.type :: ps) rs variadic), e, []⟩
        | .field _ =>
          f.fault sel.pos (exprText x ++ "." ++ sel.name ++ " undefined (type " ++
            f.typeText xo.type ++ " has no method " ++ sel.name ++ ")")
          return unknownOf e
        | .missing =>
          let why := missingMember w own xo.type (f.typeText xo.type) sel.name false
          f.fault sel.pos (exprText x ++ "." ++ sel.name ++ " undefined (" ++ why ++ ")")
          return unknownOf e
        | .unknown => return unknownOf e
      | _ =>
        if hasUnknown 16 xo.type then return unknownOf e
        let addressable := match xo.mode with
          | .variable => true
          | _ => false
        match selectField w own xo.type sel.name with
        | .field t =>
          let isPtr := match underlying w 16 xo.type with
            | .pointer _ => true
            | _ => false
          let mode := if addressable || isPtr then Mode.variable else .value
          return ⟨mode, t, e, []⟩
        | .method sig needsAddress =>
          match methodKey? w own xo.type sel.name with
          | some key => noteDep key
          | none => pure ()
          if needsAddress && !addressable then
            f.fault sel.pos ("cannot call pointer method " ++ sel.name ++ " on " ++
              f.typeText xo.type)
            return unknownOf e
          return ⟨.value, .func sig, e, []⟩
        | .unknown => return unknownOf e
        | .missing =>
          let why := missingMember w own xo.type (f.typeText xo.type) sel.name addressable
          f.fault sel.pos (exprText x ++ "." ++ sel.name ++ " undefined (" ++ why ++ ")")
          return unknownOf e

/-- The operands of a call's arguments: one call with several results spreads them. -/
def argOperands (f : Frame) : Nat → List Expr → CheckM (List Operand)
  | 0, _ => pure []
  | n + 1, args => do
    match args with
    | [a] =>
      let x ← multiExpr f n a
      if x.tuple.length ≥ 2 then return spreadValues x false
      return [x]
    | _ => args.mapM (valueExpr f n)

/-- `fn(args)`: a conversion, a call of a built-in, or a call of a function. -/
def callExpr (f : Frame) : Nat → Expr → Expr → List Expr → Nat → Nat → CheckM Operand
  | 0, e, _, _, _, _ => pure (unknownOf e)
  | n + 1, e, fn, args, ell, rparen => do
    let w := f.world
    if let some (g, targs) ← genericCallee f fn then
      return (← genericCall f n e fn g targs args ell rparen)
    let fx ← rawExpr f n fn
    match fx.mode with
    | .invalid =>
      for a in args do discard (rawExpr f n a)
      return unknownOf e
    | .typexpr => conversion f n e fx.type args
    | .builtin name => builtinCall f n e name args (ell != 0) rparen
    | .novalue =>
      for a in args do discard (rawExpr f n a)
      return unknownOf e
    | _ =>
      let sig? : Option FuncType := match underlying w 16 fx.type with
        | .func sig => some sig
        | _ => none
      match underlying w 16 fx.type, sig? with
      | .invalid, _ =>
        for a in args do discard (rawExpr f n a)
        return unknownOf e
      | _, none =>
        if fx.tuple.length ≥ 2 then
          for a in args do discard (rawExpr f n a)
          return unknownOf e
        f.fault fx.expr.pos ("invalid operation: cannot call " ++ f.show fx ++ ": " ++
          f.typeText fx.type ++ " is not a function")
        for a in args do discard (rawExpr f n a)
        return unknownOf e
      | _, some sig =>
        let xs ← argOperands f n args
        checkArguments f e fn sig xs (ell != 0) rparen
        match sig.results with
        | [] => return ⟨.novalue, .invalid, e, []⟩
        | [r] => return ⟨.value, r.type, e, []⟩
        | rs => return ⟨.value, .invalid, e, rs.map (·.type)⟩

/-- A call of a generic function of the package. Its type arguments are the ones given, then
those inferred from the typed arguments, from constraints with a core type, and from untyped
constant arguments; one that cannot be inferred is reported. The arguments are checked
against the parameters so instantiated, then each type argument against its constraint. A
mismatch in inference is not followed. -/
def genericCall (f : Frame) : Nat → Expr → Expr → GenericFunc → List Expr → List Expr → Nat →
    Nat → CheckM Operand
  | 0, e, _, _, _, _, _, _ => pure (unknownOf e)
  | n + 1, e, fn, g, targExprs, args, ell, rparen => do
    let w := f.world
    let lparen := match e with
      | .call _ l _ _ _ => l
      | _ => e.pos
    let targs ← targExprs.mapM (typeExpr f n)
    let xs ← argOperands f n args
    if xs.any (!·.isKnown) || targs.any (hasUnknown 16) || targs.length > g.params.length then
      return unknownOf e
    let some slots ← argumentSlots f e fn g.sig xs (ell != 0) rparen | return unknownOf e
    let tps := g.params.map (·.1)
    let bounds := g.params.map fun (p, _, bound) => (p, bound)
    let mut b : Binding := tps.zip targs
    let mut untyped : List (String × GoType) := []
    for (x, pt) in xs.zip slots do
      if !mentions tps 32 pt then continue
      if x.type.isUntyped then
        match pt with
        | .param p => if tps.contains p then untyped := untyped ++ [(p, x.type)]
        | _ => pure ()
      else
        match unify w tps 32 pt x.type b with
        | some b' => b := b'
        | none => return unknownOf e
    for _ in g.params do
      match coreStep w bounds b with
      | some b' => b := b'
      | none => return unknownOf e
    for (p, _, _) in g.params do
      if (b.lookup p).isNone then
        match untyped.filter (·.1 == p) with
        | [] => pure ()
        | (_, k) :: rest =>
          let top := rest.foldl (fun a (_, t) => if untypedRank t > untypedRank a then t else a) k
          b := (p, top.defaultType) :: b
    for _ in g.params do
      match coreStep w bounds b with
      | some b' => b := b'
      | none => return unknownOf e
    for (p, ppos, _) in g.params do
      if (b.lookup p).isNone then
        let u := g.unit
        let declared := u.path ++ ":" ++ toString (u.lines.line ppos) ++ ":" ++
          toString (u.lines.column ppos)
        let msg := "in call to " ++ exprText fn ++ ", cannot infer " ++ p ++ " (declared at " ++
          declared ++ ")"
        f.faultApart e.pos msg lparen msg
        return unknownOf e
    let context := "argument to " ++ exprText fn
    for (x, pt) in xs.zip slots do
      discard (f.assignment x (some (subst b 32 pt)) context)
    for ((p, _, bound), i) in g.params.zipIdx do
      let t := (b.lookup p).getD .invalid
      match satisfies w f.own t (subst b 32 bound) with
      | some msg =>
        let (pos, cpos) := match targExprs[i]? with
          | some te => (te.pos, te.pos)
          | none => (e.pos, lparen)
        f.faultApart pos msg cpos msg
        break
      | none => pure ()
    match (substSig b 32 g.sig).results with
    | [] => return ⟨.novalue, .invalid, e, []⟩
    | [r] => return ⟨.value, r.type, e, []⟩
    | rs => return ⟨.value, .invalid, e, rs.map (·.type)⟩

/-- Checks the number of arguments of a call against the parameters, giving the parameter
type each argument goes to when they fit. Too few arguments are reported at the closing
parenthesis (the compiler: at the last argument, or at the call without any). -/
def argumentSlots (f : Frame) (e fn : Expr) (sig : FuncType) (xs : List Operand)
    (dots : Bool) (rparen : Nat) : CheckM (Option (List GoType)) := do
  let params := sig.params.map (·.type)
  let nargs := xs.length
  let npars := params.length
  let (slots, npars) :=
    if sig.variadic && !dots then
      if nargs + 1 ≥ npars then
        let fixed := params.take (npars - 1)
        let last := match params.getLast? with
          | some (.slice el) => el
          | _ => .invalid
        (fixed ++ List.replicate (nargs - (npars - 1)) last, nargs)
      else (params, npars - 1)
    else (params, npars)
  if !sig.variadic && dots then
    f.fault e.pos ("cannot use ... in call to non-variadic " ++ exprText fn)
    return none
  if nargs != npars then
    if xs.any (fun x => hasUnknown 16 x.type) || params.any (hasUnknown 16) then return none
    let (pos, cpos, qualifier) :=
      if nargs > npars then
        let extra := (xs[npars]?.map (·.expr.pos)).getD e.pos
        (extra, extra, "too many")
      else
        ((if rparen != 0 then rparen else e.pos), (xs.getLast?.map (·.expr.pos)).getD e.pos,
          "not enough")
    let msg := qualifier ++ " arguments in call to " ++ exprText fn ++ "\n\thave " ++
      typesSummary f.own (xs.map (·.type)) false dots ++
      "\n\twant " ++ typesSummary f.own params sig.variadic
    f.faultApart pos msg cpos msg
    return none
  return some slots

/-- Checks the arguments of a call against the parameters. -/
def checkArguments (f : Frame) (e fn : Expr) (sig : FuncType) (xs : List Operand)
    (dots : Bool) (rparen : Nat) : CheckM Unit := do
  if xs.any (fun x => !x.isKnown) then return
  match ← argumentSlots f e fn sig xs dots rparen with
  | some slots =>
    let context := "argument to " ++ exprText fn
    for (x, t) in xs.zip slots do
      discard (f.assignment x (some t) context)
  | none => pure ()

/-- `T(x)`: a conversion. A constant argument must fit a basic target. -/
def conversion (f : Frame) : Nat → Expr → GoType → List Expr → CheckM Operand
  | 0, e, _, _ => pure (unknownOf e)
  | n + 1, e, t, args => do
    let w := f.world
    match args with
    | [a] =>
      let x ← valueExpr f n a
      if !x.isKnown then return ⟨.value, t, e, []⟩
      match x.value?, kindOf w t with
      | some v, some k =>
        if k.isEmpty then return ⟨.value, t, e, []⟩
        let fromKind := (kindOf w x.type).getD ""
        match fitsBasic v k with
        | .ok () => return ⟨.constant v, t, e, []⟩
        | .error _ =>
          if integerKind fromKind && stringKind k then return ⟨.value, t, e, []⟩
          if integerKind fromKind && integerKind k then
            f.fault x.expr.pos ("constant " ++ v.text ++ " overflows " ++ f.typeText t)
          else
            f.fault x.expr.pos ("cannot convert " ++ f.show x ++ " to type " ++ f.typeText t)
          return unknownOf e
      | _, _ => return ⟨.value, t, e, []⟩
    | _ =>
      for a in args do discard (rawExpr f n a)
      return unknownOf e

/-- A type written inside a function: resolved, then its array lengths and map keys
checked. -/
def typeExpr (f : Frame) : Nat → Expr → CheckM GoType
  | 0, _ => pure .invalid
  | n + 1, te => do
    let t ← bodyType f te
    typeChecks f n te
    return t

/-- Checks what resolving a type expression does not: each array length must be a constant
whole number that is not negative and fits `int`, and each map key type must be
comparable. -/
def typeChecks (f : Frame) : Nat → Expr → CheckM Unit
  | 0, _ => pure ()
  | n + 1, te => do
    let element (x : Expr) : CheckM Unit := do
      typeChecks f n x
      varTypeCheck f x
    let fields (fl : FieldList) : CheckM Unit := do
      for fd in fl.list do element fd.type
    match te with
    | .array _ (some len) elt =>
      match len with
      | .ellipsis _ _ => pure ()
      | _ => arrayLength f n len
      element elt
    | .array _ none elt | .star _ elt | .chan _ _ _ elt | .ellipsis _ (some elt) => element elt
    | .paren _ elt _ => typeChecks f n elt
    | .map _ k v =>
      element k
      element v
      let kt ← quietly (bodyType f k)
      if !hasUnknown 16 kt then
        if comparableType f.world 32 kt == some false then
          let msg := "invalid map key type " ++ f.typeText kt
          f.faultApart k.pos msg (compilerStart k) msg
    | .struct _ fl =>
      fields fl
      -- an embedded type is a type name or a pointer to one, neither a pointer type nor
      -- (through the pointer) an interface
      for fd in fl.list do
        if !fd.names.isEmpty then continue
        let t ← quietly (bodyType f fd.type)
        let (base, isPtr) := match t with
          | .pointer e => (e, true)
          | e => (e, false)
        match base with
        | .param _ =>
          f.fault fd.type.pos "embedded field type cannot be a (pointer to a) type parameter"
        | _ =>
          match underlying f.world 16 base with
          | .pointer _ => f.fault fd.type.pos "embedded field type cannot be a pointer"
          | .iface _ _ _ =>
            if isPtr then f.fault fd.type.pos "embedded field type cannot be a pointer to an interface"
          | _ => pure ()
    | .iface _ fl =>
      -- the elements of an interface are constraints; its methods' signatures are checked
      for fd in fl.list do
        match fd.type with
        | .func _ => typeChecks f n fd.type
        | _ => pure ()
    | .func sig =>
      fields sig.params
      match sig.results with
      | some r => fields r
      | none => pure ()
    | .index x _ i _ =>
      typeChecks f n x
      typeChecks f n i
    | .indexList x _ is _ =>
      typeChecks f n x
      for i in is do typeChecks f n i
    | _ => pure ()

/-- The length of an array type: a constant whole number that is not negative and fits
`int`. A name must name a constant. -/
def arrayLength (f : Frame) : Nat → Expr → CheckM Unit
  | 0, _ => pure ()
  | n + 1, len => do
    match len with
    | .ident id =>
      let named : Option Bool ← do
        match ← lookupLocal id.name with
        | some (.const _ _) => pure (some true)
        | some _ => pure (some false)
        | none =>
          if f.site.typeParams.contains id.name then pure (some false)
          else match f.values.find? (·.name == id.name) with
          | some vs => pure (some (vs.kind == .kwConst))
          | none =>
            if (f.site.pkg.typeDecl? id.name).isSome then pure (some false)
            else if (f.site.unit.importPath? f.world id.name).isSome then pure (some false)
            else if id.name == "true" || id.name == "false" || id.name == "iota" then pure (some true)
            else if id.name == "nil" || builtinNames.contains id.name ||
              (predeclaredType? id.name).isSome then pure (some false)
            else pure none
      match named with
      | none =>
        f.fault id.pos ("undefined array length " ++ id.name ++ " or missing type constraint")
        return
      | some false =>
        f.fault id.pos ("invalid array length " ++ id.name)
        return
      | some true => pure ()
    | _ => pure ()
    let x ← valueExpr f n len
    if !x.isKnown then return
    match x.value? with
    | none =>
      f.fault x.expr.pos ("array length " ++ f.show x ++ " must be constant")
    | some v =>
      let isInt := (kindIs f.world integerKind x.type).getD false
      if x.type.isUntyped || isInt then
        match v with
        | .int c => if 0 ≤ c && c < Int.pow 2 63 then return
        | .unknown => return
        | _ => pure ()
      f.fault x.expr.pos ((if isInt then "invalid array length " ++ f.show x
        else "array length " ++ f.show x ++ " must be integer"))

/-- A type written where a built-in expects one (`make`, `new`): an expression that is not
a type is reported. -/
def varType (f : Frame) : Nat → Expr → CheckM GoType
  | 0, _ => pure .invalid
  | n + 1, a => do
    match a.unparen with
    | .array _ _ _ | .struct _ _ | .func _ | .iface _ _ | .map _ _ _ | .chan _ _ _ _ =>
      typeExpr f n a
    | .ident _ | .selector _ _ | .star _ _ | .index _ _ _ _ | .indexList _ _ _ _ =>
      let x ← rawExpr f n a
      match x.mode with
      | .typexpr => return x.type
      | .invalid => return .invalid
      | .novalue =>
        f.fault a.pos (f.show x ++ " used as type")
        return .invalid
      | _ =>
        f.fault a.pos ((match a.unparen with
          | .ident _ | .selector _ _ => f.show x
          | _ => exprText a) ++ " is not a type")
        return .invalid
    | _ =>
      f.fault a.pos (exprText a ++ " is not a type")
      discard (rawExpr f n a)
      return .invalid

/-- An index (of an element, a slice bound or a size): a whole number, not negative when
constant, and below `bound` when there is one. -/
def indexValue (f : Frame) : Nat → Expr → Option Nat → CheckM IndexValue
  | 0, _, _ => pure .bad
  | n + 1, e, bound => do
    let x ← valueExpr f n e
    if !x.isKnown then return .bad
    let x ← f.convertUntyped x (.basic "int")
    if !x.isKnown then return .bad
    match kindOf f.world x.type with
    | none => return .bad
    | some k =>
      if !integerKind k then
        f.fault x.expr.pos ("invalid argument: index " ++ f.show x ++ " must be integer")
        return .bad
    match x.mode with
    | .constant v =>
      let some q := v.toRat? | return .bad
      if !q.isInt then return .bad
      let c := q.num
      if c < 0 then
        f.fault x.expr.pos ("invalid argument: index " ++ f.show x ++ " must not be negative")
        return .bad
      if c ≥ Int.pow 2 63 then
        f.fault x.expr.pos ("invalid argument: index " ++ f.show x ++ " overflows int")
        return .bad
      match bound with
      | some b =>
        if c ≥ b then
          f.fault x.expr.pos ("invalid argument: index " ++ toString c ++ " out of bounds [0:" ++
            toString b ++ "]")
          return .bad
      | none => pure ()
      return .known c
    | _ => return .runtime

/-- Checks the elements of an array or slice literal against the element type, and their
indices against the length when it is known; gives the length the elements fill (the
largest index plus one). -/
def indexedElts (f : Frame) : Nat → GoType → List Expr → Option Nat → CheckM Nat
  | 0, _, _, _ => pure 0
  | n + 1, et, elts, length => do
    let mut visited : List Int := []
    let mut index : Int := 0
    let mut most : Int := 0
    for el in elts do
      let mut valid := false
      let mut eval := el
      match el with
      | .keyValue k _ v =>
        match ← indexValue f n k length with
        | .known i =>
          index := i
          valid := true
        | .runtime => f.fault el.pos ("index " ++ exprText k ++ " must be integer constant")
        | .bad => pure ()
        eval := v
      | _ =>
        match length with
        | some l =>
          if index ≥ l then
            f.fault el.pos ("index " ++ toString index ++ " is out of bounds (>= " ++ toString l ++ ")")
          else valid := true
        | none => valid := true
      if valid then
        if visited.contains index then
          f.fault el.pos ("duplicate index " ++ toString index ++ " in array or slice literal")
        visited := index :: visited
      index := index + 1
      if index > most then most := index
      elemValue f n et eval "array or slice literal"
    return most.toNat

/-- Checks an element value of a composite literal against the element type; a literal
whose type is elided takes the element type (through a pointer). -/
def elemValue (f : Frame) : Nat → GoType → Expr → String → CheckM Unit
  | 0, _, _, _ => pure ()
  | n + 1, et, v, context => do
    match v with
    | .composite none lb inner rb =>
      let inner_t := match underlying f.world 16 et with
        | .pointer p => p
        | _ => et
      discard (compositeLit f n inner_t inner lb rb (some et))
    | _ =>
      let x ← valueExpr f n v
      if !hasUnknown 16 et then discard (f.assignment x (some et) context)

/-- A call of a built-in function: the number of arguments, then what each built-in
demands of them. -/
def builtinCall (f : Frame) : Nat → Expr → String → List Expr → Bool → Nat → CheckM Operand
  | 0, e, _, _, _, _ => pure (unknownOf e)
  | n + 1, e, name, args, dots, rparen => do
    let w := f.world
    let fnPos := e.pos
    if dots && name != "append" then
      let msg := "invalid operation: invalid use of ... with built-in " ++ name
      f.faultApart rparen msg e.pos msg
      for a in args do discard (rawExpr f n a)
      return unknownOf e
    let typeArgs := name == "make" || name == "new"
    let xs ← if typeArgs then pure [] else argOperands f n args
    if !typeArgs && xs.any (!·.isKnown) then return unknownOf e
    let nargs := if typeArgs then args.length else xs.length
    let (least, more) := builtinArity name
    let countFault := if nargs < least then some "not enough"
      else if !more && nargs > least then some "too many" else none
    match countFault with
    | some q =>
      let msg := "invalid operation: " ++ q ++ " arguments for " ++ exprText e ++ " (expected " ++
        toString least ++ ", found " ++ toString nargs ++ ")"
      f.faultApart rparen msg e.pos msg
      return unknownOf e
    | none => pure ()
    let x := xs.headD (unknownOf e)
    match name with
    | "len" | "cap" =>
      let isLen := name == "len"
      let intOf (v : Option ConstValue) : Operand := match v with
        | some c => ⟨.constant c, .basic "int", e, []⟩
        | none => ⟨.value, .basic "int", e, []⟩
      match x.type with
      | .param _ => return intOf none
      | _ => pure ()
      match arrayPtrDeref w (underlying w 16 x.type) with
      | .invalid => return unknownOf e
      | .basic b =>
        if stringKind (basicIdentity b) && isLen then
          match x.value? with
          | some (.str str) => return intOf (some (.int str.utf8ByteSize))
          | some _ => return intOf (some .unknown)
          | none => return intOf none
      | .array len _ =>
        let a := args.headD e
        return intOf (if hasCallOrRecv (a.end + 1) a then none else some (.int len))
      | .slice _ | .chan _ _ => return intOf none
      | .map _ _ => if isLen then return intOf none
      | _ => pure ()
      f.fault x.expr.pos ("invalid argument: " ++ f.show x ++ " for built-in " ++ name)
      return unknownOf e
    | "clear" =>
      discard (f.requireVersion fnPos 21 "clear")
      match x.type with
      | .param _ => return ⟨.novalue, .invalid, e, []⟩
      | _ => pure ()
      match underlying w 16 x.type with
      | .invalid => return unknownOf e
      | .map _ _ | .slice _ => return ⟨.novalue, .invalid, e, []⟩
      | _ =>
        f.fault x.expr.pos ("invalid argument: cannot clear " ++ f.show x ++
          ": argument must be (or constrained by) map or slice")
        return unknownOf e
    | "close" =>
      match x.type with
      | .param _ => return ⟨.novalue, .invalid, e, []⟩
      | _ => pure ()
      match underlying w 16 x.type with
      | .invalid => return unknownOf e
      | .chan .recv _ =>
        f.fault x.expr.pos ("invalid operation: cannot close receive-only channel " ++ f.show x)
        return unknownOf e
      | .chan _ _ => return ⟨.novalue, .invalid, e, []⟩
      | _ =>
        f.fault x.expr.pos ("invalid operation: cannot close non-channel " ++ f.show x)
        return unknownOf e
    | "complex" =>
      let y := xs.getD 1 (unknownOf e)
      let floatish (o : Operand) : Operand :=
        match o.type with
        | .basic "untyped int" | .basic "untyped rune" | .basic "untyped float" =>
          { o with type := untypedFloat }
        | _ => o
      let (x, y) ← match x.type.isUntyped, y.type.isUntyped with
        | false, false => pure (x, y)
        | true, false => do pure (← f.convertUntyped x y.type, y)
        | false, true => do pure (x, ← f.convertUntyped y x.type)
        | true, true =>
          if x.value?.isSome && y.value?.isSome then pure (floatish x, floatish y)
          else do pure (← f.convertUntyped x (.basic "float64"), ← f.convertUntyped y (.basic "float64"))
      if !x.isKnown || !y.isKnown || hasUnknown 16 x.type || hasUnknown 16 y.type then
        return unknownOf e
      if !identical w 32 x.type y.type then
        f.fault x.expr.pos ("invalid operation: " ++ exprText e ++ " (mismatched types " ++
          f.typeText x.type ++ " and " ++ f.typeText y.type ++ ")")
        return unknownOf e
      let result? : Option GoType := match x.type with
        | .basic "untyped float" => some untypedComplex
        | _ => match underlying w 16 x.type with
          | .basic "float32" => some (.basic "complex64")
          | .basic "float64" => some (.basic "complex128")
          | _ => none
      match result? with
      | none =>
        f.fault x.expr.pos ("invalid argument: arguments have type " ++ f.typeText x.type ++
          ", expected floating-point")
        return unknownOf e
      | some t =>
        if x.value?.isSome && y.value?.isSome then return ⟨.constant .unknown, t, e, []⟩
        return ⟨.value, t, e, []⟩
    | "copy" =>
      let y := xs.getD 1 (unknownOf e)
      let bytes : GoType := .slice (.basic "byte")
      let toBytes := match assignableTyped w f.own x bytes with
        | .yes => true
        | _ => false
      let special := toBytes && match underlying w 16 y.type with
        | .slice el => identical w 32 el (.basic "byte")
        | .basic b => stringKind b
        | _ => false
      if !special then
        let elemOf (o : Operand) : Option GoType := match underlying w 16 o.type with
          | .slice el => some el
          | _ => none
        let shown (o : Operand) : String := if o.isNil then "untyped nil" else f.show o
        if hasUnknown 16 x.type || hasUnknown 16 y.type then return ⟨.value, .basic "int", e, []⟩
        match elemOf x with
        | none =>
          f.fault x.expr.pos ("invalid copy: argument must be a slice; have " ++ shown x)
          return unknownOf e
        | some dst =>
          let src? := match elemOf y, underlying w 16 y.type with
            | some el, _ => some el
            | none, .basic b => if stringKind b then some (.basic "byte") else none
            | none, _ => none
          match src? with
          | none =>
            f.fault y.expr.pos ("invalid copy: argument must be a slice; have " ++ shown y)
            return unknownOf e
          | some src =>
            if !identical w 32 dst src then
              f.fault x.expr.pos ("invalid copy: arguments " ++ f.show x ++ " and " ++ f.show y ++
                " have different element types " ++ f.typeText dst ++ " and " ++ f.typeText src)
              return unknownOf e
      return ⟨.value, .basic "int", e, []⟩
    | "delete" =>
      let key := xs.getD 1 (unknownOf e)
      match underlying w 16 x.type with
      | .invalid => return ⟨.novalue, .invalid, e, []⟩
      | .map k _ =>
        if !hasUnknown 16 k then discard (f.assignment key (some k) "argument to delete")
        return ⟨.novalue, .invalid, e, []⟩
      | _ =>
        match x.type with
        | .param _ => return ⟨.novalue, .invalid, e, []⟩
        | _ =>
          f.fault x.expr.pos ("invalid argument: " ++ f.show x ++ " is not a map")
          return unknownOf e
    | "imag" | "real" =>
      let x ← if x.type.isUntyped then
          match x.value? with
          | some _ =>
            match x.type with
            | .basic "untyped int" | .basic "untyped rune" | .basic "untyped float"
            | .basic "untyped complex" => pure { x with type := untypedComplex }
            | _ => pure x
          | none => f.convertUntyped x (.basic "complex128")
        else pure x
      if !x.isKnown then return unknownOf e
      let result? : Option GoType := match x.type with
        | .basic "untyped complex" => some untypedFloat
        | _ => match underlying w 16 x.type with
          | .basic "complex64" => some (.basic "float32")
          | .basic "complex128" => some (.basic "float64")
          | _ => none
      match result? with
      | none =>
        if hasUnknown 16 x.type then return unknownOf e
        f.fault x.expr.pos ("invalid argument: argument has type " ++ f.typeText x.type ++
          ", expected complex type")
        return unknownOf e
      | some t =>
        match x.value? with
        | some v =>
          let part := match v with
            | .int _ | .frac _ => if name == "real" then v else .int 0
            | _ => .unknown
          return ⟨.constant part, t, e, []⟩
        | none => return ⟨.value, t, e, []⟩
    | "make" =>
      let arg0 := args.headD e
      let t ← varType f n arg0
      if hasUnknown 16 t then
        for a in args.drop 1 do discard (valueExpr f n a)
        return (if t matches .invalid then unknownOf e else ⟨.value, t, e, []⟩)
      let least? : Option Nat := match t with
        | .param _ => none
        | _ => match underlying w 16 t with
          | .slice _ => some 2
          | .map _ _ | .chan _ _ => some 1
          | _ => some 0
      match least? with
      | none =>
        for a in args.drop 1 do discard (valueExpr f n a)
        return ⟨.value, t, e, []⟩
      | some 0 =>
        f.fault arg0.pos ("invalid argument: cannot make " ++ exprText arg0 ++
          ": type must be slice, map, or channel")
        return unknownOf e
      | some least =>
        if nargs < least || least + 1 < nargs then
          f.fault e.pos ("invalid operation: " ++ exprText e ++ " expects " ++ toString least ++
            " or " ++ toString (least + 1) ++ " arguments; found " ++ toString nargs)
          return unknownOf e
        let mut sizes : List Int := []
        for a in args.drop 1 do
          match ← indexValue f n a none with
          | .known v => sizes := sizes ++ [v]
          | _ => pure ()
        match sizes with
        | [len, cap] =>
          if len > cap then f.fault ((args.getD 1 e).pos) "invalid argument: length and capacity swapped"
        | _ => pure ()
        return ⟨.value, t, e, []⟩
    | "max" | "min" =>
      if !(← f.requireVersion fnPos 21 ("built-in " ++ name)) then return unknownOf e
      let mut acc := x
      let mut first := true
      for a in xs do
        match kindOf w a.type with
        | none => return unknownOf e
        | some k =>
          if !orderedKind k then
            match a.type with
            | .param _ => pure ()
            | _ =>
              f.fault a.expr.pos ("invalid argument: " ++ f.show a ++ " cannot be ordered")
              return unknownOf e
        if first then
          first := false
          acc := a
          continue
        let (acc', a') ← f.matchTypes acc a
        if !acc'.isKnown || !a'.isKnown then return unknownOf e
        if !identical w 32 acc'.type a'.type then
          f.fault a'.expr.pos ("invalid argument: mismatched types " ++ f.typeText acc'.type ++
            " (previous argument) and " ++ f.typeText a'.type ++ " (type of " ++ exprText a'.expr ++ ")")
          return unknownOf e
        match acc'.value?, a'.value? with
        | some u, some v =>
          let pick := match compareConst (if name == "max" then .gtr else .lss) v u with
            | .bool true => true
            | _ => false
          acc := if pick then a' else acc'
        | _, _ => acc := { acc' with mode := .value }
      match acc.value? with
      | some v => return ⟨.constant v, acc.type, e, []⟩
      | none =>
        let r ← f.assignment { acc with mode := .value, expr := acc.expr } (some emptyIface)
          ("argument to built-in " ++ name)
        if !r.isKnown then return unknownOf e
        return ⟨.value, acc.type.defaultType, e, []⟩
    | "new" =>
      let t ← varType f n (args.headD e)
      match t with
      | .invalid => return unknownOf e
      | _ => return ⟨.value, .pointer t, e, []⟩
    | "panic" =>
      discard (f.assignment x (some emptyIface) "argument to panic")
      return ⟨.novalue, .invalid, e, []⟩
    | "print" | "println" =>
      for a in xs do discard (f.assignment a none ("argument to built-in" ++ name))
      return ⟨.novalue, .invalid, e, []⟩
    | "recover" => return ⟨.value, emptyIface, e, []⟩
    | "append" =>
      if hasUnknown 16 x.type then return unknownOf e
      match x.type with
      | .param _ => return ⟨.value, x.type, e, []⟩
      | _ => pure ()
      match underlying w 16 x.type with
      | .slice el =>
        let special := dots && nargs == 2 && identical w 32 el (.basic "byte") &&
          match underlying w 16 (xs.getD 1 x).type with
          | .basic b => stringKind b
          | _ => false
        if !special then
          let sig : FuncType := .mk [Var.mk "" x.type, Var.mk "" (.slice el)] [Var.mk "" x.type] true
          checkArguments f e (match e with
            | .call fn _ _ _ _ => fn
            | _ => e) sig xs dots rparen
        return ⟨.value, x.type, e, []⟩
      | _ =>
        f.fault x.expr.pos ("invalid append: argument must be a slice; have " ++
          (if x.isNil then "untyped nil" else f.show x))
        return unknownOf e
    | _ => return unknownOf e

/-- `x[i]`: an element of an array, slice, string or map; or an instantiation. -/
def indexExpr (f : Frame) : Nat → Expr → Expr → Expr → CheckM Operand
  | 0, e, _, _ => pure (unknownOf e)
  | n + 1, e, x, i => do
    let w := f.world
    let xo ← typeOrValue f n x
    match xo.mode with
    | .typexpr =>
      discard (typeOrValue f n i)
      return ⟨.typexpr, .invalid, e, []⟩
    | .invalid =>
      discard (typeOrValue f n i)
      return unknownOf e
    | _ =>
      if xo.tuple.length ≥ 2 then return unknownOf e
      let indexed (r : Operand) (length : Option Nat) : CheckM Operand := do
        discard (indexValue f n i length)
        return r
      match underlying w 16 xo.type with
      | .slice el => indexed ⟨.variable, el, e, []⟩ none
      | .array l el => indexed ⟨(match xo.mode with
          | .variable => .variable
          | _ => .value), el, e, []⟩ (some l)
      | .pointer p =>
        match underlying w 16 p with
        | .array l el => indexed ⟨.variable, el, e, []⟩ (some l)
        | _ => cannotIndex f n e x i xo
      | .map k v =>
        let key ← valueExpr f n i
        if !hasUnknown 16 k then discard (f.assignment key (some k) "map index")
        return ⟨.mapindex, v, e, []⟩
      | .basic b =>
        if stringKind (basicIdentity b) then
          let length := match xo.value? with
            | some (.str str) => some str.utf8ByteSize
            | _ => none
          indexed ⟨.value, .basic "byte", e, []⟩ length
        else if xo.isKnown then cannotIndex f n e x i xo
        else return unknownOf e
      | .func (.mk _ _ _) => cannotIndex f n e x i xo
      | .invalid | .param _ => discard (valueExpr f n i); return unknownOf e
      | .iface _ _ _ => discard (valueExpr f n i); return unknownOf e
      | _ => cannotIndex f n e x i xo

/-- A slice expression `x[lo:hi]` or `x[lo:hi:max]`. Strings (not with three indices),
addressable arrays, pointers to arrays and slices may be sliced; constant indices must be in
bounds (the length of a constant string or of an array, inclusive) and in order. -/
def sliceExpr (f : Frame) : Nat → Expr → Expr → List (Option Expr) → Bool → CheckM Operand
  | 0, e, _, _, _ => pure (unknownOf e)
  | n + 1, e, x, parts, three => do
    let w := f.world
    let xo ← valueExpr f n x
    let useParts : CheckM Unit := do
      for part in parts do
        match part with
        | some p => discard (valueExpr f n p)
        | none => pure ()
    if !xo.isKnown then
      useParts
      return unknownOf e
    let cannot (msg : String) : CheckM Operand := do
      f.fault xo.expr.pos msg
      return unknownOf e
    let (r, length) : Operand × Option Nat ← match underlying w 16 xo.type with
      | .basic b =>
        if stringKind (basicIdentity b) then
          if three then
            let third := match parts.getD 2 none with
              | some m => m.pos
              | none => e.pos
            f.fault third "invalid operation: 3-index slice of string"
            return unknownOf e
          let length := match xo.value? with
            | some (.str str) => some str.utf8ByteSize
            | _ => none
          pure (⟨.value, (if xo.type.isUntyped then .basic "string" else xo.type), e, []⟩, length)
        else return (← cannot ("cannot slice " ++ f.show xo))
      | .slice _ => pure (⟨.value, xo.type, e, []⟩, none)
      | .array l el =>
        match xo.mode with
        | .variable => pure (⟨.value, .slice el, e, []⟩, some l)
        | _ => return (← cannot ("invalid operation: cannot slice " ++ f.show xo ++ " (value not addressable)"))
      | .pointer p =>
        match underlying w 16 p with
        | .array l el => pure (⟨.value, .slice el, e, []⟩, some l)
        | _ => return (← cannot ("cannot slice " ++ f.show xo))
      | .invalid | .param _ | .iface _ _ _ =>
        useParts
        return unknownOf e
      | _ => return (← cannot ("cannot slice " ++ f.show xo))
    let mut ind : List (Option Int × Option Expr) := []
    for (part, k) in parts.zipIdx do
      let v : Option Int ← match part with
        | some p =>
          match ← indexValue f n p (length.map (· + 1)) with
          | .known c => pure (some c)
          | _ => pure none
        | none =>
          if k == 0 then pure (some 0)
          else pure ((length.map (fun l => (l : Int))))
      ind := ind ++ [(v, part)]
    -- the first pair out of order is reported, at the later index
    let mut reported := false
    for ((xv, _), k) in ind.zipIdx do
      if reported then break
      match xv with
      | some xv =>
        if xv > 0 then
          for (yv, later) in ind.drop (k + 1) do
            match yv, later with
            | some yv, some later =>
              if yv < xv && !reported then
                f.fault later.pos ("invalid slice indices: " ++ toString yv ++ " < " ++ toString xv)
                reported := true
            | _, _ => pure ()
      | none => pure ()
    return r

/-- Reports an operand that cannot be indexed: where its expression starts (the compiler:
at the bracket), checking the index too. -/
def cannotIndex (f : Frame) : Nat → Expr → Expr → Expr → Operand → CheckM Operand
  | 0, e, _, _, _ => pure (unknownOf e)
  | n + 1, e, x, i, xo => do
    let lbrack := match e with
      | .index _ l _ _ => l
      | _ => x.pos
    let msg := "invalid operation: cannot index " ++ f.show xo
    f.faultApart x.pos msg lbrack msg
    discard (valueExpr f n i)
    return unknownOf e

/-- A unary operation. -/
def unaryExpr (f : Frame) : Nat → Expr → Tok → Expr → CheckM Operand
  | 0, e, _, _ => pure (unknownOf e)
  | n + 1, e, op, x => do
    let w := f.world
    match op with
    | .and =>
      let xo ← match x.unparen with
        | .composite _ _ _ _ => rawExpr f n x
        | _ => valueExpr f n x
      if !xo.isKnown then return unknownOf e
      match xo.mode with
      | .variable => return ⟨.value, .pointer xo.type, e, []⟩
      | .value =>
        match x.unparen with
        | .composite _ _ _ _ => return ⟨.value, .pointer xo.type, e, []⟩
        | _ =>
          f.fault xo.expr.pos ("invalid operation: cannot take address of " ++ f.show xo)
          return unknownOf e
      | _ =>
        f.fault xo.expr.pos ("invalid operation: cannot take address of " ++ f.show xo)
        return unknownOf e
    | .arrow =>
      let xo ← valueExpr f n x
      if !xo.isKnown then return unknownOf e
      match f.chanElem xo true with
      | some (.ok el) => return ⟨.commaok, el, e, []⟩
      | some (.error cause) =>
        f.fault xo.expr.pos ("invalid operation: cannot receive from " ++ cause ++ " " ++ f.show xo)
        return unknownOf e
      | none => return unknownOf e
    | _ =>
      let xo ← valueExpr f n x
      if !xo.isKnown then return unknownOf e
      match kindOf w xo.type with
      | none => return unknownOf e
      | some k =>
        if !unaryOpAllows op k then
          f.fault xo.expr.pos ("invalid operation: operator " ++ op.text ++ " not defined on " ++
            f.show xo)
          return unknownOf e
        match xo.mode with
        | .constant v =>
          let r : Operand := ⟨.constant (unaryConst op k v), xo.type, e, []⟩
          f.representable r
        | _ => return ⟨.value, xo.type, e, []⟩

/-- A binary operation. -/
def binaryExpr (f : Frame) : Nat → Expr → Expr → Tok → Expr → Bool → CheckM Operand
  | 0, e, _, _, _, _ => pure (unknownOf e)
  | n + 1, e, x, op, y, compound => do
    let w := f.world
    let xo ← valueExpr f n x
    let yo ← valueExpr f n y
    if !xo.isKnown || !yo.isKnown then return unknownOf e
    if op == .shl || op == .shr then f.shift e xo yo op
    else
      let (xo, yo) ← f.matchTypes xo yo
      if !xo.isKnown || !yo.isKnown then return unknownOf e
      if isComparison op then
        if hasUnknown 16 xo.type || hasUnknown 16 yo.type then return comparisonResult e op xo yo
        match comparisonFault f op xo yo with
        | some (culprit, cause) =>
          f.fault culprit.expr.pos ("invalid operation: " ++ exprText x ++ " " ++ op.text ++ " " ++
            exprText y ++ " (" ++ cause ++ ")")
          return unknownOf e
        | none => return comparisonResult e op xo yo
      if hasUnknown 16 xo.type || hasUnknown 16 yo.type then return unknownOf e
      if !identical w 32 xo.type yo.type then
        let shown := if compound then exprText x ++ " " ++ op.text ++ "= " ++ exprText y
          else exprText e
        f.fault (if compound then x.pos else e.pos) ("invalid operation: " ++ shown ++
          " (mismatched types " ++ f.typeText xo.type ++ " and " ++ f.typeText yo.type ++ ")")
        return unknownOf e
      match kindOf w xo.type with
      | none => return unknownOf e
      | some k =>
        if !binaryOpAllows op k then
          f.fault xo.expr.pos ("invalid operation: operator " ++ op.text ++ " not defined on " ++
            f.show xo)
          return unknownOf e
        if op == .quo || op == .rem then
          match yo.value? with
          | some v =>
            let zero := match v with
              | .int 0 => true
              | .frac q => q == 0
              | _ => false
            if zero && (xo.value?.isSome || integerKind k) then
              f.fault yo.expr.pos "invalid operation: division by zero"
              return unknownOf e
          | none => pure ()
        match xo.value?, yo.value? with
        | some a, some b =>
          f.representable ⟨.constant (binaryConst op k a b), xo.type, e, []⟩
        | _, _ => return ⟨.value, xo.type, e, []⟩

/-- Checks the elements of a composite literal of type `t`, which starts at `start` and ends
with the brace at `rb`; `hint` is the element type it takes when its type is elided. A
struct literal gives every field by name or none; one without names gives the fields in
order, and only those it may name. -/
def compositeLit (f : Frame) : Nat → GoType → List Expr → Nat → Nat → Option GoType → CheckM Unit
  | 0, _, _, _, _, _ => pure ()
  | n + 1, t, elts, start, rb, hint => do
    let w := f.world
    let own := f.site.pkg.path
    match underlying w 16 t with
    | .struct fields =>
      if !simpleStruct fields then
        for el in elts do
          match el with
          | .keyValue _ _ v => discard (valueExpr f n v)
          | v => discard (valueExpr f n v)
        return
      let structText := f.typeText t
      let mixture := "mixture of field:value and value elements in struct literal"
      match elts with
      | .keyValue _ _ _ :: _ =>
        let mut visited : List String := []
        for el in elts do
          match el with
          | .keyValue (.ident key) _ v =>
            let field? := fields.find? fun (.mk nm p _ _ _) =>
              nm == key.name && accessible own p nm
            match field? with
            | some (.mk nm _ _ ft _) =>
              elemValue f n ft v "struct literal"
              if visited.contains nm then
                f.fault key.pos ("duplicate field name " ++ key.name ++ " in struct literal")
              visited := nm :: visited
            | none =>
              discard (valueExpr f n v)
              let alt := (fields.find? fun (.mk nm _ _ _ _) => sameFolded nm key.name).map
                fun (.mk nm p _ _ _) => (nm, p)
              let unknown := "unknown field " ++ key.name ++ " in struct literal of type " ++
                structText
              let msg := match missKind own key.name alt, alt with
                | .misspelled, some (a, _) => unknown ++ ", but does have " ++ a
                | .unexported, some (a, _) => unknown ++ ", but does have unexported " ++ a
                | .inaccessible, some (a, _) =>
                  "cannot refer to unexported field " ++ a ++ " in struct literal of type " ++
                    structText
                | _, _ => unknown
              f.fault key.pos msg
          | .keyValue k _ v =>
            discard (valueExpr f n v)
            f.fault k.pos ("invalid field name " ++ exprText k ++ " in struct literal")
          | v => f.fault v.pos mixture
      | _ =>
        let mut i := 0
        for el in elts do
          match el with
          | .keyValue k _ _ => f.fault k.pos mixture
          | v =>
            match (fields[i]? : Option StructField) with
            | none =>
              let x ← valueExpr f n v
              f.fault x.expr.pos ("too many values in struct literal of type " ++ structText)
              break
            | some (.mk nm p _ ft _) =>
              if accessible own p nm then elemValue f n ft v "struct literal"
              else
                let x ← valueExpr f n v
                f.fault x.expr.pos ("implicit assignment to unexported field " ++ nm ++
                  " in struct literal of type " ++ structText)
          i := i + 1
        if !elts.isEmpty && elts.length < fields.length then
          f.fault rb ("too few values in struct literal of type " ++ structText)
    | .array l et => discard (indexedElts f n et elts (some l))
    | .slice et => discard (indexedElts f n et elts none)
    | .map kt vt =>
      -- constant keys may not repeat; under an interface key type, only with one type
      let keyIface := ifaceTarget? w kt == some true
      let mut seen : List (ConstValue × String) := []
      for el in elts do
        match el with
        | .keyValue k _ v =>
          let x ← match k with
            | .composite none lb inner rb => do
              let inner_t := match underlying w 16 kt with
                | .pointer p => p
                | _ => kt
              compositeLit f n inner_t inner lb rb (some kt)
              pure (unknownOf k)
            | _ => do
              let x ← valueExpr f n k
              if hasUnknown 16 kt then pure (unknownOf k)
              else f.assignment x (some kt) "map literal"
          match x.mode with
          | .constant c =>
            let tag := if keyIface then f.typeText x.type else ""
            if seen.any (fun (c', t') => sameConstKey c c' && t' == tag) then
              f.fault x.expr.pos ("duplicate key " ++ c.text ++ " in map literal")
              continue
            seen := (c, tag) :: seen
          | _ => pure ()
          elemValue f n vt v "map literal"
        | v => f.fault v.pos "missing key in map literal"
    | u =>
      for el in elts do
        match el with
        | .keyValue k _ v =>
          -- the key names a field or is a value: a variable it may name counts as used
          match k with
          | .ident id =>
            match ← lookupLocal id.name with
            | some (.var i) => markUsed i
            | _ => pure ()
          | .composite none lb inner rb => compositeLit f n .invalid inner lb rb none
          | _ => discard (rawExpr f n k)
          match v with
          | .composite none lb inner rb => compositeLit f n .invalid inner lb rb none
          | _ => discard (valueExpr f n v)
        | .composite none lb inner rb => compositeLit f n .invalid inner lb rb none
        | v => discard (valueExpr f n v)
      -- a type without elements to list, when it is known
      match u with
      | .invalid | .param _ => pure ()
      | _ =>
        if !hasUnknown 16 t then
          f.fault start ("invalid composite literal" ++ (if hint.isSome then " element" else "") ++
            " type " ++ f.typeText (hint.getD t))

/-- What kind of expression a statement holds: a call of a function (or of a built-in
that is a statement, or a receive) may stand as a statement, a conversion or other
expression may not. -/
def exprKind (f : Frame) : Nat → Expr → CheckM ExprKind
  | 0, _ => pure .statement
  | n + 1, x => do
    match x.unparen with
    | .call fn _ _ _ _ =>
      let fo ← quietly (rawExpr f n fn)
      match fo.mode with
      | .typexpr => return .conversion
      | .builtin name => return (if statementBuiltins.contains name then .statement else .expression)
      | _ => return .statement
    | .unary _ .arrow _ => return .statement
    | _ => return .expression

/-- `go` or `defer` with its call, which must be a call of a function. -/
def suspendedCall (f : Frame) : Nat → String → Expr → CheckM Unit
  | 0, _, _ => pure ()
  | n + 1, keyword, call => do
    match call.unparen with
    | .call _ _ _ _ _ =>
      let x ← rawExpr f n call
      match ← exprKind f n call with
      | .conversion =>
        if x.isKnown then
          f.fault x.expr.pos (keyword ++ " requires function call, not conversion " ++ f.show x)
      | .expression =>
        if x.isKnown then f.fault x.expr.pos (keyword ++ " discards result of " ++ f.show x)
      | .statement => pure ()
    | _ =>
      f.fault call.pos ("expression in " ++ keyword ++ " must be function call")
      discard (rawExpr f n call)

/-- Checks the body of a function (or function literal) in the blocks around it where it
was written: type parameters, receiver, parameters and results are declared (and count as
used), the statements are checked, then the unused labels, a missing return, and the
unused variables are reported. -/
def funcBody : Nat → Pending → CheckM Unit
  | 0, _ => pure ()
  | n + 1, p => do
    let f := p.frame
    let ft := p.type
    let body := p.body
    match p.receiverFault with
    | some (pos, msg) => f.fault pos msg
    | none => pure ()
    let saved := (← get).scopes
    modify fun s => { s with scopes := p.scopes }
    let scope ← openScope true
    for name in p.typeParams do bindName name (.typeName (.param name))
    for (id, t) in p.recv do discard (declareVar id.name id.pos t true)
    let declareFields (fields : List Field) (types : List Var) : CheckM Unit := do
      let names := fields.flatMap (·.names)
      for (id, v) in names.zip types do
        discard (declareVar id.name id.pos v.type true)
    declareFields p.sig.params.list ft.params
    match p.sig.results with
    | some fl => declareFields fl.list ft.results
    | none => pure ()
    let inner : Frame :=
      { f with results := ft.results, iota := none, errAt := none, branch := {},
               funcScope := scope }
    let u := f.site.unit
    for bf in branchFaults (fun p => u.path ++ ":" ++ toString (u.lines.line p) ++ ":" ++
        toString (u.lines.column p)) body do
      inner.compilerFault bf.pos bf.message
    stmtList inner n body.list
    for bf in labelFaults u.lines.line body do
      inner.fault bf.pos bf.message (bf.notes.map fun (p, m) => inner.note p m) .absent
    let panicIsPredeclared := (f.values.find? (·.name == "panic")).isNone
    if !ft.results.isEmpty && body.rbrace != 0 &&
        !isTerminatingList panicIsPredeclared (body.end + 1) body.list then
      inner.fault body.rbrace "missing return"
    inner.reportUnused scope
    closeScope
    modify fun s => { s with scopes := saved }

/-- Checks the function bodies met since the queue had `top` of them, in the order they were
met, and takes them off the queue. -/
def processDelayed : Nat → Nat → CheckM Unit
  | 0, _ => pure ()
  | n + 1, top => do
    let s ← get
    if s.delayed.size ≤ top then return
    let items := s.delayed.extract top s.delayed.size
    set { s with delayed := s.delayed.extract 0 top }
    for item in items do asOwner item.owner (funcBody n item)
    processDelayed n top

/-- Checks a list of statements. Where the list may end in `fallthrough`, only its last
statement may be one (empty statements at the end do not count). The statements after a
type declaration know its types. -/
def stmtList (f : Frame) : Nat → List Stmt → CheckM Unit
  | 0, _ => pure ()
  | n + 1, list => do
    let last := (list.reverse.dropWhile fun s => match s with
      | .empty _ _ => true
      | _ => false).length
    let mut f := f
    for (s, i) in list.zipIdx do
      let rest : Frame := { f with branch := { f.branch with fallthroughOk := false } }
      match s with
      | .decl (.gen _ _ .kwType _ specs _) =>
        let top := (← get).delayed.size
        f := { (← localTypes rest n specs) with branch := f.branch }
        processDelayed n top
      | _ => stmt (if f.branch.fallthroughOk && i + 1 == last then f else rest) n s

/-- Initializes places with the values of a right-hand side, reporting count mismatches.
`retPos` is the position of a return statement, 0 for an assignment. -/
def initVars (f : Frame) : Nat → List InitTarget → List Expr → Nat → String → CheckM Unit
  | 0, _, _, _, _ => pure ()
  | n + 1, targets, rhs, retPos, context => do
    let l := targets.length
    let r := rhs.length
    let isCall := match rhs with
      | [e] => match e.unparen with
        | .call _ _ _ _ _ => true
        | _ => false
      | _ => false
    if l == r && !isCall then
      for (t, e) in targets.zip rhs do
        let x ← valueExpr f n e
        f.initOne t x context
      return
    if r != 1 then
      let xs ← rhs.mapM (valueExpr f n)
      for t in targets do
        match t.fresh with
        | some i => setVarType i .invalid
        | none => pure ()
      if xs.all (·.isKnown) then
        if retPos != 0 then f.returnMismatch retPos (targets.map fun t => t.type.getD .invalid) xs
        else f.assignMismatch rhs l r
      return
    let x ← multiExpr f n (rhs.headD default)
    let values := spreadValues x (l == 2 && retPos == 0)
    if values.length == l then
      for (t, v) in targets.zip values do
        f.initOne t v context
      return
    for t in targets do
      match t.fresh with
      | some i => setVarType i .invalid
      | none => pure ()
    if x.isKnown then
      if retPos != 0 then f.returnMismatch retPos (targets.map fun t => t.type.getD .invalid) values
      else f.assignMismatch rhs l values.length

/-- The type of an assignment's left-hand side: `none` for the blank identifier, `invalid`
when not known. A variable assigned to is not thereby used. -/
def lhsVar (f : Frame) : Nat → Expr → CheckM (Option GoType)
  | 0, _ => pure (some .invalid)
  | n + 1, lhs => do
    let mut restore : Option (Nat × Bool) := none
    match lhs.unparen with
    | .ident id =>
      if id.name == "_" then return none
      match ← lookupLocal id.name with
      | some (.var i) => restore := some (i, ← isUsed i)
      | _ => pure ()
    | _ => pure ()
    let x ← valueExpr f n lhs
    match restore with
    | some (i, u) => setUsed i u
    | none => pure ()
    match x.mode with
    | .invalid => return some .invalid
    | .variable | .mapindex => return some x.type
    | _ =>
      match lhs.unparen with
      | .selector base _ =>
        let bo ← quietly (valueExpr f n base)
        match bo.mode with
        | .mapindex =>
          f.fault x.expr.pos ("cannot assign to struct field " ++ exprText lhs ++ " in map")
          return some .invalid
        | _ => pure ()
      | _ => pure ()
      f.fault x.expr.pos ("cannot assign to " ++ exprText lhs ++
        " (neither addressable nor a map index expression)")
      return some .invalid

/-- `lhs = rhs` with as many values as places, or one call giving them. -/
def assignVars (f : Frame) : Nat → List Expr → List Expr → CheckM Unit
  | 0, _, _ => pure ()
  | n + 1, lhs, rhs => do
    let l := lhs.length
    let r := rhs.length
    let isCall := match rhs with
      | [e] => match e.unparen with
        | .call _ _ _ _ _ => true
        | _ => false
      | _ => false
    if l == r && !isCall then
      for (a, b) in lhs.zip rhs do
        let t ← lhsVar f n a
        match t with
        | some .invalid => discard (rawExpr f n b)
        | _ =>
          let x ← valueExpr f n b
          let context := if t.isNone then "assignment to _ identifier" else "assignment"
          discard (f.assignment x t context)
      return
    if r != 1 then
      let ts ← lhs.mapM (lhsVar f n)
      let xs ← rhs.mapM (valueExpr f n)
      if xs.all (·.isKnown) && ts.all (fun t => match t with
          | some .invalid => false
          | _ => true) then f.assignMismatch rhs l r
      return
    let x ← multiExpr f n (rhs.headD default)
    let values := spreadValues x (l == 2)
    if values.length == l then
      for (a, v) in lhs.zip values do
        let t ← lhsVar f n a
        match t with
        | some .invalid => pure ()
        | _ =>
          let context := if t.isNone then "assignment to _ identifier" else "assignment"
          discard (f.assignment v t context)
      return
    if x.isKnown then f.assignMismatch rhs l values.length
    for a in lhs do discard (lhsVar f n a)

/-- `lhs := rhs`: new variables for the names not yet declared in the block. -/
def shortVarDecl (f : Frame) : Nat → List Expr → Nat → List Expr → CheckM Unit
  | 0, _, _, _ => pure ()
  | n + 1, lhs, tokPos, rhs => do
    let top := (← get).delayed.size
    let mut seen : List String := []
    let mut targets : List InitTarget := []
    let mut fresh : List (Ident × Nat) := []
    let mut hasErr := false
    for a in lhs do
      match a with
      | .ident id =>
        if id.name != "_" && seen.contains id.name then
          f.fault id.pos (id.name ++ " repeated on left side of :=")
          hasErr := true
          let i ← newVar "_" id.pos .invalid true
          targets := targets ++ [{ fresh := some i }]
          continue
        seen := id.name :: seen
        if id.name == "_" then
          let i ← newVar "_" id.pos .invalid true
          targets := targets ++ [{ fresh := some i }]
          continue
        match ← lookupInnermost id.name with
        | some (.var j) =>
          let v ← localVar j
          targets := targets ++ [{ type := some v.type }]
        | some _ =>
          f.fault id.pos ("cannot assign to " ++ id.name)
          hasErr := true
          let i ← newVar "_" id.pos .invalid true
          targets := targets ++ [{ fresh := some i }]
        | none =>
          let i ← newVar id.name id.pos .invalid
          targets := targets ++ [{ fresh := some i }]
          fresh := fresh ++ [(id, i)]
      | other =>
        discard (rawExpr f n other)
        f.fault other.pos ("non-name " ++ exprText other ++ " on left side of :=")
        hasErr := true
        let i ← newVar "_" other.pos .invalid true
        targets := targets ++ [{ fresh := some i }]
    initVars f n targets rhs 0 "assignment"
    processDelayed n top
    if fresh.isEmpty && !hasErr then
      f.fault tokPos "no new variables on left side of :="
      return
    for (id, i) in fresh do
      bindName id.name (.var i) id.pos

/-- A declaration inside a function: variables, constants or types. A variable or constant
is declared once its specification is checked (the bodies of function literals in it
included), a type before its definition is read. -/
def declStmt (f : Frame) : Nat → Decl → CheckM Unit
  | 0, _ => pure ()
  | n + 1, d => do
    match d with
    | .gen _ _ .kwVar _ specs _ =>
      for s in specs do
        match s with
        | .value _ names typ values _ =>
          let top := (← get).delayed.size
          let typeOf : CheckM (Option GoType) := match typ with
            | some te => some <$> typeExpr f n te
            | none => pure none
          match typ with
          | some te => varTypeCheck f te
          | none => pure ()
          let mut vars : List Nat := []
          if values.length == 1 && names.length > 1 then
            let declared ← typeOf
            vars ← names.mapM fun id => newVar id.name id.pos (declared.getD .invalid)
            let targets : List InitTarget := vars.map fun i =>
              { fresh := if declared.isNone then some i else none, type := declared }
            initVars f n targets values 0 "assignment"
          else
            for (id, i) in names.zipIdx do
              let declared ← typeOf
              let v ← newVar id.name id.pos (declared.getD .invalid)
              vars := vars ++ [v]
              match values[i]? with
              | some e =>
                let x ← valueExpr f n e
                f.initOne { fresh := if declared.isNone then some v else none, type := declared } x
                  "variable declaration"
              | none => pure ()
          if typ.isNone || !values.isEmpty then f.arity s.pos names values false false
          processDelayed n top
          for (id, i) in names.zip vars do f.declareName id (.var i)
        | _ => pure ()
    | .gen _ _ .kwConst _ specs _ =>
      let mut prevType : Option Expr := none
      let mut prevValues : List Expr := []
      for (s, iota) in specs.zipIdx do
        match s with
        | .value _ names typ values _ =>
          let top := (← get).delayed.size
          let inherited := typ.isNone && values.isEmpty && iota > 0
          let (typ, values) := if typ.isNone && values.isEmpty then (prevType, prevValues)
            else (typ, values)
          prevType := typ
          prevValues := values
          let mut bound : List (Ident × Entity) := []
          for (id, i) in names.zipIdx do
            let declared ← match typ with
              | some te => do
                let t ← typeExpr f n te
                some <$> f.constType te t
              | none => pure none
            let ent ← match declared, values[i]? with
              | some .invalid, _ => pure (Entity.const .invalid .unknown)
              | _, some v => do
                let cf : Frame := { f with iota := some iota,
                                           errAt := if inherited then some id.pos else none }
                let x ← valueExpr cf n v
                cf.constInit x declared
              | _, none => pure (Entity.const .invalid .unknown)
            bound := bound ++ [(id, ent)]
          f.arity s.pos names values true inherited
          processDelayed n top
          for (id, ent) in bound do f.declareName id ent
        | _ => pure ()
    | .gen _ _ .kwType _ specs _ => discard (localTypes f n specs)
    | _ => pure ()

/-- Declares the types of a type declaration inside a function, giving the frame that knows
their definitions. A type's name is in scope in its own definition; an alias stands for
what it names. -/
def localTypes (f : Frame) : Nat → List Spec → CheckM Frame
  | 0, _ => pure f
  | n + 1, specs => do
    let mut g := f
    for s in specs do
      match s with
      | .typeSpec _ name _ assign rhs _ =>
        if assign != 0 then
          let t ← typeExpr g n rhs
          g.declareName name (.typeName t)
        else
          let pkg := g.site.pkg
          let obj : TypeObj :=
            { pkgPath := pkg.path, pkgName := pkg.name, name := name.name,
              scope := localTypeKey g.site.fileIndex name.pos }
          g.declareName name (.typeName (.named obj []))
          let t ← typeExpr g n rhs
          let add (p : PackageDecls) : PackageDecls :=
            if p.path == pkg.path then { p with localTypes := (obj.scope, t) :: p.localTypes } else p
          g := { g with site := { g.site with world := g.world.map add, pkg := add pkg } }
      | _ => pure ()
    return g

/-- Checks one statement, then the bodies of the function literals met in it. -/
def stmt (f : Frame) : Nat → Stmt → CheckM Unit
  | 0, _ => pure ()
  | n + 1, s => do
    let top := (← get).delayed.size
    stmtOnly f n s
    processDelayed n top

/-- Checks one statement. -/
def stmtOnly (f : Frame) : Nat → Stmt → CheckM Unit
  | 0, _ => pure ()
  | n + 1, s => do
    let w := f.world
    -- the statements inside this one may not fall through, nor are they in its case
    let inner : Frame :=
      { f with branch := { f.branch with fallthroughOk := false, finalCase := false,
                                          inTypeSwitch := false } }
    let within (g : BranchCtx → BranchCtx) : Frame := { inner with branch := g inner.branch }
    match s with
    | .bad _ _ | .empty _ _ => pure ()
    | .decl d => declStmt f n d
    | .labeled _ _ inner => stmt f n inner
    | .expr x =>
      let xo ← rawExpr f n x
      let kind ← exprKind f n x
      match xo.mode with
      | .invalid => pure ()
      | .builtin _ => f.fault xo.expr.pos (f.show xo ++ " must be called")
      | .typexpr => f.fault xo.expr.pos (f.show xo ++ " is not an expression")
      | _ => if kind != .statement then f.fault xo.expr.pos (f.show xo ++ " is not used")
    | .send ch arrow v =>
      let co ← valueExpr f n ch
      let vo ← valueExpr f n v
      if co.isKnown && vo.isKnown then
        match f.chanElem co false with
        | some (.ok el) => if !hasUnknown 16 el then discard (f.assignment vo (some el) "send")
        | some (.error cause) =>
          let msg := "invalid operation: cannot send to " ++ cause ++ " " ++ f.show co
          f.faultApart arrow msg ch.pos msg
        | none => pure ()
    | .incDec x _ tok =>
      let xo ← valueExpr f n x
      if !xo.isKnown then return
      match kindOf w xo.type with
      | some k =>
        if !numericKind k then
          f.fault x.pos ("invalid operation: " ++ exprText x ++ tok.text ++ " (non-numeric type " ++
            f.typeText xo.type ++ ")")
          return
      | none => return
      discard (lhsVar f n x)
    | .assign lhs tokPos tok rhs =>
      if tok == .define then shortVarDecl f n lhs tokPos rhs
      else if tok == .assign then assignVars f n lhs rhs
      else
        match assignOpBinary tok, lhs, rhs with
        | some op, [a], [b] =>
          let r ← binaryExpr f n (.binary a tokPos op b) a op b true
          if r.isKnown then
            let t ← lhsVar f n a
            match t with
            | some .invalid => pure ()
            | _ => discard (f.assignment { r with expr := b } t "assignment operation")
        | _, _, _ =>
          for e in lhs ++ rhs do discard (rawExpr f n e)
    | .go _ call => suspendedCall f n "go" call
    | .defer _ call => suspendedCall f n "defer" call
    | .ret pos results =>
      let targets : List InitTarget := f.results.map fun v => { type := some v.type }
      if results.isEmpty && !f.results.isEmpty && f.results.all (fun v => v.name != "") then
        -- a bare return needs the results themselves in scope
        for v in f.results do
          match ← visibleScope v.name with
          | some (sid, place) =>
            if sid != f.funcScope then
              f.fault pos ("result parameter " ++ v.name ++ " not in scope at return")
                [f.note place ("inner declaration of var " ++ v.name ++ " " ++ f.typeText v.type)]
          | none => pure ()
      else initVars f n targets results pos "return statement"
    | .branch pos tok none =>
      match tok with
      | .kwBreak =>
        if !f.branch.breakOk then
          f.fault pos "break not in for, switch, or select statement" [] .absent
      | .kwContinue =>
        if !f.branch.continueOk then f.fault pos "continue not in for statement" [] .absent
      | .kwFallthrough =>
        if !f.branch.fallthroughOk then
          let msg := if f.branch.finalCase then "cannot fallthrough final case in switch"
            else if f.branch.inTypeSwitch then "cannot fallthrough in type switch"
            else "fallthrough statement out of place"
          f.fault pos msg [] .absent
      | _ => pure ()
    | .branch _ _ _ => pure ()
    | .block b => inScope (stmtList inner n b.list)
    | .ifStmt _ init cond body els =>
      inScope do
        match init with
        | some i => stmt f n i
        | none => pure ()
        let c ← valueExpr f n cond
        if c.isKnown then
          match kindOf w c.type with
          | some k => if !booleanKind k then f.fault cond.pos "non-boolean condition in if statement"
          | none => pure ()
        inScope (stmtList inner n body.list)
        match els with
        | some e => stmt inner n e
        | none => pure ()
    | .switchStmt _ init tag body =>
      inScope do
        match init with
        | some i => stmt f n i
        | none => pure ()
        let x ← match tag with
          | some t => do
            let x ← valueExpr f n t
            f.assignment x none "switch expression"
          | none =>
            pure ⟨.constant (.bool true), .basic "bool", .ident ⟨body.lbrace, "true"⟩, []⟩
        let mut seen : List (ConstValue × GoType × Nat) := []
        let cases := body.list.length
        for (c, index) in body.list.zipIdx do
          match c with
          | .caseClause _ values _ stmts =>
            for e in values do
              let v ← valueExpr f n e
              if !x.isKnown || !v.isKnown then continue
              let v ← f.convertUntyped v x.type
              if !v.isKnown || hasUnknown 16 v.type || hasUnknown 16 x.type then continue
              match comparisonFault f .eql v x with
              | some (_, cause) =>
                f.fault v.expr.pos ("invalid case " ++ exprText v.expr ++ " in switch on " ++
                  exprText x.expr ++ " (" ++ cause ++ ")")
              | none =>
                match v.value? with
                | some .unknown | none => pure ()
                | some cv =>
                  match seen.find? (fun (sv, st, _) => sv == cv && identical w 32 st v.type) with
                  | some (_, _, prev) =>
                    f.fault v.expr.pos ("duplicate case " ++ f.show v ++ " in expression switch")
                      [f.note prev "previous case"]
                  | none => seen := seen ++ [(cv, v.type, v.expr.pos)]
            let g := within fun c =>
              { c with breakOk := true, fallthroughOk := index + 1 < cases,
                       finalCase := index + 1 == cases }
            inScope (stmtList g n stmts)
          | _ => pure ()
    | .typeSwitch _ init assign body =>
      inScope do
        match init with
        | some i => stmt f n i
        | none => pure ()
        let (lhs, x?) : Option Ident × Option Expr := match assign with
          | .assign [.ident id] _ .define [.typeAssert x _ none _] => (some id, some x)
          | .expr (.typeAssert x _ none _) => (none, some x)
          | _ => (none, none)
        let lhs ← match lhs with
          | some id =>
            if id.name == "_" then do
              f.fault id.pos "no new variable on left side of :="
              pure none
            else pure (some id)
          | none => pure none
        let xo ← match x? with
          | some x => valueExpr f n x
          | none => pure (unknownOf (.ident ⟨0, "_"⟩))
        let xt := xo.type
        -- the operand cases are compared against: an interface value
        let sx : Option Operand ← if !xo.isKnown then pure none
          else match xo.type, underlying w 16 xo.type with
            | .param _, _ =>
              f.fault xo.expr.pos ("cannot use type switch on type parameter value " ++ f.show xo)
              pure none
            | _, .iface _ _ _ => pure (some xo)
            | _, .invalid => pure none
            | _, _ =>
              f.fault xo.expr.pos (f.show xo ++ " is not an interface")
              pure none
        let mut clauseVars : List Nat := []
        let mut seen : List (Option GoType × Nat) := []
        for c in body.list do
          match c with
          | .caseClause _ types _ stmts =>
            let mut ts : List Operand := []
            for te in types do
              let o ← typeOrValue f n te
              ts := ts ++ [o]
              let caseType : Option (Option GoType) := match o.mode with
                | .typexpr => if hasUnknown 16 o.type then none else some (some o.type)
                | _ => if o.isNil then some none else none
              match caseType with
              | none => pure ()
              | some ct =>
                let shown := match ct with
                  | some t => f.typeText t
                  | none => "nil"
                let same (other : Option GoType) : Bool := match ct, other with
                  | none, none => true
                  | some a, some b => identical w 32 a b
                  | _, _ => false
                match seen.find? (fun (other, _) => same other) with
                | some (_, prev) =>
                  f.fault te.pos ("duplicate case " ++ shown ++ " in type switch")
                    [f.note prev ("other declaration of " ++ shown)]
                | none =>
                  seen := seen ++ [(ct, te.pos)]
                  match sx, ct with
                  | some x, some t =>
                    match underlying w 16 t with
                    | .iface _ _ _ | .invalid => pure ()
                    | _ =>
                      match methodsCause w f.site.pkg.path t x.type with
                      | .no cause =>
                        f.fault te.pos ("impossible type switch case: " ++ exprText te ++ "\n\t" ++
                          f.show x ++ " cannot have dynamic type " ++ f.typeText t ++ " " ++ cause)
                      | _ => pure ()
                  | _, _ => pure ()
            let declared ← inScope do
              let v ← match lhs with
                | some id =>
                  let t := match ts with
                    | [o] => match o.mode with
                      | .typexpr => o.type
                      | _ => xt
                    | _ => xt
                  some <$> declareVar id.name id.pos t
                | none => pure none
              stmtList (within fun c => { c with breakOk := true, inTypeSwitch := true }) n stmts
              pure v
            clauseVars := clauseVars ++ declared.toList
          | _ => pure ()
        match lhs with
        | some id =>
          let mut used := false
          for i in clauseVars do
            if ← isUsed i then used := true
            setUsed i true
          if !used then f.fault id.pos (id.name ++ " declared and not used")
        | none => pure ()
    | .select _ body =>
      for c in body.list do
        match c with
        | .commClause _ comm _ stmts =>
          let receive (x : Expr) : Bool := match x.unparen with
            | .unary _ .arrow _ => true
            | _ => false
          let valid := match comm with
            | none | some (.send _ _ _) => true
            | some (.assign _ _ _ [rhs]) => receive rhs
            | some (.expr x) => receive x
            | _ => false
          if !valid then
            match comm with
            | some cs => f.fault cs.pos "select case must be send or receive (possibly with assignment)"
            | none => pure ()
            continue
          inScope do
            match comm with
            | some cs => stmt f n cs
            | none => pure ()
            stmtList (within fun c => { c with breakOk := true }) n stmts
        | _ => pure ()
    | .forStmt _ init cond post body =>
      inScope do
        match init with
        | some i => stmt f n i
        | none => pure ()
        match cond with
        | some c =>
          let co ← valueExpr f n c
          if co.isKnown then
            match kindOf w co.type with
            | some k => if !booleanKind k then f.fault c.pos "non-boolean condition in for statement"
            | none => pure ()
        | none => pure ()
        match post with
        | some p => stmt f n p
        | none => pure ()
        inScope (stmtList (within fun c => { c with breakOk := true, continueOk := true }) n body.list)
    | .range _ key value tokPos tok _ x body =>
      inScope do
        let xo ← valueExpr f n x
        let mut kt : GoType := .invalid
        let mut vt : GoType := .invalid
        if xo.isKnown then
          let what := "cannot range over " ++ f.show xo
          match rangeShape w f.allows xo with
          | .error "" => f.fault x.pos what
          | .error cause =>
            if Text.hasPrefix cause "requires" then f.versionFault x.pos (what ++ ": " ++ cause)
            else f.fault x.pos (what ++ ": " ++ cause)
          | .ok (k, v) =>
            match key, k, value, v with
            | some kx, none, _, _ =>
              f.fault kx.pos ("range over " ++ f.show xo ++ " permits no iteration variables")
            | _, _, some vx, none =>
              f.fault vx.pos ("range over " ++ f.show xo ++ " permits only one iteration variable")
            | _, _, _, _ => pure ()
            kt := (k.map GoType.defaultType).getD .invalid
            vt := v.getD .invalid
        if tok == .define then
          let mut fresh : List (Ident × Nat) := []
          for (part, t) in [(key, kt), (value, vt)] do
            match part with
            | some (.ident id) =>
              let i ← newVar id.name id.pos t (id.name == "_" || (match t with | .invalid => true | _ => false))
              if id.name != "_" then fresh := fresh ++ [(id, i)]
            | some other => discard (rawExpr f n other)
            | none => pure ()
          if fresh.isEmpty then f.fault tokPos "no new variables on left side of :="
          for (id, i) in fresh do bindName id.name (.var i) id.pos
        else
          for part in [key, value] do
            match part with
            | some p => discard (lhsVar f n p)
            | none => pure ()
        inScope (stmtList (within fun c => { c with breakOk := true, continueOk := true }) n body.list)
    | .caseClause _ _ _ stmts | .commClause _ _ _ stmts => inScope (stmtList f n stmts)

end

end StaticWrap.Typing
