import StaticWrap.Typing.Operand
import StaticWrap.Load.Resolve
import StaticWrap.Load.Std
/-!
**What checking function bodies keeps track of.**

Checking walks a package's bodies with the names in scope: a stack of blocks, innermost
first, each binding names to local variables, constants and types; below them the
package's own declarations, the file's imports and the predeclared names. Local variables
live in one array so that a use anywhere (a closure included) marks the right one, and the
ones never used are reported when their function ends.

The declarations of the packages read are known in full for the module's own packages; a
package of the standard library is known as far as the catalogue knows it, and a type of it
may be shapeless: its name is known, its structure is not, and nothing that depends on the
structure is checked.

* `Frame`: the file being checked and the results of the function around the code.
* `ValueSite`, `valueSites`: the package-level constants, variables and functions of a
  package, each with what its type is read from.
* `declaredType?`, `underlying`, `unalias`, `identical`: types as far as they are known.
* `selectField`: what `x.f` selects on a value of a type: a field, a method, nothing, or
  unknown.
-/

namespace StaticWrap.Typing

open StaticWrap.GoSource
open StaticWrap.Types
open StaticWrap.Load

/-- A package-level constant, variable or function, with what its type is read from. -/
structure ValueSite where
  name : String
  pos : Nat
  fileIndex : Nat
  /-- `const`, `var` or `func`. -/
  kind : Tok
  typeExpr : Option Expr := none
  /-- The value expression; for several names with one value, that value. -/
  init : Option Expr := none
  /-- The place of the name in its specification. -/
  index : Nat := 0
  /-- Several names share one value (a call with several results). -/
  shared : Bool := false
  /-- The value of `iota` in the constant's specification. -/
  iota : Nat := 0
  sig : Option Signature := none
  deriving Inhabited

/-- The package-level constants, variables and functions of a file. An untyped constant
without value repeats the type and values of the specification before it. -/
def fileValueSites (index : Nat) (f : File) : List ValueSite :=
  f.decls.flatMap fun d =>
    match d with
    | .func _ none name sig _ =>
      if name.name == "_" || name.name == "init" then []
      else [{ name := name.name, pos := name.pos, fileIndex := index, kind := .kwFunc, sig := sig }]
    | .gen _ _ tok _ specs _ =>
      if tok != .kwConst && tok != .kwVar then []
      else
        let (out, _, _) := specs.zipIdx.foldl (fun (acc : List ValueSite × Option Expr × List Expr)
            (s, iota) =>
          let (out, prevType, prevValues) := acc
          match s with
          | .value _ names typ values _ =>
            let (typ, values) :=
              if tok == .kwConst && values.isEmpty && typ.isNone then (prevType, prevValues)
              else (typ, values)
            let shared := values.length == 1 && names.length > 1
            let here := names.zipIdx.filterMap fun (n, i) =>
              if n.name == "_" then none
              else some { name := n.name, pos := n.pos, fileIndex := index, kind := tok,
                          typeExpr := typ, init := if shared then values.head? else values[i]?,
                          index := i, shared := shared, iota := iota }
            (out ++ here, typ, values)
          | _ => (out, prevType, prevValues)) ([], none, [])
        out
    | _ => []

/-- The package-level constants, variables and functions of a package. -/
def valueSites (p : PackageDecls) : List ValueSite :=
  p.files.zipIdx.flatMap fun (u, i) => fileValueSites i u.file

/-- A method declared in a package: its receiver's base type name, whether the receiver is
a pointer, whether the base type takes type arguments, and the declaration. -/
structure MethodSite where
  recvName : String
  pointer : Bool
  generic : Bool
  name : Ident
  fileIndex : Nat
  sig : Signature

/-- The base type name of a receiver type, whether it is a pointer, and whether it carries
type arguments. -/
def receiverBase : Expr → Option (String × Bool × Bool)
  | .ident id => some (id.name, false, false)
  | .paren _ x _ => receiverBase x
  | .star _ x => (receiverBase x).map fun (n, _, g) => (n, true, g)
  | .index (.ident id) _ _ _ | .indexList (.ident id) _ _ _ => some (id.name, false, true)
  | _ => none

def methodSites (p : PackageDecls) : List MethodSite :=
  p.files.zipIdx.flatMap fun (u, i) => u.file.decls.filterMap fun d =>
    match d with
    | .func _ (some recv) name sig _ =>
      match recv.list with
      | [f] => (receiverBase f.type).map fun (base, ptr, gen) => ⟨base, ptr, gen, name, i, sig⟩
      | _ => none
    | _ => none

/-- Which statements around a branch statement it may leave or continue: a loop or a
switch or select to break out of, a loop to continue, the next case to fall through to (only
the last statement of a case that is not the last one), and whether the case is the last one
of a switch or a case of a type switch. -/
structure BranchCtx where
  breakOk : Bool := false
  continueOk : Bool := false
  fallthroughOk : Bool := false
  finalCase : Bool := false
  inTypeSwitch : Bool := false

/-- The file being checked, and the function around the code. -/
structure Frame where
  site : Site
  /-- The results of the function whose body is checked. -/
  results : List Var := []
  /-- The value of `iota`, inside a constant declaration. -/
  iota : Option Nat := none
  /-- The package's own constants, variables and functions. -/
  values : List ValueSite := []
  /-- The package's own methods. -/
  methods : List MethodSite := []
  /-- The position every fault is reported at instead of its own: the name of a constant
  whose value repeats an earlier specification's. -/
  errAt : Option Nat := none
  /-- The statements around the code that branch statements may leave. -/
  branch : BranchCtx := {}
  /-- The constraints of the type parameters in scope, by name. -/
  bounds : List (String × GoType) := []
  /-- The block of the function whose body is checked: its parameters and results. -/
  funcScope : Nat := 0

/-- The path of the package being checked. -/
def Frame.own (f : Frame) : String := f.site.pkg.path

/-- The world of packages read. -/
def Frame.world (f : Frame) : World := f.site.world

/-- What a name declared inside a function stands for. -/
inductive Entity where
  /-- A variable, by its index among the function's variables. -/
  | var (index : Nat)
  /-- A constant, with its type and value. -/
  | const (type : GoType) (value : ConstValue)
  /-- A type. -/
  | typeName (type : GoType)
  deriving Inhabited

/-- A variable declared inside a function, its parameters and results included. -/
structure LocalVar where
  name : String
  pos : Nat
  type : GoType
  used : Bool := false
  /-- The block that declares it; none at package level. -/
  scope : Option Nat := none
  deriving Inhabited

/-- The names a block declares, the latest first, with the block's number. -/
structure Scope where
  id : Nat
  names : List (String × Entity) := []
  /-- Where each name was declared. -/
  places : List (String × Nat) := []

/-- A block as the tree of blocks records it: the block around it, and whether it is the
block of a function (whose unused variables that function reports). -/
structure ScopeNode where
  parent : Option Nat
  isFunc : Bool

/-- A function body whose checking waits until the statement around its literal is done
(or, for a declared function, until the package's declarations are): the names in scope
where it was written, the receiver and type parameters it declares, and its signature. -/
structure Pending where
  frame : Frame
  scopes : List Scope
  recv : List (Ident × GoType) := []
  typeParams : List String := []
  type : FuncType
  sig : Signature
  body : Block
  /-- A fault of the method's receiver, reported just before the body is checked. -/
  receiverFault : Option (Nat × String) := none
  /-- The package-level declarations the body belongs to, for their dependencies. -/
  owner : List String := []

/-- The state of checking. -/
structure CheckState where
  faults : Array TypeFault := #[]
  /-- Faults are not recorded: a declaration is being read again for its type only. -/
  quiet : Bool := false
  locals : Array LocalVar := #[]
  /-- The blocks around the code, innermost first; empty at package level. -/
  scopes : List Scope := []
  /-- Every block opened, by number. -/
  tree : Array ScopeNode := #[]
  /-- The import names used, with the index of the file that uses them. -/
  usedImports : List (Nat × String) := []
  /-- The function bodies waiting to be checked, in the order they were met. -/
  delayed : Array Pending := #[]
  /-- The package-level declarations whose code is being checked. -/
  owner : List String := []
  /-- What package-level declarations refer to: each declaration with a constant, variable,
  function or method of the package its code names (a method as `T.M`). -/
  deps : Array (String × String) := #[]

/-- Checking: a computation over the state. -/
abbrev CheckM := StateM CheckState

/-- Records a fault at a position of the frame's file, unless faults are not recorded. -/
def Frame.fault (f : Frame) (pos : Nat) (msg : String) (notes : List FaultNote := [])
    (compiler : CompilerView := .same) : CheckM Unit :=
  modify fun s =>
    if s.quiet then s
    else
      let u := f.site.unit
      let pos := f.errAt.getD pos
      let fault : TypeFault :=
        { file := u.path, fileIndex := f.site.fileIndex, pos := pos, line := u.lines.line pos,
          column := u.lines.column pos, message := msg, notes := notes, compiler := compiler }
      { s with faults := s.faults.push fault }

/-- Records that the declarations being checked refer to the package-level object `key`. -/
def noteDep (key : String) : CheckM Unit :=
  modify fun s =>
    if s.quiet || s.owner.isEmpty then s
    else { s with deps := s.owner.foldl (fun ds o => ds.push (o, key)) s.deps }

/-- Runs a computation as the code of the package-level declarations `owner`. -/
def asOwner {α : Type} (owner : List String) (act : CheckM α) : CheckM α := do
  let saved := (← get).owner
  modify fun s => { s with owner }
  let r ← act
  modify fun s => { s with owner := saved }
  return r

/-- Records a fault that only the compiler reports, finding it while it parses. -/
def Frame.compilerFault (f : Frame) (pos : Nat) (msg : String) : CheckM Unit :=
  modify fun s =>
    if s.quiet then s
    else
      let u := f.site.unit
      let fault : TypeFault :=
        { file := u.path, fileIndex := f.site.fileIndex, pos := pos, line := u.lines.line pos,
          column := u.lines.column pos, message := msg, compiler := .parsing msg,
          typeChecker := false }
      { s with faults := s.faults.push fault }

/-- Records a fault that the compiler reports at another position (`cpos`) or in other
words (`cmsg`). -/
def Frame.faultApart (f : Frame) (pos : Nat) (msg : String) (cpos : Nat) (cmsg : String)
    (notes : List FaultNote := []) : CheckM Unit :=
  let u := f.site.unit
  let cpos := f.errAt.getD cpos
  f.fault pos msg notes (.typing (u.lines.line cpos) (u.lines.column cpos) cmsg)

/-- The file's language version allows a feature of `go1.minor`. -/
def Frame.allows (f : Frame) (minor : Nat) : Bool := f.site.allows minor

/-- Records that a feature needs a later language version: `msg` ends in "requires go1.N or
later", and the compiler adds where the file's version comes from. -/
def Frame.versionFault (f : Frame) (pos : Nat) (msg : String) : CheckM Unit :=
  f.faultApart pos msg pos (msg ++ f.site.langHint)

/-- Checks that the file's language version allows a feature of `go1.minor`, reporting
`what requires go1.minor or later` when it does not. -/
def Frame.requireVersion (f : Frame) (pos minor : Nat) (what : String) : CheckM Bool := do
  if f.allows minor then return true
  f.versionFault pos (what ++ " requires go1." ++ toString minor ++ " or later")
  return false

/-- A note at a position of the frame's file. -/
def Frame.note (f : Frame) (pos : Nat) (msg : String) : FaultNote :=
  let u := f.site.unit
  { file := u.path, line := u.lines.line pos, column := u.lines.column pos, message := msg }

/-- A note without a place. -/
def plainNote (msg : String) : FaultNote := { file := "", line := 0, column := 0, message := msg }

/-- Runs a computation without recording its faults. -/
def quietly {α : Type} (act : CheckM α) : CheckM α := do
  let before := (← get).quiet
  modify fun s => { s with quiet := true }
  let r ← act
  modify fun s => { s with quiet := before }
  return r

/-- Opens a block, giving its number; a function's block is marked as one. -/
def openScope (isFunc : Bool := false) : CheckM Nat := do
  let s ← get
  let id := s.tree.size
  let parent := s.scopes.head?.map (·.id)
  set { s with scopes := { id } :: s.scopes, tree := s.tree.push ⟨parent, isFunc⟩ }
  return id

/-- Closes the innermost block. -/
def closeScope : CheckM Unit := modify fun s => { s with scopes := s.scopes.drop 1 }

/-- Runs a computation in a block of its own. -/
def inScope {α : Type} (act : CheckM α) : CheckM α := do
  discard (openScope false)
  let r ← act
  closeScope
  return r

/-- Binds a name in the innermost block. -/
def bindName (name : String) (e : Entity) (pos : Nat := 0) : CheckM Unit := modify fun s =>
  match s.scopes with
  | sc :: rest =>
    { s with scopes := { sc with names := (name, e) :: sc.names,
                                 places := (name, pos) :: sc.places } :: rest }
  | [] => s

/-- Adds a variable to the innermost block without binding its name yet, giving its index. -/
def newVar (name : String) (pos : Nat) (type : GoType) (used : Bool := false) : CheckM Nat := do
  let s ← get
  let i := s.locals.size
  let scope := s.scopes.head?.map (·.id)
  set { s with locals := s.locals.push { name, pos, type, used, scope } }
  return i

/-- Declares a variable in the innermost block, giving its index. The blank name declares
nothing. -/
def declareVar (name : String) (pos : Nat) (type : GoType) (used : Bool := false) : CheckM Nat := do
  let i ← newVar name pos type used
  if name != "_" then bindName name (.var i) pos
  return i

/-- What a name declared inside the function stands for, innermost block first. -/
def lookupLocal (name : String) : CheckM (Option Entity) := do
  let s ← get
  return (s.scopes.findSome? fun sc => (sc.names.find? (·.1 == name)).map (·.2))

/-- The block that declares the name as it is seen here, and where in it; none when no block
of the function declares it. -/
def visibleScope (name : String) : CheckM (Option (Nat × Nat)) := do
  return (← get).scopes.findSome? fun sc =>
    if sc.names.any (·.1 == name) then
      some (sc.id, ((sc.places.find? (·.1 == name)).map (·.2)).getD 0)
    else none

/-- What a name stands for in the innermost block only. -/
def lookupInnermost (name : String) : CheckM (Option Entity) := do
  let s ← get
  match s.scopes with
  | sc :: _ => return (sc.names.find? (·.1 == name)).map (·.2)
  | [] => return none

/-- Where a name of the innermost block was declared; 0 when not known. -/
def placeInnermost (name : String) : CheckM Nat := do
  match (← get).scopes with
  | sc :: _ => return ((sc.places.find? (·.1 == name)).map (·.2)).getD 0
  | [] => return 0

/-- Marks a variable used. -/
def markUsed (i : Nat) : CheckM Unit := modify fun s =>
  { s with locals := s.locals.modify i fun v => { v with used := true } }

/-- Whether a variable is used. -/
def isUsed (i : Nat) : CheckM Bool := do
  return ((← get).locals[i]?.map (·.used)).getD true

/-- Sets whether a variable is used. -/
def setUsed (i : Nat) (b : Bool) : CheckM Unit := modify fun s =>
  { s with locals := s.locals.modify i fun v => { v with used := b } }

/-- The variable at an index. -/
def localVar (i : Nat) : CheckM LocalVar := do
  return (← get).locals[i]?.getD default

/-- Sets the type of a variable. -/
def setVarType (i : Nat) (t : GoType) : CheckM Unit := modify fun s =>
  { s with locals := s.locals.modify i fun v => { v with type := t } }

/-- Records that a file uses an import name. -/
def markImport (fileIndex : Nat) (name : String) : CheckM Unit := modify fun s =>
  if s.usedImports.contains (fileIndex, name) then s
  else { s with usedImports := (fileIndex, name) :: s.usedImports }

/-- The package whose declarations are known: one of the module's own, or a catalogued
package of the standard library. -/
def knownPackage? (w : World) (path : String) : Option PackageDecls :=
  match w.find? path with
  | some p => if p.isOpen then none else some p
  | none => none

/-- The predeclared interface `error`'s definition. -/
def errorIface : GoType :=
  .iface false [Method.mk "Error" "" (.mk [] [Var.mk "" (.basic "string")] false)] []

/-- The empty interface. -/
def emptyIface : GoType := .iface false [] []

/-- The type a named type or alias is declared as, when it is known; a generic one is not
followed. -/
def declaredType? (w : World) (obj : TypeObj) : Option GoType :=
  if obj.isPredeclared then
    match obj.name with
    | "error" => some errorIface
    | "any" => some emptyIface
    | _ => none
  else if obj.scope != 0 then
    (w.find? obj.pkgPath).bind (·.localTypes.lookup obj.scope)
  else do
    let p ← knownPackage? w obj.pkgPath
    let d ← p.typeDecl? obj.name
    if d.typeParams.isSome || p.shapeless.contains obj.name then none
    else
      let site := Site.ofFile w p d.fileIndex
      some ((resolveType site site.unit.depth d.rhs).run []).1

/-- A type with its aliases replaced by what they stand for, as far as known. -/
def unalias (w : World) : Nat → GoType → GoType
  | 0, t => t
  | n + 1, .aliased obj args =>
    match declaredType? w obj with
    | some t => unalias w n t
    | none => .aliased obj args
  | _, t => t

/-- The underlying type: a named type's definition followed to a type that is not named;
`invalid` when a definition is not known. -/
def underlying (w : World) : Nat → GoType → GoType
  | 0, _ => .invalid
  | n + 1, .named obj _ =>
    match declaredType? w obj with
    | some t => underlying w n t
    | none => .invalid
  | n + 1, .aliased obj _ =>
    match declaredType? w obj with
    | some t => underlying w n t
    | none => .invalid
  | _ + 1, .basic "byte" => .basic "uint8"
  | _ + 1, .basic "rune" => .basic "int32"
  | _ + 1, .param _ => .invalid
  | _ + 1, t => t

/-- The underlying type as messages name it: like `underlying`, but a basic type keeps its
own name (`byte` stays `byte`). -/
def shownUnderlying (w : World) : Nat → GoType → GoType
  | 0, _ => .invalid
  | n + 1, .named obj _ =>
    match declaredType? w obj with
    | some t => shownUnderlying w n t
    | none => .invalid
  | n + 1, .aliased obj _ =>
    match declaredType? w obj with
    | some t => shownUnderlying w n t
    | none => .invalid
  | _ + 1, .param _ => .invalid
  | _ + 1, t => t

/-- The type has a name: a basic, named or parameter type. -/
def hasName (w : World) (t : GoType) : Bool :=
  match unalias w 8 t with
  | .basic _ | .named _ _ | .param _ => true
  | _ => false

/-- A basic type's name with `byte` and `rune` read as what they alias. -/
def basicIdentity (n : String) : String :=
  if n == "byte" then "uint8" else if n == "rune" then "int32" else n

mutual

/-- Two types are identical. Types not known are never identical. -/
def identical (w : World) : Nat → GoType → GoType → Bool
  | 0, _, _ => false
  | n + 1, a, b =>
    match unalias w 8 a, unalias w 8 b with
    | .basic x, .basic y => basicIdentity x == basicIdentity y
    | .named o xs, .named p ys => o == p && identicalList w n xs ys
    | .param x, .param y => x == y
    | .pointer x, .pointer y | .slice x, .slice y => identical w n x y
    | .array k x, .array l y => k == l && identical w n x y
    | .map k v, .map k' v' => identical w n k k' && identical w n v v'
    | .chan d x, .chan e y => d == e && identical w n x y
    | .func f, .func g => identicalSig w n f g
    | .struct fs, .struct gs => identicalFields w n fs gs
    | .iface _ ms [], .iface _ ns [] => identicalMethods w n ms ns
    | _, _ => false

/-- Two lists of types are identical, element by element. -/
def identicalList (w : World) : Nat → List GoType → List GoType → Bool
  | 0, _, _ => false
  | _ + 1, [], [] => true
  | n + 1, x :: xs, y :: ys => identical w n x y && identicalList w n xs ys
  | _ + 1, _, _ => false

/-- Two signatures are identical: parameter and result types, and variadic, alike. -/
def identicalSig (w : World) : Nat → FuncType → FuncType → Bool
  | 0, _, _ => false
  | n + 1, .mk ps rs v, .mk qs ss u =>
    v == u && identicalList w n (ps.map (·.type)) (qs.map (·.type)) &&
      identicalList w n (rs.map (·.type)) (ss.map (·.type))

/-- Two lists of struct fields are identical. -/
def identicalFields (w : World) : Nat → List StructField → List StructField → Bool
  | 0, _, _ => false
  | _ + 1, [], [] => true
  | n + 1, .mk a ap ae ta atag :: fs, .mk b bp be tb btag :: gs =>
    a == b && ae == be && atag == btag && (Go.isExported a || ap == bp) &&
      identical w n ta tb && identicalFields w n fs gs
  | _ + 1, _, _ => false

/-- Two sorted lists of interface methods are identical. -/
def identicalMethods (w : World) : Nat → List Method → List Method → Bool
  | 0, _, _ => false
  | _ + 1, [], [] => true
  | n + 1, .mk a _ f :: ms, .mk b _ g :: ns =>
    a == b && identicalSig w n f g && identicalMethods w n ms ns
  | _ + 1, _, _ => false

end

/-- What `x.f` selects: a field, a method (with whether its receiver is a pointer that the
value is not), nothing, or what is not known. -/
inductive Selection where
  | field (type : GoType)
  | method (sig : FuncType) (needsAddress : Bool)
  | missing
  | unknown
  deriving Inhabited

/-- The methods declared for a named type of a known package: each with its signature and
whether its receiver is a pointer. `none` when the type's methods are not known. -/
def declaredMethods? (w : World) (obj : TypeObj) : Option (List (String × FuncType × Bool)) :=
  if obj.isPredeclared then
    if obj.name == "error" then some [("Error", .mk [] [Var.mk "" (.basic "string")] false, false)]
    else none
  -- a type declared inside a function has no methods
  else if obj.scope != 0 then some []
  else do
    let p ← knownPackage? w obj.pkgPath
    let ms := (methodSites p).filter (·.recvName == obj.name)
    if ms.any (·.generic) || p.shapeless.contains obj.name || (p.typeDecl? obj.name).isNone then none
    else
      some (ms.map fun m =>
        let site := Site.ofFile w p m.fileIndex
        let sig := ((resolveSig site site.unit.depth m.sig).run []).1
        (m.name.name, sig, m.pointer))

/-- The embedded fields of a struct type do not hide anything this reading cannot see:
all of them are of known struct or pointer-to-struct types, or of types without methods or
fields to promote. -/
def simpleStruct (fs : List StructField) : Bool :=
  fs.all fun (f : StructField) => match f with
    | .mk _ _ embedded _ _ => !embedded

/-- A name of package `pkg` can be named from package `own`: it is exported, or `own` is
`pkg`. -/
def accessible (own pkg name : String) : Bool := Go.isExported name || own == pkg

/-- Looks a name up on a value of type `t` from package `own`: fields of its struct
(embedded ones are not followed), then the methods of its named type; through one pointer.
A field or method another package does not export is not found. -/
def selectField (w : World) (own : String) (t : GoType) (name : String) : Selection :=
  let t := unalias w 8 t
  let (base, viaPointer) := match t with
    | .pointer e => (unalias w 8 e, true)
    | e => (e, false)
  let u := underlying w 16 base
  let ifaceMethod (ms : List Method) (es : List GoType) : Selection :=
    if !es.isEmpty then .unknown
    else match ms.find? fun (Method.mk n p _) => n == name && accessible own p n with
      | some (Method.mk _ _ sig) => .method sig false
      | none => .missing
  let fieldPart : Option Selection :=
    match u with
    | .struct fs =>
      if !simpleStruct fs then some .unknown
      else
        (fs.find? fun (f : StructField) => match f with
          | .mk n p _ _ _ => n == name && accessible own p n).map fun (f : StructField) =>
          match f with
          | .mk _ _ _ ft _ => .field ft
    | .invalid => some .unknown
    | _ => none
  match fieldPart with
  | some s => s
  | none =>
    -- a pointer to an interface or a type parameter has no methods
    if viaPointer && (match base, u with
        | .param _, _ | _, .iface _ _ _ => true
        | _, _ => false) then .missing
    else
    match base with
    | .named obj _ =>
      match u with
      | .iface _ ms es => ifaceMethod ms es
      | _ =>
        match declaredMethods? w obj with
        | some ms =>
          match ms.find? fun m => m.1 == name && accessible own obj.pkgPath m.1 with
          | some (_, sig, pointerRecv) => .method sig (pointerRecv && !viaPointer)
          | none => .missing
        | none => .unknown
    | .iface _ ms es => ifaceMethod ms es
    | .param _ => .unknown
    | _ => .missing

/-- Why nothing is found on a pointer to an interface or a type parameter, for a type so
made; written with the type as `typeText`. -/
def pointerToInterface? (w : World) (t : GoType) (typeText : String) : Option String :=
  match underlying w 16 t with
  | .pointer (.param _) =>
    some ("type " ++ typeText ++ " is pointer to type parameter, not type parameter")
  | .pointer e =>
    match underlying w 16 e with
    | .iface _ _ _ => some ("type " ++ typeText ++ " is pointer to interface, not interface")
    | _ => none
  | _ => none

/-- The method `name` of a type of the package `own` declared at package level, as a
dependency names it (`T.M`), when the type (or the type it points to) is one that declares
methods. -/
def methodKey? (w : World) (own : String) (t : GoType) (name : String) : Option String :=
  let base := match unalias w 8 t with
    | .pointer e => unalias w 8 e
    | e => e
  match base with
  | .named obj _ =>
    if obj.pkgPath != own || obj.scope != 0 || obj.isPredeclared then none
    else match underlying w 16 base with
      | .iface _ _ _ => none
      | _ => some (obj.name ++ "." ++ name)
  | _ => none

/-- Two names are equal when letter case is ignored. -/
def sameFolded (a b : String) : Bool :=
  a.toList.map Char.toLower == b.toList.map Char.toLower

/-- A field or method whose name equals `name` when letter case is ignored: its name, what
it is (`field` or `method`), its package, and whether it is a method with a pointer receiver
that a value of `t` itself lacks. The methods are looked at before the fields. -/
def foldedMember? (w : World) (t : GoType) (name : String) :
    Option (String × String × String × Bool) :=
  let t := unalias w 8 t
  let (base, viaPointer) := match t with
    | .pointer e => (unalias w 8 e, true)
    | e => (e, false)
  let fromIface (ms : List Method) : Option (String × String × String × Bool) :=
    (ms.find? fun (Method.mk n _ _) => sameFolded n name).map fun (Method.mk n p _) =>
      (n, "method", p, false)
  let fromNamed (obj : TypeObj) (ms : List (String × FuncType × Bool)) :
      Option (String × String × String × Bool) :=
    (ms.find? fun m => sameFolded m.1 name).map fun m =>
      (m.1, "method", obj.pkgPath, m.2.2 && !viaPointer)
  let methods : Option (String × String × String × Bool) :=
    match base, underlying w 16 base with
    | _, .iface _ ms _ => fromIface ms
    | .named obj _, _ => (declaredMethods? w obj).bind (fromNamed obj)
    | _, _ => none
  let fields := match underlying w 16 base with
    | .struct fs => (fs.find? fun (f : StructField) => match f with
        | .mk n _ _ _ _ => sameFolded n name).map fun (f : StructField) => match f with
        | .mk n p _ _ _ => (n, "field", p, false)
    | _ => none
  methods.orElse fun _ => fields

/-- How a name that was not found relates to the member `alt` found when letter case is
ignored, for a lookup from package `own`. -/
inductive MissKind where
  /-- Nothing near it: the name is missing. -/
  | missing
  /-- A member spelled otherwise. -/
  | misspelled
  /-- An exported name where the other package has it unexported. -/
  | unexported
  /-- The very name, unexported by another package. -/
  | inaccessible

/-- The relation of a name not found to the member found when letter case is ignored: in
the same package any other spelling is a misspelling; across packages only a change of the
first letter's case counts, and the very name is one that may not be named. -/
def missKind (own name : String) (alt? : Option (String × String)) : MissKind :=
  match alt? with
  | none => .missing
  | some (alt, altPkg) =>
    let tail (s : String) := s.toList.drop 1
    if altPkg == own then .misspelled
    else if Go.isExported name then
      if Go.isExported alt then .misspelled
      else if tail name == tail alt then .unexported
      else .missing
    else if Go.isExported alt then
      if tail name == tail alt then .misspelled else .missing
    else if name == alt then .inaccessible
    else .missing

/-- Why `x.name` selects nothing on a value of type `t` (written `typeText`), as the message
says it: the type has no such member, perhaps with one spelled otherwise, or the member is
one that may not be named from here. `addressable` tells whether a method with a pointer
receiver may be taken. -/
def missingMember (w : World) (own : String) (t : GoType) (typeText name : String)
    (addressable : Bool) : String :=
  let alt := (foldedMember? w t name).bind fun (n, what, p, needsAddress) =>
    if needsAddress && !addressable then none else some (n, what, p)
  let base := "type " ++ typeText ++ " has no field or method " ++ name
  match pointerToInterface? w t typeText with
  | some why => why
  | none =>
  match alt with
  | none => base
  | some (n, what, p) =>
    match missKind own name (some (n, p)) with
    | .missing => base
    | .misspelled => base ++ ", but does have " ++ what ++ " " ++ n
    | .unexported => base ++ ", but does have unexported " ++ what ++ " " ++ n
    | .inaccessible => "cannot refer to unexported " ++ what ++ " " ++ n

/-- The predeclared functions. -/
def builtinNames : List String :=
  ["append", "cap", "clear", "close", "complex", "copy", "delete", "imag", "len", "make", "max",
   "min", "new", "panic", "print", "println", "real", "recover"]

end StaticWrap.Typing
