import StaticWrap.Load.Scope
import StaticWrap.Types.Basic
import StaticWrap.Build.Constraint
import StaticWrap.GoSource.ExprText
/-!
**Resolving type expressions.**

A type written in a file becomes a `GoType` by looking its names up where the language looks
them up: the type parameters in scope, then the file's imports, then the package's own
declarations, then the predeclared names. A qualified name `p.N` looks `N` up in the package
that `p` imports; it must be exported, and declared there unless the package is open.

Names that resolve to nothing, or to something that is not a type, are faults (`TypeFault`),
recorded with their position, and stand for the invalid type. A constraint written as a union
or a `~T` term is the implicit interface of that one element; inside an interface, a union
(or a single `~T`) is one embedded element, and the methods are kept sorted.

Array lengths are constant expressions: integer literals, constants of the package or of an
imported one, and the arithmetic operators on them.

The recursion is bounded by `fuel`; a type expression nests no deeper than its file has bytes,
so `SourceUnit.depth` is enough.
-/

namespace StaticWrap.Load

open StaticWrap.GoSource
open StaticWrap.Types

/-- A further line of a fault's message: a place (line 0 for none) and a text. -/
structure FaultNote where
  file : String
  line : Nat
  column : Nat
  message : String
  deriving Inhabited

/-- How the compiler reports a fault the type checker finds: the same way, as one it finds
while it parses (before it checks types) in its own words, as one it finds while it checks
types at a place (line, column) and in words of its own, or not at all. -/
inductive CompilerView where
  | same
  | parsing (message : String)
  | typing (line column : Nat) (message : String)
  | absent
  deriving Inhabited, DecidableEq

/-- A fault in a package's declarations: file, position (line, column), message, the
further lines that follow the message, and how the compiler reports it. -/
structure TypeFault where
  file : String
  fileIndex : Nat
  pos : Nat
  line : Nat
  column : Nat
  message : String
  notes : List FaultNote := []
  compiler : CompilerView := .same
  /-- The type checker reports it too (not only the compiler). -/
  typeChecker : Bool := true
  deriving Inhabited

/-- Computations that record faults. -/
abbrev Resolving := StateM (List TypeFault)

/-- Where names are resolved: the packages read, the package and file, the type parameters
in scope, and the language version of the file with what the compiler says of where it comes
from. -/
structure Site where
  world : World
  pkg : PackageDecls
  unit : SourceUnit
  fileIndex : Nat
  typeParams : List String := []
  /-- The language version (the minor number of `go1.N`); none when not checked. -/
  lang : Option Nat := none
  /-- The compiler's addition to a fault of the language version. -/
  langHint : String := ""
  /-- The types declared inside the function where names are resolved, by name. -/
  localTypes : List (String × GoType) := []

/-- A bound on the nesting of the file's expressions. -/
def SourceUnit.depth (u : SourceUnit) : Nat := u.file.fileEnd + 1

/-- Records a fault at a position of the site's file. -/
def Site.fault (s : Site) (pos : Nat) (msg : String) : Resolving Unit :=
  let f : TypeFault :=
    { file := s.unit.path, fileIndex := s.fileIndex, pos := pos, line := s.unit.lines.line pos,
      column := s.unit.lines.column pos, message := msg }
  modify (· ++ [f])

/-- A note at a position of the site's file. -/
def Site.note (s : Site) (pos : Nat) (msg : String) : FaultNote :=
  { file := s.unit.path, line := s.unit.lines.line pos, column := s.unit.lines.column pos,
    message := msg }

/-- Records a fault with notes at a position of the site's file. -/
def Site.faultNoted (s : Site) (pos : Nat) (msg : String) (notes : List FaultNote) :
    Resolving Unit :=
  let f : TypeFault :=
    { file := s.unit.path, fileIndex := s.fileIndex, pos := pos, line := s.unit.lines.line pos,
      column := s.unit.lines.column pos, message := msg, notes }
  modify (· ++ [f])

/-- The language version a file's `//go:build` line declares (the last such line before
the package clause that parses), as the minor number of the least `go1.N` it needs; none
when it declares none. -/
def fileGoMinor (f : File) : Option Nat :=
  let early := (f.comments.flatMap (·.list)).filter (·.pos < f.packagePos)
  early.foldl (fun acc c =>
    if !c.text.startsWith "//go:build" then acc
    else match (Build.goBuildText? c.text).bind Build.parseExpr with
      | some x => let v := x.goMinor true; if v < 0 then none else some v.toNat
      | none => acc) none

/-- The language version of a file of a package and the compiler's hint: a version the file
declares counts (but never below `go1.21`), else the module's. The compiler names the file's
line when that is where the version comes from, and the module's version otherwise. -/
def fileLang (p : PackageDecls) (f : File) : Option Nat × String :=
  match p.lang with
  | none => (none, "")
  | some minor =>
    let modHint := " (-lang was set to go1." ++ toString minor ++ "; check go.mod)"
    match fileGoMinor f with
    | some v =>
      let v' := max v 21
      (some v', if v == v' then " (file declares //go:build go1." ++ toString v ++ ")" else modHint)
    | none => (some minor, modHint)

/-- The site of a declaration of a package's file. -/
def Site.ofFile (w : World) (p : PackageDecls) (i : Nat) : Site :=
  let unit := p.files[i]?.getD ⟨"", default, { starts := #[0], size := 0 }⟩
  let (lang, langHint) := fileLang p unit.file
  { world := w, pkg := p, unit, fileIndex := i, lang, langHint }

/-- Records a fault of the language version at a position of the site's file: `what`
requires `go1.minor`; the compiler adds where the version comes from. -/
def Site.versionFault (s : Site) (pos : Nat) (minor : Nat) (what : String) : Resolving Unit :=
  let msg := what ++ " requires go1." ++ toString minor ++ " or later"
  let line := s.unit.lines.line pos
  let column := s.unit.lines.column pos
  let f : TypeFault :=
    { file := s.unit.path, fileIndex := s.fileIndex, pos, line, column, message := msg,
      compiler := .typing line column (msg ++ s.langHint) }
  modify (· ++ [f])

/-- The site's file allows a feature of `go1.minor`. -/
def Site.allows (s : Site) (minor : Nat) : Bool :=
  match s.lang with
  | some v => minor ≤ v
  | none => true

/-- The value of an integer literal: decimal, `0x`, `0o`, `0b` or leading-zero octal, with
`_` separators. -/
def intLiteral? (lit : String) : Option Nat :=
  let cs := lit.toList.filter (· != '_')
  let digits (base : Nat) (ds : List Char) : Option Nat :=
    ds.foldl (fun acc c => acc.bind fun n =>
      let d := if c.isDigit then some (c.toNat - 48)
        else if 'a' ≤ c.toLower && c.toLower ≤ 'f' then some (c.toLower.toNat - 87) else none
      d.bind fun d => if d < base then some (n * base + d) else none) (some 0)
  match cs with
  | '0' :: x :: rest =>
    if x == 'x' || x == 'X' then digits 16 rest
    else if x == 'o' || x == 'O' then digits 8 rest
    else if x == 'b' || x == 'B' then digits 2 rest
    else digits 8 (x :: rest)
  | _ => digits 10 cs

/-- The value of a constant integer expression, if it is one this reading knows. -/
def constValue (s : Site) : Nat → Expr → Option Int
  | 0, _ => none
  | _ + 1, .basic _ .int lit => (intLiteral? lit).map Int.ofNat
  | n + 1, .paren _ x _ => constValue s n x
  | n + 1, .unary _ .sub x => (constValue s n x).map (- ·)
  | n + 1, .unary _ .add x => constValue s n x
  | n + 1, .ident id =>
    match s.pkg.value? id.name with
    | some (.const (some e)) => constValue s n e
    | _ => none
  | n + 1, .selector (.ident q) sel => do
    let path ← s.unit.importPath? s.world q.name
    let p ← s.world.find? path
    match p.value? sel.name with
    | some (.const (some e)) =>
      constValue { s with pkg := p, unit := p.files.headD s.unit, fileIndex := 0, typeParams := [] } n e
    | _ => none
  | n + 1, .binary x _ op y => do
    let a ← constValue s n x
    let b ← constValue s n y
    match op with
    | .add => some (a + b)
    | .sub => some (a - b)
    | .mul => some (a * b)
    | .quo => if b == 0 then none else some (a.tdiv b)
    | .rem => if b == 0 then none else some (a.tmod b)
    | .shl => some (a * Int.pow 2 b.toNat)
    | .shr => some (a / Int.pow 2 b.toNat)
    | _ => none
  | _ + 1, _ => none

/-- The object a type declaration of a package declares. -/
def declObj (p : PackageDecls) (d : TypeDecl) : TypeObj := ⟨p.path, p.name, d.name, 0⟩

/-- A resolved type name: its object, whether it is an alias, and whether it is generic. -/
structure NameRef where
  obj : TypeObj
  isAlias : Bool
  isGeneric : Bool

/-- The type a resolved name stands for, with type arguments. -/
def NameRef.withArgs (r : NameRef) (args : List GoType) : GoType :=
  if r.isAlias then .aliased r.obj args else .named r.obj args

/-- Looks up a name of another package. -/
def qualifiedName (s : Site) (pkgName : String) (sel : Ident) (path : String) :
    Resolving (Option NameRef) := do
  match s.world.find? path with
  | none =>
    s.fault sel.pos ("undefined: " ++ pkgName ++ "." ++ sel.name)
    pure none
  | some p =>
    if !Go.isExported sel.name then
      s.fault sel.pos ("name " ++ sel.name ++ " not exported by package " ++ p.name)
      pure none
    else if p.isOpen then pure (some ⟨⟨p.path, p.name, sel.name, 0⟩, false, false⟩)
    else match p.typeDecl? sel.name with
      | some d => pure (some ⟨declObj p d, d.isAlias, d.typeParams.isSome⟩)
      | none =>
        if (p.value? sel.name).isSome then
          s.fault sel.pos (pkgName ++ "." ++ sel.name ++ " is not a type")
          pure none
        else if !p.complete then pure (some ⟨⟨p.path, p.name, sel.name, 0⟩, false, false⟩)
        else
          s.fault sel.pos ("undefined: " ++ pkgName ++ "." ++ sel.name)
          pure none

/-- Looks up a type name written without qualifier; type parameters are answered by the
caller. -/
def localName (s : Site) (id : Ident) : Resolving (Option (Sum NameRef GoType)) := do
  if (s.unit.importPath? s.world id.name).isSome then
    s.fault id.pos ("use of package " ++ id.name ++ " not in selector")
    return none
  match s.pkg.typeDecl? id.name with
  | some d => return some (.inl ⟨declObj s.pkg d, d.isAlias, d.typeParams.isSome⟩)
  | none =>
    if (s.pkg.value? id.name).isSome then
      s.fault id.pos (id.name ++ " is not a type")
      return none
    match predeclaredType? id.name with
    | some t =>
      if (id.name == "any" || id.name == "comparable") && !s.allows 18 then
        s.versionFault id.pos 18 ("predeclared " ++ id.name)
        return none
      return some (.inr t)
    | none =>
      s.fault id.pos ("undefined: " ++ id.name)
      return none

/-- Resolves the head of an instantiation or a plain type name. -/
def typeName (s : Site) : Expr → Resolving (Option (Sum NameRef GoType))
  | .ident id =>
    if s.typeParams.contains id.name then pure (some (.inr (.param id.name)))
    else match s.localTypes.lookup id.name with
      | some t => pure (some (.inr t))
      | none => localName s id
  | .selector (.ident p) sel =>
    match s.unit.importPath? s.world p.name with
    | some path => do
      let r ← qualifiedName s p.name sel path
      pure (r.map Sum.inl)
    | none => do
      s.fault p.pos ("undefined: " ++ p.name)
      pure none
  | e => do
    s.fault e.pos "invalid type expression"
    pure none

/-- The name of an embedded struct field: the type's name without pointer, qualifier or type
arguments. -/
def embeddedName : Expr → String
  | .ident id => id.name
  | .selector _ sel => sel.name
  | .star _ x => embeddedName x
  | .paren _ x _ => embeddedName x
  | .index x _ _ _ => embeddedName x
  | .indexList x _ _ _ => embeddedName x
  | _ => ""

/-- Where the name of an embedded field stands: the type name, past a `*` and a package. -/
def embeddedPos : Expr → Nat
  | .selector _ sel => sel.pos
  | .star _ x => embeddedPos x
  | .paren _ x _ => embeddedPos x
  | .index x _ _ _ => embeddedPos x
  | .indexList x _ _ _ => embeddedPos x
  | e => e.pos

/-- A struct tag's value. -/
def tagValue : Option Expr → String
  | some (.basic _ .string lit) => (Text.unquote? lit).getD ""
  | _ => ""

mutual

/-- Resolves a type expression. -/
def resolveType (s : Site) : Nat → Expr → Resolving GoType
  | 0, _ => pure .invalid
  | n + 1, e =>
    match e with
    | .ident _ | .selector _ _ => do
      match ← typeName s e with
      | some (.inl r) =>
        if r.isGeneric then
          s.fault e.pos ("cannot use generic type " ++ r.obj.name ++ " without instantiation")
        pure (r.withArgs [])
      | some (.inr t) => pure t
      | none => pure .invalid
    | .index x _ i _ => instantiate s n e x [i]
    | .indexList x _ is _ => instantiate s n e x is
    | .paren _ x _ => resolveType s n x
    | .star _ x => do pure (.pointer (← resolveType s n x))
    | .array _ none elt => do pure (.slice (← resolveType s n elt))
    | .array _ (some len) elt => do
      let t ← resolveType s n elt
      match len with
      | .ellipsis p _ =>
        s.fault p "invalid use of [...] array (outside a composite literal)"
        pure .invalid
      | _ => pure (.array ((constValue s (s.unit.depth) len).getD 0).toNat t)
    | .map _ k v => do
      let kt ← resolveType s n k
      let vt ← resolveType s n v
      pure (.map kt vt)
    | .chan _ _ dir v => do pure (.chan dir (← resolveType s n v))
    | .func sig => do pure (.func (← resolveSig s n sig))
    | .struct _ fl => do pure (.struct (← resolveFields s n [] fl.list))
    | .iface _ fl => do
      let (ms, es) ← resolveElems s n fl.list
      pure (.iface false (ms.mergeSort Method.before) es)
    | .binary _ _ .or _ | .unary _ .tilde _ => do pure (.union (← resolveTerms s n e))
    | _ => do
      s.fault e.pos "invalid type expression"
      pure .invalid

/-- Resolves an instantiation `x[args]`: `x` must name a generic type. -/
def instantiate (s : Site) : Nat → Expr → Expr → List Expr → Resolving GoType
  | 0, _, _, _ => pure .invalid
  | n + 1, e, x, args => do
    let head ← typeName s x
    let ts ← resolveTypes s n args
    let notGeneric : Resolving GoType := do
      s.fault e.pos ("invalid operation: " ++ exprText e ++ " (" ++ exprText x ++
        " is not a generic type)")
      pure .invalid
    match head with
    | some (.inl r) =>
      -- only a declaration that is read tells that a type is not generic
      let declared := match s.world.find? r.obj.pkgPath with
        | some p => !p.isOpen && (p.typeDecl? r.obj.name).isSome
        | none => false
      if r.isGeneric || !declared then pure (r.withArgs ts) else notGeneric
    | some (.inr (.param _)) => notGeneric
    | some (.inr (.basic _)) => notGeneric
    | _ => pure .invalid

/-- Resolves a list of type expressions. -/
def resolveTypes (s : Site) : Nat → List Expr → Resolving (List GoType)
  | 0, _ => pure []
  | _ + 1, [] => pure []
  | n + 1, e :: es => do
    let t ← resolveType s n e
    let ts ← resolveTypes s n es
    pure (t :: ts)

/-- The terms of a union or `~T` element. -/
def resolveTerms (s : Site) : Nat → Expr → Resolving (List Types.Term)
  | 0, _ => pure []
  | n + 1, .binary x _ .or y => do
    let a ← resolveTerms s n x
    let b ← resolveTerms s n y
    pure (a ++ b)
  | n + 1, .unary _ .tilde x => do pure [.mk true (← resolveType s n x)]
  | n + 1, .paren _ x _ => resolveTerms s n x
  | n + 1, x => do pure [.mk false (← resolveType s n x)]

/-- Resolves a signature. -/
def resolveSig (s : Site) : Nat → Signature → Resolving FuncType
  | 0, _ => pure (.mk [] [] false)
  | n + 1, sig => do
    let (params, variadic) ← resolveVars s n sig.params.list
    let (results, _) ← match sig.results with
      | some fl => resolveVars s n fl.list
      | none => pure ([], false)
    pure (.mk params results variadic)

/-- Resolves parameters or results; a last `...T` makes the list variadic with type `[]T`. -/
def resolveVars (s : Site) : Nat → List Field → Resolving (List Var × Bool)
  | 0, _ => pure ([], false)
  | _ + 1, [] => pure ([], false)
  | n + 1, f :: rest => do
    let (t, variadic) ← match f.type with
      | .ellipsis _ (some elt) => do pure (GoType.slice (← resolveType s n elt), rest.isEmpty)
      | other => do pure (← resolveType s n other, false)
    let here := if f.names.isEmpty then [Var.mk "" t] else f.names.map fun id => Var.mk id.name t
    let (more, v) ← resolveVars s n rest
    pure (here ++ more, variadic || v)

/-- Resolves the fields of a struct type, after the fields `seen` (by name, with where they
are declared). A name other than `_` is declared once: a field that repeats one is
reported and left out. -/
def resolveFields (s : Site) : Nat → List (String × Nat) → List Field →
    Resolving (List StructField)
  | 0, _, _ => pure []
  | _ + 1, _, [] => pure []
  | n + 1, seen, f :: rest => do
    let t ← resolveType s n f.type
    let tag := tagValue f.tag
    let names := if f.names.isEmpty then [(embeddedName f.type, embeddedPos f.type, true)]
      else f.names.map fun id => (id.name, id.pos, false)
    let mut seen := seen
    let mut here : List StructField := []
    for (name, pos, embedded) in names do
      match (if name == "_" then none else seen.lookup name) with
      | some other =>
        s.faultNoted pos (name ++ " redeclared") [s.note other ("other declaration of " ++ name)]
      | none =>
        seen := seen ++ [(name, pos)]
        here := here ++ [StructField.mk name s.pkg.path embedded t tag]
    let more ← resolveFields s n seen rest
    pure (here ++ more)

/-- Resolves the elements of an interface type: methods and embedded elements. -/
def resolveElems (s : Site) : Nat → List Field → Resolving (List Method × List GoType)
  | 0, _ => pure ([], [])
  | _ + 1, [] => pure ([], [])
  | n + 1, f :: rest => do
    let (ms, es) ← match f.names, f.type with
      | name :: _, .func sig => do
        let st ← resolveSig s n sig
        pure ([Method.mk name.name s.pkg.path st], [])
      | _, t => do pure ([], [← resolveType s n t])
    let (ms', es') ← resolveElems s n rest
    pure (ms ++ ms', es ++ es')

end

/-- Resolves a type parameter's constraint: a union or `~T` term is the implicit interface
of that element. -/
def resolveBound (s : Site) (e : Expr) : Resolving GoType := do
  match e with
  | .binary _ _ .or _ | .unary _ .tilde _ =>
    let terms ← resolveTerms s s.unit.depth e
    pure (.iface true [] [.union terms])
  | _ => resolveType s s.unit.depth e

/-- The names of a type parameter list. -/
def paramNames : Option FieldList → List String
  | some fl => fl.list.flatMap fun f => f.names.map (·.name)
  | none => []

/-- Resolves a type parameter list: each name with its constraint. The site already has the
list's names in scope. -/
def resolveParams (s : Site) : Option FieldList → Resolving (List (String × GoType))
  | none => pure []
  | some fl => fl.list.foldlM (fun acc f => do
      let c ← resolveBound s f.type
      pure (acc ++ f.names.map fun id => (id.name, c))) []

end StaticWrap.Load
