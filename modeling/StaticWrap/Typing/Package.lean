import StaticWrap.Typing.Body
import StaticWrap.Typing.InitOrder
import StaticWrap.Model.Names
/-!
**Checking a package.**

`checkPackage` checks a package's declarations and function bodies, and gives its faults in
the order the type checker of the language finds them:

1. declaring the package's names, file by file: an import name declared twice in a file, a
   name declared twice in the package, `init` (and `main` in package `main`) declared as
   something other than a function or with parameters or results, a constant or variable
   specification whose names and values do not match; then an import name that a
   package-level name also declares;
2. the type declarations (aliases after the others), each with the faults of resolving its
   definition, then the methods declared twice for it and the methods that share a name
   with a field;
3. the other declarations in source order: a function's signature, a variable's type and
   initial value, a constant's type and value;
4. what waits until the declarations are known: the types that contain themselves, then the
   bodies of the functions and of the function literals met so far, in the order met, then
   the cycles of initialization among the constants and variables;
5. the imports that nothing uses.

A type contains itself when following its definition through arrays, struct fields,
embedded interfaces and the definitions of the named types met leads back to it; pointers,
slices, maps, channels and functions are not followed, since their values refer to others
without holding them.
-/

namespace StaticWrap.Typing

open StaticWrap.GoSource
open StaticWrap.Types
open StaticWrap.Load
open StaticWrap.Model

/-- An import of a file: the name it declares (`none` for a blank or dot import, and for the
pseudo-package `C`), whether the import gives the name itself, where, and the path. -/
structure ImportSite where
  name : Option String
  explicit : Bool
  pos : Nat
  pathPos : Nat
  path : String

/-- The imports of a file. An import without a name declares the imported package's name. -/
def fileImports (w : World) (f : File) : List ImportSite :=
  f.imports.filterMap fun s =>
    match s with
    | .importSpec _ name pathPos lit _ _ =>
      (Text.unquote? lit).map fun path =>
        let declared := match name with
          | some n => if n.name == "_" || n.name == "." then none else some n.name
          | none =>
            if path == "C" then none
            else some (((w.find? path).map (·.name)).getD (guessPackageName path))
        { name := declared, explicit := name.isSome,
          pos := (match name with
            | some n => n.pos
            | none => pathPos), pathPos, path }
    | _ => none

/-- A name declared at package level: in which file, and where. -/
structure Declared where
  name : String
  fileIndex : Nat
  pos : Nat

/-- The package's frame for one of its files. -/
def packageFrame (w : World) (p : PackageDecls) (i : Nat) : Frame :=
  { frameAt w p i with values := valueSites p, methods := methodSites p }

/-- A note at a position of one of the package's files. -/
def packageNote (w : World) (p : PackageDecls) (d : Declared) (msg : String) : FaultNote :=
  (packageFrame w p d.fileIndex).note d.pos msg

/-- Declares a package-level name, reporting one the package already declares. -/
def declarePackageName (w : World) (p : PackageDecls) (scope : List Declared) (d : Declared) :
    CheckM (List Declared) := do
  if d.name == "_" then return scope
  match scope.find? (·.name == d.name) with
  | some other =>
    (packageFrame w p d.fileIndex).fault d.pos (d.name ++ " redeclared in this block")
      [packageNote w p other ("other declaration of " ++ d.name)]
    return scope
  | none => return scope ++ [d]

/-- Declares a package-level constant, variable or type: `init`, and `main` in package
`main`, may only be functions. -/
def declarePackageObject (w : World) (p : PackageDecls) (scope : List Declared) (d : Declared) :
    CheckM (List Declared) := do
  let f := packageFrame w p d.fileIndex
  if d.name == "init" then
    f.fault d.pos "cannot declare init - must be func"
    return scope
  if d.name == "main" && p.name == "main" then
    f.fault d.pos "cannot declare main - must be func"
    return scope
  declarePackageName w p scope d

/-- The first phase: declaring the package's names, file by file; gives the names declared. -/
def declareNames (w : World) (p : PackageDecls) (broken : List (String × String)) :
    CheckM (List Declared) := do
  let mut scope : List Declared := []
  for (u, i) in p.files.zipIdx do
    let f := packageFrame w p i
    let mut fileScope : List Declared := []
    for im in fileImports w u.file do
      match broken.find? (·.1 == im.path) with
      | some (_, why) => f.fault im.pathPos ("could not import " ++ im.path ++ " (" ++ why ++ ")")
      | none => pure ()
      match im.name with
      | some n =>
        match fileScope.find? (·.name == n) with
        | some other =>
          f.fault im.pos (n ++ " redeclared in this block") [f.note other.pos ("other declaration of " ++ n)]
        | none => fileScope := fileScope ++ [⟨n, i, im.pos⟩]
      | none => pure ()
    for d in u.file.decls do
      match d with
      | .gen _ _ .kwImport _ _ _ => pure ()
      | .gen _ _ .kwType _ specs _ =>
        for s in specs do
          match s with
          | .typeSpec _ name tps _ _ _ =>
            match tps with
            | some ⟨_, first :: _, _⟩ => discard (f.requireVersion first.pos 18 "type parameter")
            | _ => pure ()
            scope ← declarePackageObject w p scope ⟨name.name, i, name.pos⟩
          | _ => pure ()
      | .gen _ _ tok _ specs _ =>
        let constDecl := tok == .kwConst
        let mut prevValues : List Expr := []
        for (s, iota) in specs.zipIdx do
          match s with
          | .value _ names typ values _ =>
            let inherited := constDecl && typ.isNone && values.isEmpty && iota > 0
            let inits := if constDecl && typ.isNone && values.isEmpty then prevValues else values
            if !(constDecl && typ.isNone && values.isEmpty) then prevValues := values
            for id in names do scope ← declarePackageObject w p scope ⟨id.name, i, id.pos⟩
            if constDecl then f.arity s.pos names inits true inherited
            else if typ.isNone || !values.isEmpty then f.arity s.pos names values false false
          | _ => pure ()
      | .func _ recv name sig body =>
        let isMethod := match recv with
          | some fl => !fl.list.isEmpty
          | none => false
        let firstParam := match sig.typeParams with
          | some ⟨_, first :: _, _⟩ => some first
          | _ => none
        let mut paramFault := false
        if !isMethod then
          if name.name == "init" || (name.name == "main" && p.name == "main") then
            match firstParam with
            | some first =>
              f.fault first.pos ("func " ++ name.name ++ " must have no type parameters")
              paramFault := true
            | none => pure ()
            if !sig.params.list.isEmpty || sig.results.isSome then
              f.fault name.pos ("func " ++ name.name ++ " must have no arguments and no return values")
          if name.name == "init" then
            if body.isNone then f.fault name.pos "missing function body"
          else scope ← declarePackageName w p scope ⟨name.name, i, name.pos⟩
        match firstParam with
        | some first => if !paramFault then discard (f.requireVersion first.pos 18 "type parameter")
        | none => pure ()
      | _ => pure ()
  -- an import name may not be declared by the package too
  for (u, i) in p.files.zipIdx do
    for im in fileImports w u.file do
      match im.name with
      | some n =>
        match scope.find? (·.name == n) with
        | some alt =>
          let pkgName := ((w.find? im.path).map (·.name)).getD (guessPackageName im.path)
          (packageFrame w p alt.fileIndex).fault alt.pos (n ++ " already declared through import of package " ++
            pkgName ++ " (" ++ Text.quote im.path ++ ")") [(packageFrame w p i).note im.pos ("other declaration of " ++ n)]
        | none => pure ()
      | none => pure ()
  return scope

/-- The type parameter names a receiver declares: the arguments of its base type. -/
def receiverParams : Expr → List String
  | .star _ x => receiverParams x
  | .paren _ x _ => receiverParams x
  | .index _ _ (.ident i) _ => [i.name]
  | .indexList _ _ is _ => is.filterMap fun e => match e with
    | .ident i => some i.name
    | _ => none
  | _ => []

/-- Resolves a type declaration's type parameters and definition, recording the faults;
then checks its array lengths and map keys. -/
def checkTypeSpec (f : Frame) (fuel : Nat) (tps : Option FieldList) (rhs : Expr) : CheckM Unit := do
  let site := { f.site with typeParams := paramNames tps }
  let act : Resolving Unit := do
    let _ ← resolveParams site tps
    let _ ← resolveType site site.unit.depth rhs
  recordFaults (act.run []).2
  atPackageLevel (typeChecks { f with site } fuel rhs)

/-- Reports the methods declared twice for a type, each at the later declaration. -/
def duplicateMethods (w : World) (p : PackageDecls) (typeName : String) : CheckM Unit := do
  let mut seen : List MethodSite := []
  for m in (methodSites p).filter (·.recvName == typeName) do
    if m.name.name == "_" then continue
    match seen.find? (·.name.name == m.name.name) with
    | some alt =>
      let af := packageFrame w p alt.fileIndex
      let u := af.site.unit
      (packageFrame w p m.fileIndex).fault m.name.pos ("method " ++ typeName ++ "." ++ m.name.name ++
        " already declared at " ++ u.path ++ ":" ++ toString (u.lines.line alt.name.pos) ++ ":" ++
        toString (u.lines.column alt.name.pos))
    | none => seen := seen ++ [m]

/-- Reports each field of a struct type declaration that a method of the type also names,
at the method, with the field as the other declaration. -/
def fieldMethodClash (w : World) (p : PackageDecls) (i : Nat) (typeName : String) (rhs : Expr) :
    CheckM Unit := do
  match rhs with
  | .struct _ fl =>
    let methods := (methodSites p).filter (·.recvName == typeName)
    for fd in fl.list do
      let names := if fd.names.isEmpty then [(embeddedName fd.type, embeddedPos fd.type)]
        else fd.names.map fun id => (id.name, id.pos)
      for (n, pos) in names do
        if n == "_" then continue
        match methods.find? (·.name.name == n) with
        | some m =>
          (packageFrame w p m.fileIndex).fault m.name.pos ("field and method with the same name " ++ n)
            [(packageFrame w p i).note pos ("other declaration of " ++ n)]
        | none => pure ()
  | _ => pure ()

/-- The type declarations of the package in the order they are checked: those that are not
aliases, then the aliases; each with its file, name, type parameters and definition. -/
def typeSpecs (p : PackageDecls) : List (Nat × Ident × Option FieldList × Expr) :=
  let all := p.files.zipIdx.flatMap fun (u, i) => u.file.decls.flatMap fun d =>
    match d with
    | .gen _ _ .kwType _ specs _ => specs.filterMap fun s =>
      match s with
      | .typeSpec _ name tps assign rhs _ => some (assign != 0, i, name, tps, rhs)
      | _ => none
    | _ => []
  (all.filter (!·.1) ++ all.filter (·.1)).map (·.2)

/-- The second phase: the type declarations. -/
def checkTypes (w : World) (p : PackageDecls) (fuel : Nat) : CheckM Unit := do
  for (i, name, tps, rhs) in typeSpecs p do
    checkTypeSpec (packageFrame w p i) fuel tps rhs
    if name.name != "_" then
      duplicateMethods w p name.name
      fieldMethodClash w p i name.name rhs

/-- The function of a declaration's body, waiting to be checked: its frame (with the type
parameters of its receiver and signature), receiver, parameters and results. -/
def declaredBody (w : World) (p : PackageDecls) (i : Nat) (recv : Option FieldList)
    (sig : Signature) (body : Block) : Pending :=
  let f := packageFrame w p i
  let recvParams := match recv with
    | some fl => fl.list.flatMap fun fd => receiverParams fd.type
    | none => []
  let typeParams := recvParams ++ paramNames sig.typeParams
  let site := { f.site with typeParams }
  let depth := site.unit.depth
  let recvVars := match recv with
    | some fl => fl.list.flatMap fun fd =>
      let t := ((resolveType site depth fd.type).run []).1
      fd.names.map fun id => (id, t)
    | none => []
  let ft := ((resolveSig site depth sig).run []).1
  let bounds := match sig.typeParams with
    | some tps => tps.list.flatMap fun fd =>
      let bound := ((resolveType site depth fd.type).run []).1
      fd.names.map fun id => (id.name, bound)
    | none => []
  { frame := { f with site, bounds }, scopes := [], recv := recvVars, typeParams, type := ft, sig,
    body }

/-- What is wrong with a method's receiver type, if anything, and where (its base type,
under one pointer): its base type must be a type declared in the package, neither a pointer
nor an interface. A generic receiver is not looked at. -/
def receiverFault (f : Frame) (recv : Option FieldList) : Option (Nat × String) := do
  let fl ← recv
  let fd ← fl.list.head?
  if !(receiverParams fd.type).isEmpty then none
  let w := f.world
  let base := match fd.type.unparen with
    | .star _ x => x.unparen
    | t => t
  let t := ((resolveType f.site f.site.unit.depth fd.type).run []).1
  let rtyp := match t with
    | .pointer e => e
    | e => e
  let nonLocal := some (base.pos, "cannot define new methods on non-local type " ++ f.typeText rtyp)
  match unalias w 8 rtyp with
  | .invalid => none
  | .named obj _ =>
    if obj.pkgPath != f.own then nonLocal
    else match underlying w 16 rtyp with
      | .pointer _ | .iface _ _ _ =>
        some (base.pos, "invalid receiver type " ++ f.typeText rtyp ++ " (pointer or interface type)")
      | .basic "unsafe.Pointer" =>
        some (base.pos, "invalid receiver type " ++ f.typeText rtyp ++ " (unsafe.Pointer)")
      | _ => none
  | .basic _ => nonLocal
  | .aliased _ _ => none
  | _ => some (base.pos, "invalid receiver type " ++ f.typeText t)

/-- A function declaration in the third phase: the faults of its signature (and receiver);
its body waits. -/
def checkFuncDecl (w : World) (p : PackageDecls) (fuel : Nat) (i : Nat) (recv : Option FieldList)
    (sig : Signature) (body : Option Block) : CheckM Unit := do
  let f := packageFrame w p i
  let recvParams := match recv with
    | some fl => fl.list.flatMap fun fd => receiverParams fd.type
    | none => []
  let site := { f.site with typeParams := recvParams ++ paramNames sig.typeParams }
  let depth := site.unit.depth
  let act : Resolving Unit := do
    match recv with
    | some fl => for fd in fl.list do let _ ← resolveType site depth fd.type
    | none => pure ()
    let _ ← resolveParams site sig.typeParams
    let _ ← resolveSig site depth sig
  recordFaults (act.run []).2
  atPackageLevel do
    let sf : Frame := { f with site }
    match recv with
    | some fl => for fd in fl.list do typeChecks sf fuel fd.type
    | none => pure ()
    typeChecks sf fuel (.func sig)
  f.duplicateParams recv sig
  match body with
  | some b =>
    let pending := { declaredBody w p i recv sig b with
      receiverFault := receiverFault f recv, owner := (← get).owner }
    modify fun s => { s with delayed := s.delayed.push pending }
  | none =>
    match receiverFault f recv with
    | some (pos, msg) => f.fault pos msg
    | none => pure ()

/-- Resolves a package-level type expression, recording the faults, and checks its array
lengths and map keys. -/
def packageType (f : Frame) (fuel : Nat) (te : Expr) : CheckM GoType := do
  let (t, faults) := (resolveType f.site f.site.unit.depth te).run []
  recordFaults faults
  atPackageLevel (typeChecks f fuel te)
  return t

/-- A variable specification in the third phase: each variable's type (resolved for each
name, as each variable is declared on its own) and initial value; several variables with
one value share it, and are checked together. -/
def checkVarSpec (f : Frame) (fuel : Nat) (names : List Ident) (typ : Option Expr)
    (values : List Expr) : CheckM Unit := do
  let typeOf : CheckM (Option GoType) := match typ with
    | some te => some <$> packageType f fuel te
    | none => pure none
  match typ with
  | some te => atPackageLevel (varTypeCheck f te)
  | none => pure ()
  if values.length == 1 && names.length > 1 then
    asOwner (names.map (·.name)) do
    let declared ← typeOf
    let vars ← names.mapM fun id => newVar id.name id.pos (declared.getD .invalid) true
    let targets : List InitTarget := vars.map fun i =>
      { fresh := if declared.isNone then some i else none, type := declared }
    initVars f fuel targets values 0 "assignment"
  else
    for (id, i) in names.zipIdx do
      asOwner [id.name] do
      let declared ← typeOf
      match values[i]? with
      | some e =>
        let v ← newVar id.name id.pos (declared.getD .invalid) true
        let x ← valueExpr f fuel e
        f.initOne { fresh := if declared.isNone then some v else none, type := declared } x
          "variable declaration"
      | none => pure ()

/-- A constant specification in the third phase: each constant's type and value, with the
value of `iota` of the specification; a constant that repeats an earlier specification's
values reports their faults at its own name. -/
def checkConstSpec (f : Frame) (fuel : Nat) (names : List Ident) (typ : Option Expr)
    (values : List Expr) (iota : Nat) (inherited : Bool) : CheckM Unit := do
  for (id, i) in names.zipIdx do
    asOwner [id.name] do
    let declared ← match typ with
      | some te => do
        let t ← packageType f fuel te
        some <$> f.constType te t
      | none => pure none
    match declared, values[i]? with
    | some .invalid, _ => pure ()
    | _, some v =>
      let cf : Frame := { f with iota := some iota, errAt := if inherited then some id.pos else none }
      let x ← valueExpr cf fuel v
      discard (cf.constInit x declared)
    | _, none => pure ()

/-- The key of a function or method among the package's objects: its name, or `T.M` for a
method of `T`; none for `init` and a blank name. -/
def funcKey (recv : Option FieldList) (name : Ident) : Option String :=
  if name.name == "init" || name.name == "_" then none
  else match recv with
    | none => some name.name
    | some fl => match fl.list with
      | [fd] => (receiverBase fd.type).map fun (base, _, _) => base ++ "." ++ name.name
      | _ => none

/-- The package's constants, variables, functions and methods in the order they are
declared, for the order of initialization. -/
def initObjects (p : PackageDecls) : List InitObject :=
  p.files.zipIdx.flatMap fun (u, i) => u.file.decls.flatMap fun d =>
    match d with
    | .func _ recv name _ _ =>
      (funcKey recv name).toList.map fun key =>
        { key, name := name.name, isFunc := true, fileIndex := i, pos := name.pos }
    | .gen _ _ kind _ specs _ =>
      if kind != .kwVar && kind != .kwConst then []
      else specs.flatMap fun sp => match sp with
        | .value _ names _ _ _ => (names.filter (·.name != "_")).map fun id =>
          { key := id.name, name := id.name, isConst := kind == .kwConst, fileIndex := i,
            pos := id.pos }
        | _ => []
    | _ => []

/-- The end of the fourth phase: the cycles of initialization. One object that refers to itself says
so; a longer cycle is reported at its first object, each object's line saying which one it
refers to. -/
def initializationCycles (w : World) (p : PackageDecls) : CheckM Unit := do
  let deps := (← get).deps.toList
  for cycle in initCycles (initObjects p) deps do
    match cycle with
    | [] => pure ()
    | [o] =>
      (packageFrame w p o.fileIndex).fault o.pos
        ("initialization cycle: " ++ o.name ++ " refers to itself")
    | first :: _ =>
      -- each object refers to the one before it in the list, the first to the last
      let order := first :: cycle.reverse
      let notes := (order.zip (order.drop 1)).map fun (o, next) =>
        (packageFrame w p o.fileIndex).note o.pos (o.name ++ " refers to " ++ next.name)
      (packageFrame w p first.fileIndex).fault first.pos
        ("initialization cycle for " ++ first.name) notes

/-- The third phase: functions, variables and constants in source order. -/
def checkOthers (w : World) (p : PackageDecls) (fuel : Nat) : CheckM Unit := do
  for (u, i) in p.files.zipIdx do
    let f := packageFrame w p i
    for d in u.file.decls do
      match d with
      | .func _ recv name sig body =>
        asOwner ((funcKey recv name).toList) (checkFuncDecl w p fuel i recv sig body)
      | .gen _ _ .kwVar _ specs _ =>
        for s in specs do
          match s with
          | .value _ names typ values _ => checkVarSpec f fuel names typ values
          | _ => pure ()
      | .gen _ _ .kwConst _ specs _ =>
        let mut prevType : Option Expr := none
        let mut prevValues : List Expr := []
        for (s, iota) in specs.zipIdx do
          match s with
          | .value _ names typ values _ =>
            let inherited := typ.isNone && values.isEmpty && iota > 0
            let (typ, values) := if typ.isNone && values.isEmpty then (prevType, prevValues)
              else (typ, values)
            prevType := typ
            prevValues := values
            checkConstSpec f fuel names typ values iota inherited
          | _ => pure ()
      | _ => pure ()

/-- What following a type's definition finds: nothing wrong, a type already known to be
wrong (where the search stops), or a cycle of named types, from the one met twice. -/
inductive Validity where
  | valid
  | stop
  | cycle (objs : List TypeObj)

mutual

/-- Follows a type through what its values hold. `path` holds the named types being
followed, `bad` those already found to contain themselves. -/
def validIn (w : World) (own : String) (bad : List TypeObj) : Nat → GoType → List TypeObj → Validity
  | 0, _, _ => .valid
  | n + 1, t, path =>
    match t with
    | .array _ e => validIn w own bad n e path
    | .struct fs => validList w own bad n (fs.map fun (fd : StructField) => match fd with
        | .mk _ _ _ ft _ => ft) path
    | .iface _ _ es => validList w own bad n es path
    | .union ts => validList w own bad n (ts.map fun (tm : Types.Term) => match tm with
        | .mk _ tt => tt) path
    | .aliased obj _ =>
      match declaredType? w obj with
      | some u => validIn w own bad n u path
      | none => .valid
    | .named obj args =>
      if !args.isEmpty || obj.pkgPath != own || obj.isPredeclared then .valid
      else if bad.contains obj then .stop
      else match declaredType? w obj with
        | none => .valid
        | some rhs =>
          match underlying w 16 (.named obj []) with
          | .invalid => .stop
          | _ =>
            if path.contains obj then .cycle (path.dropWhile (· != obj))
            else validIn w own bad n rhs (path ++ [obj])
    | _ => .valid

/-- Follows each type of a list, until one is not valid. -/
def validList (w : World) (own : String) (bad : List TypeObj) : Nat → List GoType → List TypeObj → Validity
  | 0, _, _ => .valid
  | _ + 1, [], _ => .valid
  | n + 1, t :: ts, path =>
    match validIn w own bad n t path with
    | .valid => validList w own bad n ts path
    | r => r

end

/-- Where a type of the package is declared: its file and name. -/
def typeNameSite (p : PackageDecls) (name : String) : Option (Nat × Ident) :=
  (typeSpecs p).findSome? fun (i, id, _, _) => if id.name == name then some (i, id) else none

/-- Reports a cycle of types, at the first; each type's line says which it refers to. -/
def reportCycle (w : World) (p : PackageDecls) (objs : List TypeObj) : CheckM Unit := do
  match objs with
  | [] => pure ()
  | first :: _ =>
    match typeNameSite p first.name with
    | none => pure ()
    | some (i, id) =>
      let f := packageFrame w p i
      if objs.length == 1 then
        f.fault id.pos ("invalid recursive type: " ++ first.name ++ " refers to itself")
      else
        let notes := objs.zipIdx.filterMap fun (o, k) =>
          let next := objs[(k + 1) % objs.length]?.getD o
          (typeNameSite p o.name).map fun (j, oid) =>
            (packageFrame w p j).note oid.pos (o.name ++ " refers to " ++ next.name)
        f.fault id.pos ("invalid recursive type " ++ first.name) notes

/-- A cycle of aliases from `name`: following the aliases of the package each alias's
definition names (`refs`) back to one already on the path. -/
def aliasCycle (refs : String → List String) : Nat → List String → String → Option (List String)
  | 0, _, _ => none
  | n + 1, path, name =>
    if path.contains name then some (path.dropWhile (· != name))
    else (refs name).findSome? (aliasCycle refs n (path ++ [name]))

/-- The aliases that stand for themselves through other aliases only (a defined type on the
way ends the chain), each cycle reported once, from the alias of the cycle declared first. -/
def aliasCycles (w : World) (p : PackageDecls) (fuel : Nat) : CheckM Unit := do
  let specs := typeSpecs p
  let isAlias (nm : String) : Bool := (p.typeDecl? nm).any (·.isAlias)
  let refs (nm : String) : List String :=
    match specs.find? (fun (_, id, _, _) => id.name == nm) with
    | some (i, _, _, rhs) =>
      let depth := ((p.files[i]?).map (·.depth)).getD 0
      (typeExprNames depth rhs).filter isAlias
    | none => []
  let place (nm : String) : Nat × Nat :=
    match specs.find? (fun (_, id, _, _) => id.name == nm) with
    | some (i, id, _, _) => (i, id.pos)
    | none => (0, 0)
  let mut seen : List String := []
  for (_, name, tps, _) in specs do
    if tps.isSome || !isAlias name.name || seen.contains name.name then continue
    match aliasCycle refs fuel [] name.name with
    | some cycle =>
      if cycle.any seen.contains then continue
      seen := seen ++ cycle
      let first := cycle.foldl (fun a b =>
        let (fa, pa) := place a
        let (fb, pb) := place b
        if fb < fa || (fb == fa && pb < pa) then b else a) (cycle.headD name.name)
      let k := cycle.idxOf first
      let rotated := cycle.drop k ++ cycle.take k
      let objs := rotated.filterMap fun nm => (p.typeDecl? nm).map (declObj p)
      reportCycle w p objs
    | none => pure ()

/-- The types that contain themselves, each cycle reported once, in the order the type
declarations are checked. -/
def recursiveTypes (w : World) (p : PackageDecls) (fuel : Nat) : CheckM Unit := do
  let mut bad : List TypeObj := []
  for (_, name, tps, _) in typeSpecs p do
    if tps.isSome || name.name == "_" then continue
    match p.typeDecl? name.name with
    | none => pure ()
    | some d =>
      let start : GoType := if d.isAlias then unalias w 8 (.aliased (declObj p d) []) else .named (declObj p d) []
      match start with
      | .named obj [] =>
        match validIn w p.path bad fuel (.named obj []) [] with
        | .cycle objs =>
          reportCycle w p objs
          bad := bad ++ objs.take 1
        | _ => pure ()
      | _ => pure ()

/-- The import names a file's package-level declarations use in types and signatures. -/
def declQualifiers (f : File) : List String :=
  let depth := f.fileEnd + 1
  let fieldTypes (fl : FieldList) : List String :=
    fl.list.flatMap fun fd => typeExprQualifiers depth fd.type
  f.decls.flatMap fun d =>
    match d with
    | .func _ recv _ sig _ =>
      (recv.map fieldTypes).getD [] ++ (sig.typeParams.map fieldTypes).getD [] ++
        typeExprQualifiers depth (.func sig)
    | .gen _ _ _ _ specs _ => specs.flatMap fun s =>
      match s with
      | .typeSpec _ _ tps _ rhs _ => (tps.map fieldTypes).getD [] ++ typeExprQualifiers depth rhs
      | .value _ _ (some t) _ _ => typeExprQualifiers depth t
      | _ => []
    | _ => []

/-- The fifth phase: the imports nothing uses, file by file. An import whose name is not the
last element of its path says the name. -/
def unusedImports (w : World) (p : PackageDecls) : CheckM Unit := do
  let used := (← get).usedImports
  for (u, i) in p.files.zipIdx do
    let f := packageFrame w p i
    let inTypes := declQualifiers u.file
    for im in fileImports w u.file do
      match im.name with
      | none => pure ()
      | some n =>
        if used.contains (i, n) || inTypes.contains n then continue
        let elem := (im.path.splitOn "/").getLast?.getD im.path
        if n == elem then f.fault im.pos (Text.quote im.path ++ " imported and not used")
        else f.fault im.pos (Text.quote im.path ++ " imported as " ++ n ++ " and not used")

/-- The faults of a package, in the order they are found; `broken` lists the imports that
cannot be read, each with why. -/
def checkPackage (w : World) (p : PackageDecls) (broken : List (String × String)) : List TypeFault :=
  let fuel := 4 * (p.files.map (·.file.fileEnd)).foldr (· + ·) 0 + 64
  let act : CheckM Unit := do
    discard (declareNames w p broken)
    checkTypes w p fuel
    checkOthers w p fuel
    recursiveTypes w p fuel
    aliasCycles w p fuel
    processDelayed fuel 0
    initializationCycles w p
    unusedImports w p
  (act.run {}).2.faults.toList

end StaticWrap.Typing
