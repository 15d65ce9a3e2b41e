import StaticWrap.GoSource.Syntax
/-!
**Labels and the statements that jump to them.**

The two checkers of a build look at the labels of a function body in passes of their own,
with their own words, so each pass is kept as that checker makes it:

* `labelFaults` is the type checker's pass, made after the statements of the body are
  checked: a labeled `break` must name an enclosing `for`, `switch` or `select`, a labeled
  `continue` an enclosing `for`; a `goto` may not jump over a variable declaration of its
  block or into a block; and every label must be declared once and used.
* `branchFaults` is the compiler's pass, made while it parses the body: the same rules, and
  the unlabeled `break`, `continue` and `fallthrough` too, which the type checker instead
  checks statement by statement.

A block is where its statements are: the body, a braced block, the branches of an `if`, the
body of a loop, a case. A `goto` to a label not yet seen is a forward jump of its block; it is
resolved when the label is declared later in the block, and otherwise passes to the enclosing
block. A forward jump resolved in a block where a variable was declared after it jumps over
that declaration.

The passes differ where the checkers do: the type checker lets every block after a labeled
statement belong to it (so a `break` in a later loop may name an earlier loop's label), while
the compiler lets only the blocks of the labeled statement itself belong to it.

Both passes run on fuel: a statement nests no deeper than its text is long.
-/

namespace StaticWrap.Typing

open StaticWrap.GoSource

/-- A fault a branch pass finds: where, what, and notes at other places. -/
structure BranchFault where
  pos : Nat
  message : String
  notes : List (Nat × String) := []

/-- A labeled statement may be left by `break`: it is a loop, a switch or a select. -/
def breakable : Stmt → Bool
  | .switchStmt _ _ _ _ | .typeSwitch _ _ _ _ | .select _ _ | .forStmt _ _ _ _ _
  | .range _ _ _ _ _ _ _ _ => true
  | _ => false

/-- A labeled statement may be continued: it is a loop. -/
def continuable : Stmt → Bool
  | .forStmt _ _ _ _ _ | .range _ _ _ _ _ _ _ _ => true
  | _ => false

/-! ### The type checker's pass -/

/-- A label of the body: its name, where it is declared, and whether a branch uses it. -/
structure LabelUse where
  name : String
  pos : Nat
  used : Bool := false

/-- What the type checker's pass keeps over the whole body: its labels and its faults. -/
structure LabelPass where
  labels : List LabelUse := []
  faults : List BranchFault := []

/-- Marks the label of a name used. -/
def LabelPass.use (name : String) (p : LabelPass) : LabelPass :=
  { p with labels := p.labels.map fun l => if l.name == name then { l with used := true } else l }

/-- Records a fault. -/
def LabelPass.fault (pos : Nat) (msg : String) (notes : List (Nat × String) := [])
    (p : LabelPass) : LabelPass :=
  { p with faults := p.faults ++ [{ pos, message := msg, notes }] }

/-- A block around the statement looked at: the labeled statement it belongs to (the label's
name and the statement), and the labels declared in it so far. -/
structure LabelBlock where
  owner : Option (String × Stmt)
  names : List String := []

/-- The state of the block whose statements are looked at: the block, the labeled statement
the blocks met from here on belong to, the last variable declaration met, the forward jumps,
and those made before that declaration. -/
structure LabelScan where
  block : LabelBlock
  current : Option (String × Stmt)
  varDecl : Option Nat := none
  forward : List Ident := []
  before : List Ident := []

/-- The labeled statement named `name` that the innermost of the blocks belongs to. -/
def enclosingLabel (name : String) (blocks : List LabelBlock) : Option Stmt :=
  (blocks.findSome? fun b => match b.owner with
    | some (l, s) => if l == name then some s else none
    | none => none)

mutual

/-- Looks at one statement of a block, given the blocks around it. -/
def labelStmt (lineOf : Nat → Nat) : Nat → List LabelBlock → Stmt → LabelScan →
    StateM LabelPass LabelScan
  | 0, _, _, b => pure b
  | n + 1, outer, s, b => do
    let nested (owner : Option (String × Stmt)) (list : List Stmt) : StateM LabelPass LabelScan := do
      let fwd ← labelBlock lineOf n (b.block :: outer) owner list
      return { b with forward := b.forward ++ fwd }
    match s with
    | .decl (.gen _ pos .kwVar _ _ _) => return { b with varDecl := some pos, before := b.forward }
    | .assign _ _ .define _ => return { b with varDecl := some s.pos, before := b.forward }
    | .labeled l _ inner =>
      if l.name == "_" then return (← labelStmt lineOf n outer inner b)
      let st ← get
      let mut b := b
      let fresh := !st.labels.any (·.name == l.name)
      match st.labels.find? (·.name == l.name) with
      | some alt =>
        modify (LabelPass.fault l.pos ("label " ++ l.name ++ " already declared")
          [(alt.pos, "other declaration of " ++ l.name)])
      | none =>
        set { st with labels := st.labels ++ [({ name := l.name, pos := l.pos } : LabelUse)] }
        b := { b with block := { b.block with names := l.name :: b.block.names } }
      let mut keep : List Ident := []
      for jmp in b.forward do
        if jmp.name == l.name then
          if fresh then modify (LabelPass.use l.name)
          match b.varDecl with
          | some vp =>
            if b.before.any (·.pos == jmp.pos) then
              modify (LabelPass.fault jmp.pos ("goto " ++ l.name ++
                " jumps over variable declaration at line " ++ toString (lineOf vp)))
          | none => pure ()
        else keep := keep ++ [jmp]
      b := { b with forward := keep, current := some (l.name, inner) }
      labelStmt lineOf n outer inner b
    | .branch _ .kwBreak (some l) =>
      if (enclosingLabel l.name (b.block :: outer)).any breakable then modify (LabelPass.use l.name)
      else modify (LabelPass.fault l.pos ("invalid break label " ++ l.name))
      return b
    | .branch _ .kwContinue (some l) =>
      if (enclosingLabel l.name (b.block :: outer)).any continuable then
        modify (LabelPass.use l.name)
      else modify (LabelPass.fault l.pos ("invalid continue label " ++ l.name))
      return b
    | .branch _ .kwGoto (some l) =>
      if (b.block :: outer).any (·.names.contains l.name) then
        modify (LabelPass.use l.name)
        return b
      return { b with forward := b.forward ++ [l] }
    | .block blk => nested b.current blk.list
    | .ifStmt _ _ _ body els =>
      let b ← nested b.current body.list
      match els with
      | some e => labelStmt lineOf n outer e b
      | none => return b
    | .caseClause _ _ _ body | .commClause _ _ _ body => nested none body
    | .switchStmt _ _ _ body | .typeSwitch _ _ _ body | .select _ body | .forStmt _ _ _ _ body
    | .range _ _ _ _ _ _ _ body => nested b.current body.list
    | _ => return b

/-- Looks at the statements of a block, given the blocks around it and the labeled
statement it belongs to; gives the forward jumps left unresolved. -/
def labelBlock (lineOf : Nat → Nat) : Nat → List LabelBlock → Option (String × Stmt) →
    List Stmt → StateM LabelPass (List Ident)
  | 0, _, _, _ => pure []
  | n + 1, outer, owner, list => do
    let mut b : LabelScan := { block := { owner }, current := owner }
    for s in list do b ← labelStmt lineOf n outer s b
    return b.forward

end

/-- The faults the type checker's label pass finds in a function body, in the order it
reports them: as it meets them, then the jumps to labels it never reached (into a block, or
to no label at all), then the labels no branch uses. `lineOf` gives a position's line. -/
def labelFaults (lineOf : Nat → Nat) (body : Block) : List BranchFault :=
  let act : StateM LabelPass Unit := do
    let fwd ← labelBlock lineOf (body.end + 1) [] none body.list
    for jmp in fwd do
      if (← get).labels.any (·.name == jmp.name) then
        modify (LabelPass.use jmp.name)
        modify (LabelPass.fault jmp.pos ("goto " ++ jmp.name ++ " jumps into block"))
      else modify (LabelPass.fault jmp.pos ("label " ++ jmp.name ++ " not declared"))
    for l in (← get).labels do
      if !l.used then modify (LabelPass.fault l.pos ("label " ++ l.name ++ " declared and not used"))
  (act.run {}).2.faults

/-! ### The compiler's pass -/

/-- A label as the compiler's pass records it: its name and place, the block it is declared
in (its number and start), the statement it labels, and whether a branch names it. -/
structure BranchLabel where
  name : String
  pos : Nat
  block : Nat
  blockStart : Nat
  stmt : Stmt
  used : Bool := false

/-- What the compiler's pass keeps over the whole body: its labels, the number of blocks
met, and its faults. -/
structure BranchPass where
  labels : List BranchLabel := []
  blocks : Nat := 0
  faults : List BranchFault := []

/-- Marks the label of a name used. -/
def BranchPass.use (name : String) (p : BranchPass) : BranchPass :=
  { p with labels := p.labels.map fun l => if l.name == name then { l with used := true } else l }

/-- Records a fault. -/
def BranchPass.fault (pos : Nat) (msg : String) (p : BranchPass) : BranchPass :=
  { p with faults := p.faults ++ [{ pos, message := msg }] }

/-- A block around the statement looked at: its number, where it starts, and the label (by
its place) of the statement it belongs to. -/
structure BranchBlock where
  id : Nat
  start : Nat
  owner : Option Nat

/-- The innermost statement around that an unlabeled `break` leaves: a loop, a switch
(whether it switches on a type, and its number of cases) or a select. -/
inductive BreakTarget where
  | loop
  | switch (onType : Bool) (cases : Nat)
  | select

/-- What the statements around allow: the statement `break` leaves, whether `continue` may
be used, and the index of the case the statements are directly in. -/
structure BranchTargets where
  breaks : Option BreakTarget := none
  continues : Bool := false
  caseIndex : Option Nat := none

/-- The state of the block whose statements are looked at: the block, the last variable
declaration met (its place and the names it declares), the forward jumps, and those made
before that declaration. -/
structure BranchScan where
  block : BranchBlock
  varDecl : Option (Nat × String) := none
  forward : List Ident := []
  before : List Ident := []

/-- The names a short variable declaration declares, as the compiler writes them. -/
def declaredNames (lhs : List Expr) : String :=
  ", ".intercalate (lhs.map fun e => match e with
    | .ident id => id.name
    | _ => "_")

/-- The labeled statement a labeled `break` or `continue` names: none when the label is not
declared (so far); `some none` when it is but no block around belongs to it. The label counts
as used either way. -/
def enclosingTarget (name : String) (blocks : List BranchBlock) :
    StateM BranchPass (Option (Option Stmt)) := do
  match (← get).labels.find? (·.name == name) with
  | none => return none
  | some l =>
    modify (BranchPass.use name)
    return some (if blocks.any (·.owner == some l.pos) then some l.stmt else none)

mutual

/-- Looks at one statement of a block (the `index`th of `count`), given the blocks around it,
what they allow, and the label of the statement when it is labeled. -/
def branchStmt (place : Nat → String) : Nat → List BranchBlock → BranchTargets → Option Nat →
    Nat → Nat → Stmt → BranchScan → StateM BranchPass BranchScan
  | 0, _, _, _, _, _, _, b => pure b
  | n + 1, outer, ctxt, label, index, count, s, b => do
    let nested (t : BranchTargets) (start : Nat) (list : List Stmt) :
        StateM BranchPass BranchScan := do
      let fwd ← branchBlock place n (b.block :: outer) t label start list
      return { b with forward := b.forward ++ fwd }
    match s with
    | .decl (.gen _ _ .kwVar _ specs _) =>
      match specs with
      | .value _ (id :: _) _ _ _ :: _ =>
        return { b with varDecl := some (id.pos, id.name), before := b.forward }
      | _ => return b
    | .assign lhs pos .define _ =>
      return { b with varDecl := some (pos, declaredNames lhs), before := b.forward }
    | .labeled l _ inner =>
      if l.name == "_" then return (← branchStmt place n outer ctxt label index count inner b)
      match (← get).labels.find? (·.name == l.name) with
      | some alt =>
        modify (BranchPass.fault l.pos ("label " ++ l.name ++ " already defined at " ++
          place alt.pos))
      | none =>
        let made : BranchLabel :=
          { name := l.name, pos := l.pos, block := b.block.id, blockStart := b.block.start,
            stmt := inner }
        modify fun p => { p with labels := p.labels ++ [made] }
      let mut keep : List Ident := []
      for jmp in b.forward do
        if jmp.name == l.name then
          modify (BranchPass.use l.name)
          match b.varDecl with
          | some (vp, names) =>
            if b.before.any (·.pos == jmp.pos) then
              modify (BranchPass.fault jmp.pos ("goto " ++ l.name ++ " jumps over declaration of " ++
                names ++ " at " ++ place vp))
          | none => pure ()
        else keep := keep ++ [jmp]
      branchStmt place n outer ctxt (some l.pos) index count inner { b with forward := keep }
    | .branch p tok none =>
      match tok with
      | .kwBreak =>
        if ctxt.breaks.isNone then modify (BranchPass.fault p "break is not in a loop, switch, or select")
      | .kwContinue =>
        if !ctxt.continues then modify (BranchPass.fault p "continue is not in a loop")
      | .kwFallthrough =>
        let misplaced := "fallthrough statement out of place"
        let msg? := match ctxt.breaks, ctxt.caseIndex with
          | some (.switch true _), _ => some "cannot fallthrough in type switch"
          | some (.switch false _), none => some misplaced
          | some (.switch false cases), some i =>
            if index + 1 < count then some misplaced
            else if i + 1 == cases then some "cannot fallthrough final case in switch"
            else none
          | _, _ => some misplaced
        match msg? with
        | some msg => modify (BranchPass.fault p msg)
        | none => pure ()
      | _ => pure ()
      return b
    | .branch _ .kwBreak (some l) =>
      match ← enclosingTarget l.name (b.block :: outer) with
      | none => modify (BranchPass.fault l.pos ("break label not defined: " ++ l.name))
      | some t =>
        if !t.any breakable then modify (BranchPass.fault l.pos ("invalid break label " ++ l.name))
      return b
    | .branch _ .kwContinue (some l) =>
      match ← enclosingTarget l.name (b.block :: outer) with
      | none => modify (BranchPass.fault l.pos ("continue label not defined: " ++ l.name))
      | some t =>
        if !t.any continuable then
          modify (BranchPass.fault l.pos ("invalid continue label " ++ l.name))
      return b
    | .branch _ .kwGoto (some l) =>
      match (← get).labels.find? (·.name == l.name) with
      | some target =>
        modify (BranchPass.use l.name)
        if (b.block :: outer).any (·.id == target.block) then return b
        return { b with forward := b.forward ++ [l] }
      | none => return { b with forward := b.forward ++ [l] }
    | .block blk => nested { ctxt with caseIndex := none } blk.lbrace blk.list
    | .ifStmt _ _ _ body els =>
      let t := { ctxt with caseIndex := none }
      let b ← nested t body.lbrace body.list
      match els with
      | some e =>
        let fwd ← branchBlock place n (b.block :: outer) t label e.pos [e]
        return { b with forward := b.forward ++ fwd }
      | none => return b
    | .forStmt _ _ _ _ body | .range _ _ _ _ _ _ _ body =>
      nested { breaks := some .loop, continues := true } body.lbrace body.list
    | .switchStmt _ _ _ body | .typeSwitch _ _ _ body =>
      let onType := match s with
        | .typeSwitch _ _ _ _ => true
        | _ => false
      let mut b := b
      for (c, i) in body.list.zipIdx do
        match c with
        | .caseClause p _ _ stmts =>
          let t : BranchTargets :=
            { breaks := some (.switch onType body.list.length), continues := ctxt.continues,
              caseIndex := some i }
          let fwd ← branchBlock place n (b.block :: outer) t label p stmts
          b := { b with forward := b.forward ++ fwd }
        | _ => pure ()
      return b
    | .select _ body =>
      let mut b := b
      for c in body.list do
        match c with
        | .commClause p _ _ stmts =>
          let t : BranchTargets := { breaks := some .select, continues := ctxt.continues }
          let fwd ← branchBlock place n (b.block :: outer) t label p stmts
          b := { b with forward := b.forward ++ fwd }
        | _ => pure ()
      return b
    | _ => return b

/-- Looks at the statements of a block that starts at `start`, given the blocks around it,
what they allow, and the label of the statement it belongs to; gives the forward jumps left
unresolved. -/
def branchBlock (place : Nat → String) : Nat → List BranchBlock → BranchTargets →
    Option Nat → Nat → List Stmt → StateM BranchPass (List Ident)
  | 0, _, _, _, _, _ => pure []
  | n + 1, outer, ctxt, owner, start, list => do
    let id := (← get).blocks
    modify fun p => { p with blocks := id + 1 }
    let mut b : BranchScan := { block := { id, start, owner } }
    for (s, i) in list.zipIdx do b ← branchStmt place n outer ctxt none i list.length s b
    return b.forward

end

/-- The faults the compiler's branch pass finds in a function body: as it meets them, then
the jumps to labels it never reached (into a block, or to no label at all), then the labels
no branch names. `place` writes a position as the compiler does. -/
def branchFaults (place : Nat → String) (body : Block) : List BranchFault :=
  let act : StateM BranchPass Unit := do
    let fwd ← branchBlock place (body.end + 1) [] {} none body.lbrace body.list
    for jmp in fwd do
      match (← get).labels.find? (·.name == jmp.name) with
      | some l =>
        modify (BranchPass.use jmp.name)
        modify (BranchPass.fault jmp.pos ("goto " ++ jmp.name ++ " jumps into block starting at " ++
          place l.blockStart))
      | none => modify (BranchPass.fault jmp.pos ("label " ++ jmp.name ++ " not defined"))
    for l in (← get).labels do
      if !l.used then modify (BranchPass.fault l.pos ("label " ++ l.name ++ " defined and not used"))
  (act.run {}).2.faults

end StaticWrap.Typing
