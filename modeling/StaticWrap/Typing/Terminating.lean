import StaticWrap.GoSource.Syntax
/-!
**Terminating statements.**

A function with results must end in a terminating statement, or it is missing a return.
A statement is terminating when control cannot flow past it:

* a `return` or `goto`, a call of the predeclared `panic`, a `fallthrough`;
* a block (or a case body) whose last statement that is not empty is terminating;
* an `if` with an `else` whose branches are both terminating;
* a `for` without a condition that no `break` leaves;
* a `switch` (also a type switch) with a `default` case, no `break` that leaves it, and every
  case body terminating (or ending in `fallthrough`);
* a `select` with no `break` that leaves it and every case body terminating;
* a labeled statement whose statement is terminating.

A `break` leaves a statement when it has no label and the statement is the innermost one a
`break` applies to, or when it names the statement's label.

Every function here runs on fuel: a statement nests no deeper than its text is long.
-/

namespace StaticWrap.Typing

open StaticWrap.GoSource

mutual

/-- The statement, or a list of them, holds a `break` that leaves the statement labeled
`label` (or, with `implicit`, the innermost breakable statement around it). -/
def hasBreak (label : String) (implicit : Bool) : Nat → Stmt → Bool
  | 0, _ => true
  | n + 1, s =>
    match s with
    | .labeled _ _ inner => hasBreak label implicit n inner
    | .branch _ .kwBreak none => implicit
    | .branch _ .kwBreak (some l) => l.name == label
    | .block b => hasBreakList label implicit n b.list
    | .ifStmt _ _ _ body els =>
      hasBreakList label implicit n body.list ||
        (match els with
          | some e => hasBreak label implicit n e
          | none => false)
    | .caseClause _ _ _ body | .commClause _ _ _ body => hasBreakList label implicit n body
    | .switchStmt _ _ _ b | .typeSwitch _ _ _ b | .select _ b | .forStmt _ _ _ _ b
    | .range _ _ _ _ _ _ _ b =>
      label != "" && hasBreakList label false n b.list
    | _ => false

/-- Some statement of the list holds such a `break`. -/
def hasBreakList (label : String) (implicit : Bool) : Nat → List Stmt → Bool
  | 0, _ => true
  | _ + 1, [] => false
  | n + 1, s :: rest => hasBreak label implicit n s || hasBreakList label implicit n rest

end

/-- The expression, inside any parentheses, calls the predeclared `panic`. -/
def isPanicCall (e : Expr) : Bool :=
  match e.unparen with
  | .call f _ _ _ _ =>
    match f.unparen with
    | .ident id => id.name == "panic"
    | _ => false
  | _ => false

/-- The last statement of a list that is not empty. -/
def lastNonEmpty (l : List Stmt) : Option Stmt :=
  (l.filter fun s => match s with
    | .empty _ _ => false
    | _ => true).getLast?

mutual

/-- The statement is terminating; `label` is the label it carries, if any. -/
def isTerminating (panicIsPredeclared : Bool) (label : String) : Nat → Stmt → Bool
  | 0, _ => false
  | n + 1, s =>
    match s with
    | .labeled l _ inner => isTerminating panicIsPredeclared l.name n inner
    | .expr x => panicIsPredeclared && isPanicCall x
    | .ret _ _ => true
    | .branch _ .kwGoto _ | .branch _ .kwFallthrough _ => true
    | .block b => isTerminatingList panicIsPredeclared n b.list
    | .ifStmt _ _ _ body (some els) =>
      isTerminatingList panicIsPredeclared n body.list && isTerminating panicIsPredeclared "" n els
    | .switchStmt _ _ _ b | .typeSwitch _ _ _ b =>
      isTerminatingSwitch panicIsPredeclared label n b.list
    | .select _ b =>
      b.list.all fun c => match c with
        | .commClause _ _ _ body =>
          isTerminatingList panicIsPredeclared n body && !hasBreakList label true n body
        | _ => true
    | .forStmt _ _ none _ b => !hasBreakList label true n b.list
    | _ => false

/-- The last statement of the list that is not empty is terminating. -/
def isTerminatingList (panicIsPredeclared : Bool) : Nat → List Stmt → Bool
  | 0, _ => false
  | n + 1, l =>
    match lastNonEmpty l with
    | some s => isTerminating panicIsPredeclared "" n s
    | none => false

/-- A switch body is terminating: it has a default case, and every case body is
terminating and holds no `break` that leaves the switch. -/
def isTerminatingSwitch (panicIsPredeclared : Bool) (label : String) : Nat → List Stmt → Bool
  | 0, _ => false
  | n + 1, clauses =>
    let hasDefault := clauses.any fun c => match c with
      | .caseClause _ [] _ _ => true
      | _ => false
    hasDefault && clauses.all fun c => match c with
      | .caseClause _ _ _ body =>
        isTerminatingList panicIsPredeclared n body && !hasBreakList label true n body
      | _ => true

end

end StaticWrap.Typing
