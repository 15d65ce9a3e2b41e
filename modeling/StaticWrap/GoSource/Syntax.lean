import StaticWrap.GoSource.Scanner
/-!
**The syntax tree of a Go source file.**

Every node keeps the positions of its tokens (byte offset plus one, 0 for none), because the
printer lays the source out again from them and messages cite them. The shapes follow the
grammar: expressions (which include types), statements, fields, specifications and
declarations form one family of mutually nested types.

* `Expr.pos`, `Expr.end`: the position of the first character and just after the last one;
  likewise for statements, fields, specifications and declarations.
-/

namespace StaticWrap.GoSource

/-- A name and its position. -/
structure Ident where
  pos : Nat
  name : String
  deriving DecidableEq, Repr, Inhabited

/-- One comment: its position and text, markers included. -/
structure Comment where
  pos : Nat
  text : String
  deriving DecidableEq, Repr, Inhabited

/-- Comments with no blank line or token between them. -/
structure CommentGroup where
  list : List Comment
  deriving DecidableEq, Repr, Inhabited

/-- The position of a comment group. -/
def CommentGroup.pos (g : CommentGroup) : Nat := (g.list.headD default).pos

def CommentGroup.end (g : CommentGroup) : Nat :=
  let c := g.list.getLastD default
  c.pos + c.text.utf8ByteSize

/-- The direction of a channel type. -/
inductive ChanDir where
  | both
  | send
  | recv
  deriving DecidableEq, Repr, Inhabited

mutual

/-- An expression or a type. -/
inductive Expr where
  | bad (start stop : Nat)
  | ident (id : Ident)
  | ellipsis (pos : Nat) (elt : Option Expr)
  | basic (pos : Nat) (kind : Tok) (value : String)
  | funcLit (sig : Signature) (body : Block)
  | composite (type : Option Expr) (lbrace : Nat) (elts : List Expr) (rbrace : Nat)
  | paren (lparen : Nat) (x : Expr) (rparen : Nat)
  | selector (x : Expr) (sel : Ident)
  | index (x : Expr) (lbrack : Nat) (index : Expr) (rbrack : Nat)
  | indexList (x : Expr) (lbrack : Nat) (indices : List Expr) (rbrack : Nat)
  | slice (x : Expr) (lbrack : Nat) (low high max : Option Expr) (slice3 : Bool) (rbrack : Nat)
  | typeAssert (x : Expr) (lparen : Nat) (type : Option Expr) (rparen : Nat)
  | call (fn : Expr) (lparen : Nat) (args : List Expr) (ellipsis : Nat) (rparen : Nat)
  | star (pos : Nat) (x : Expr)
  | unary (pos : Nat) (op : Tok) (x : Expr)
  | binary (x : Expr) (pos : Nat) (op : Tok) (y : Expr)
  | keyValue (key : Expr) (colon : Nat) (value : Expr)
  | array (lbrack : Nat) (len : Option Expr) (elt : Expr)
  | struct (pos : Nat) (fields : FieldList)
  | func (sig : Signature)
  | iface (pos : Nat) (methods : FieldList)
  | map (pos : Nat) (key value : Expr)
  | chan (start arrow : Nat) (dir : ChanDir) (value : Expr)

/-- A field of a struct, a method or embedded element of an interface, or a parameter. -/
inductive Field where
  | mk (doc : Option CommentGroup) (names : List Ident) (type : Expr) (tag : Option Expr)
      (comment : Option CommentGroup)

/-- A bracketed or parenthesised list of fields; the brackets may be absent (0). -/
inductive FieldList where
  | mk (opening : Nat) (list : List Field) (closing : Nat)

/-- The signature of a function: `func` position (0 for a method of an interface), type
parameters, parameters and results. -/
inductive Signature where
  | mk (funcPos : Nat) (typeParams : Option FieldList) (params : FieldList) (results : Option FieldList)

/-- A braced statement list. -/
inductive Block where
  | mk (lbrace : Nat) (list : List Stmt) (rbrace : Nat)

/-- A statement. -/
inductive Stmt where
  | bad (start stop : Nat)
  | decl (d : Decl)
  | empty (pos : Nat) (implicit : Bool)
  | labeled (label : Ident) (colon : Nat) (stmt : Stmt)
  | expr (x : Expr)
  | send (ch : Expr) (arrow : Nat) (value : Expr)
  | incDec (x : Expr) (pos : Nat) (tok : Tok)
  | assign (lhs : List Expr) (pos : Nat) (tok : Tok) (rhs : List Expr)
  | go (pos : Nat) (call : Expr)
  | defer (pos : Nat) (call : Expr)
  | ret (pos : Nat) (results : List Expr)
  | branch (pos : Nat) (tok : Tok) (label : Option Ident)
  | block (b : Block)
  | ifStmt (pos : Nat) (init : Option Stmt) (cond : Expr) (body : Block) (els : Option Stmt)
  | caseClause (pos : Nat) (list : List Expr) (colon : Nat) (body : List Stmt)
  | switchStmt (pos : Nat) (init : Option Stmt) (tag : Option Expr) (body : Block)
  | typeSwitch (pos : Nat) (init : Option Stmt) (assign : Stmt) (body : Block)
  | commClause (pos : Nat) (comm : Option Stmt) (colon : Nat) (body : List Stmt)
  | select (pos : Nat) (body : Block)
  | forStmt (pos : Nat) (init : Option Stmt) (cond : Option Expr) (post : Option Stmt) (body : Block)
  | range (pos : Nat) (key value : Option Expr) (tokPos : Nat) (tok : Tok) (rangePos : Nat)
      (x : Expr) (body : Block)

/-- A specification inside an `import`, `const`, `var` or `type` declaration. -/
inductive Spec where
  | importSpec (doc : Option CommentGroup) (name : Option Ident) (pathPos : Nat) (path : String)
      (comment : Option CommentGroup) (endPos : Nat)
  | value (doc : Option CommentGroup) (names : List Ident) (type : Option Expr)
      (values : List Expr) (comment : Option CommentGroup)
  | typeSpec (doc : Option CommentGroup) (name : Ident) (typeParams : Option FieldList)
      (assign : Nat) (type : Expr) (comment : Option CommentGroup)

/-- A declaration. -/
inductive Decl where
  | bad (start stop : Nat)
  | gen (doc : Option CommentGroup) (pos : Nat) (tok : Tok) (lparen : Nat) (specs : List Spec)
      (rparen : Nat)
  | func (doc : Option CommentGroup) (recv : Option FieldList) (name : Ident) (sig : Signature)
      (body : Option Block)

end

instance : Inhabited Expr := ⟨.bad 0 0⟩
instance : Inhabited Stmt := ⟨.bad 0 0⟩
instance : Inhabited Decl := ⟨.bad 0 0⟩
instance : Inhabited FieldList := ⟨.mk 0 [] 0⟩
instance : Inhabited Block := ⟨.mk 0 [] 0⟩
instance : Inhabited Field := ⟨.mk none [] (.bad 0 0) none none⟩
instance : Inhabited Signature := ⟨.mk 0 none (.mk 0 [] 0) none⟩
instance : Inhabited Spec := ⟨.importSpec none none 0 "" none 0⟩

/-- A parsed source file. -/
structure File where
  doc : Option CommentGroup
  packagePos : Nat
  name : Ident
  decls : List Decl
  imports : List Spec
  comments : List CommentGroup
  /-- The position just after the last byte. -/
  fileEnd : Nat
  deriving Inhabited

namespace FieldList

/-- The opening position. -/
def opening : FieldList → Nat | .mk o _ _ => o
def list : FieldList → List Field | .mk _ l _ => l
/-- The closing position. -/
def closing : FieldList → Nat | .mk _ _ c => c

end FieldList

namespace Field

def names : Field → List Ident | .mk _ n _ _ _ => n
def type : Field → Expr | .mk _ _ t _ _ => t
def tag : Field → Option Expr | .mk _ _ _ t _ => t
def doc : Field → Option CommentGroup | .mk d _ _ _ _ => d
/-- The line comment. -/
def comment : Field → Option CommentGroup | .mk _ _ _ _ c => c

end Field

namespace Signature

/-- The `func` position. -/
def funcPos : Signature → Nat | .mk f _ _ _ => f
def typeParams : Signature → Option FieldList | .mk _ t _ _ => t
def params : Signature → FieldList | .mk _ _ p _ => p
def results : Signature → Option FieldList | .mk _ _ _ r => r

end Signature

namespace Block

/-- The opening brace. -/
def lbrace : Block → Nat | .mk l _ _ => l
/-- The statements. -/
def list : Block → List Stmt | .mk _ l _ => l
/-- The closing brace. -/
def rbrace : Block → Nat | .mk _ _ r => r

end Block

/-- The number of fields a list declares: one per name, one for an unnamed field. -/
def FieldList.numFields (fl : FieldList) : Nat :=
  (fl.list.map fun f => if f.names.isEmpty then 1 else f.names.length).foldr (· + ·) 0

mutual

/-- The position of an expression's first character. -/
def Expr.pos : Expr → Nat
  | .bad s _ => s
  | .ident id => id.pos
  | .ellipsis p _ => p
  | .basic p _ _ => p
  | .funcLit sig _ => sig.pos
  | .composite (some t) _ _ _ => t.pos
  | .composite none l _ _ => l
  | .paren l _ _ => l
  | .selector x _ => x.pos
  | .index x _ _ _ => x.pos
  | .indexList x _ _ _ => x.pos
  | .slice x _ _ _ _ _ _ => x.pos
  | .typeAssert x _ _ _ => x.pos
  | .call f _ _ _ _ => f.pos
  | .star p _ => p
  | .unary p _ _ => p
  | .binary x _ _ _ => x.pos
  | .keyValue k _ _ => k.pos
  | .array l _ _ => l
  | .struct p _ => p
  | .func sig => sig.pos
  | .iface p _ => p
  | .map p _ _ => p
  | .chan s _ _ _ => s

/-- The position of a signature: its `func` keyword, or its parameters when there is none. -/
def Signature.pos : Signature → Nat
  | .mk f _ ps _ => if f != 0 then f else ps.pos

/-- The position of a field list: its opening bracket, or its first field. -/
def FieldList.pos : FieldList → Nat
  | .mk o l _ => if o != 0 then o else Field.firstPos l

/-- The position of the first field of a list. -/
def Field.firstPos : List Field → Nat
  | [] => 0
  | f :: _ => f.pos

/-- The position of a field: its first name, or its type. -/
def Field.pos : Field → Nat
  | .mk _ (n :: _) _ _ _ => n.pos
  | .mk _ [] t _ _ => t.pos

end

/-- The position just after the last of a list of names. -/
def Ident.listEnd : List Ident → Nat
  | [] => 0
  | [n] => n.pos + n.name.utf8ByteSize
  | _ :: rest => Ident.listEnd rest

mutual

/-- The position just after an expression. -/
def Expr.end : Expr → Nat
  | .bad _ e => e
  | .ident id => id.pos + id.name.utf8ByteSize
  | .ellipsis p none => p + 3
  | .ellipsis _ (some e) => e.end
  | .basic p _ v => p + v.utf8ByteSize
  | .funcLit _ b => b.end
  | .composite _ _ _ r => r + 1
  | .paren _ _ r => r + 1
  | .selector _ s => s.pos + s.name.utf8ByteSize
  | .index _ _ _ r => r + 1
  | .indexList _ _ _ r => r + 1
  | .slice _ _ _ _ _ _ r => r + 1
  | .typeAssert _ _ _ r => r + 1
  | .call _ _ _ _ r => r + 1
  | .star _ x => x.end
  | .unary _ _ x => x.end
  | .binary _ _ _ y => y.end
  | .keyValue _ _ v => v.end
  | .array _ _ e => e.end
  | .struct _ fl => fl.end
  | .func sig => sig.end
  | .iface _ fl => fl.end
  | .map _ _ v => v.end
  | .chan _ _ _ v => v.end

/-- The position just after the last of a list of expressions. -/
def Expr.listEnd : List Expr → Nat
  | [] => 0
  | [e] => e.end
  | _ :: rest => Expr.listEnd rest

/-- The position just after a signature. -/
def Signature.end : Signature → Nat
  | .mk _ _ ps rs =>
    match rs with
    | some r => r.end
    | none => ps.end

/-- The position just after a field list. -/
def FieldList.end : FieldList → Nat
  | .mk _ l c => if c != 0 then c + 1 else Field.lastEnd l

/-- The position just after a field. -/
def Field.end : Field → Nat
  | .mk _ _ _ (some tag) _ => tag.end
  | .mk _ _ t none _ => t.end

/-- The position just after the last field of a list. -/
def Field.lastEnd : List Field → Nat
  | [] => 0
  | [f] => f.end
  | _ :: rest => Field.lastEnd rest

/-- The position just after a block. -/
def Block.end : Block → Nat
  | .mk l list r => if r != 0 then r + 1 else
    match Stmt.lastEnd list with
    | 0 => l + 1
    | e => e

/-- The position just after a statement. -/
def Stmt.end : Stmt → Nat
  | .bad _ e => e
  | .decl d => d.end
  | .empty p implicit => if implicit then p else p + 1
  | .labeled _ _ s => s.end
  | .expr x => x.end
  | .send _ _ v => v.end
  | .incDec _ p _ => p + 2
  | .assign _ _ _ rhs => Expr.listEnd rhs
  | .go _ c => c.end
  | .defer _ c => c.end
  | .ret p [] => p + 6
  | .ret _ rs => Expr.listEnd rs
  | .branch _ _ (some l) => l.pos + l.name.utf8ByteSize
  | .branch p t none => p + t.text.utf8ByteSize
  | .block b => b.end
  | .ifStmt _ _ _ _ (some e) => e.end
  | .ifStmt _ _ _ b none => b.end
  | .caseClause _ _ c [] => c + 1
  | .caseClause _ _ _ body => Stmt.lastEnd body
  | .switchStmt _ _ _ b => b.end
  | .typeSwitch _ _ _ b => b.end
  | .commClause _ _ c [] => c + 1
  | .commClause _ _ _ body => Stmt.lastEnd body
  | .select _ b => b.end
  | .forStmt _ _ _ _ b => b.end
  | .range _ _ _ _ _ _ _ b => b.end

/-- The position just after the last statement of a list, 0 for none. -/
def Stmt.lastEnd : List Stmt → Nat
  | [] => 0
  | [s] => s.end
  | _ :: rest => Stmt.lastEnd rest

/-- The position just after a specification. -/
def Spec.end : Spec → Nat
  | .importSpec _ _ p path _ e => if e != 0 then e else p + path.utf8ByteSize
  | .value _ _ (some t) [] _ => t.end
  | .value _ names none [] _ => Ident.listEnd names
  | .value _ _ _ (v :: vs) _ => Expr.listEnd (v :: vs)
  | .typeSpec _ _ _ _ t _ => t.end

/-- The position just after the first specification of a list. -/
def Spec.firstEnd : List Spec → Nat
  | [] => 0
  | s :: _ => s.end

/-- The position just after a declaration. -/
def Decl.end : Decl → Nat
  | .bad _ e => e
  | .gen _ _ _ _ specs r => if r != 0 then r + 1 else Spec.firstEnd specs
  | .func _ _ _ _ (some b) => b.end
  | .func _ _ _ sig none => sig.end

end

/-- The position of a declaration. -/
def Decl.pos : Decl → Nat
  | .bad s _ => s
  | .gen _ p _ _ _ _ => p
  | .func _ _ _ sig _ => sig.pos

/-- The position of a specification. -/
def Spec.pos : Spec → Nat
  | .importSpec _ (some n) _ _ _ _ => n.pos
  | .importSpec _ none p _ _ _ => p
  | .value _ (n :: _) _ _ _ => n.pos
  | .value _ [] _ _ _ => 0
  | .typeSpec _ n _ _ _ _ => n.pos

/-- The position of a statement. -/
def Stmt.pos : Stmt → Nat
  | .bad s _ => s
  | .decl d => d.pos
  | .empty p _ => p
  | .labeled l _ _ => l.pos
  | .expr x => x.pos
  | .send c _ _ => c.pos
  | .incDec x _ _ => x.pos
  | .assign (x :: _) _ _ _ => x.pos
  | .assign [] _ _ _ => 0
  | .go p _ | .defer p _ | .ret p _ | .branch p _ _ => p
  | .block b => b.lbrace
  | .ifStmt p _ _ _ _ | .caseClause p _ _ _ | .switchStmt p _ _ _ | .typeSwitch p _ _ _ => p
  | .commClause p _ _ _ | .select p _ | .forStmt p _ _ _ _ | .range p _ _ _ _ _ _ _ => p

/-- The expression inside any number of parentheses. -/
def Expr.unparen : Expr → Expr
  | .paren _ x _ => x.unparen
  | x => x

end StaticWrap.GoSource
