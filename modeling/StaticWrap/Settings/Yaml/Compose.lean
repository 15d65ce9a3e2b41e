import StaticWrap.Settings.Yaml.Events
import StaticWrap.Settings.Yaml.Resolve
/-!
**The node tree of a YAML document.**

The events of the first document are built into a tree of nodes: scalars, sequences, mappings
(their pairs in order) and aliases. Each node gets a number, its line (from one) and its tag:
the short form of the tag written on it, else `!!str` for a quoted or block scalar, `!!merge`
for a plain `<<`, `!!seq` and `!!map` for collections, and for another plain scalar the tag its
text resolves to.

An anchor names the node it is written on from the moment the node starts, so an alias inside
a collection may name the collection itself; an anchor written again names the newer node. An
alias to a name no anchor gave is a fault: ``unknown anchor 'x' referenced``. The anchored
nodes are kept by number, for aliases to be followed later.

Only the first document of a stream is read; the events after its end are never asked for.
-/

namespace StaticWrap.Settings.Yaml

/-- A node of a document. -/
inductive Node where
  | scalar (id : Nat) (tag text : String) (style : ScalarStyle) (line : Nat)
  | sequence (id : Nat) (tag : String) (items : List Node) (line : Nat)
  | mapping (id : Nat) (tag : String) (pairs : List (Node × Node)) (line : Nat)
  | alias (id : Nat) (name : String) (target : Nat) (line : Nat)
  deriving Inhabited

namespace Node

def line : Node → Nat
  | .scalar _ _ _ _ l | .sequence _ _ _ l | .mapping _ _ _ l | .alias _ _ _ l => l

/-- The tag of a node; empty for an alias. -/
def tag : Node → String
  | .scalar _ t _ _ _ | .sequence _ t _ _ | .mapping _ t _ _ => t
  | .alias .. => ""

/-- The text of a node: a scalar's text, an alias's name, empty for a collection. -/
def text : Node → String
  | .scalar _ _ t _ _ => t
  | .alias _ n _ _ => n
  | _ => ""

/-- The kind of a node, as a number: scalar, sequence, mapping, alias. -/
def kindIndex : Node → Nat
  | .scalar .. => 0
  | .sequence .. => 1
  | .mapping .. => 2
  | .alias .. => 3

end Node

/-- The state of building the tree: the parser, the event looked at and not yet taken, the
anchors (the newest first), the next node number, and the anchored nodes built. -/
structure Composer where
  parser : Parser
  pending : Option Event := none
  anchors : List (String × Nat) := []
  nextId : Nat := 0
  anchored : List (Nat × Node) := []
  deriving Inhabited

namespace Composer

/-- The next event, without taking it. -/
def peek (c : Composer) : Except Problem (Event × Composer) :=
  match c.pending with
  | some e => .ok (e, c)
  | none => do
    let (e, p) ← c.parser.next
    pure (e, { c with parser := p, pending := some e })

/-- Takes the next event. -/
def take (c : Composer) : Except Problem (Event × Composer) := do
  let (e, c) ← c.peek
  pure (e, { c with pending := none })

/-- A fresh node number. -/
def fresh (c : Composer) : Nat × Composer := (c.nextId, { c with nextId := c.nextId + 1 })

/-- Names a node by an anchor, if one is written. -/
def name (c : Composer) (anchor : String) (id : Nat) : Composer :=
  if anchor.isEmpty then c else { c with anchors := (anchor, id) :: c.anchors }

/-- Keeps a built node that an anchor names. -/
def keep (c : Composer) (anchor : String) (n : Node) (id : Nat) : Composer :=
  if anchor.isEmpty then c else { c with anchored := (id, n) :: c.anchored }

/-- The tag a node gets from the tag written on it and the tag of its kind. -/
def nodeTag (written default : String) : String :=
  if written != "" && written != "!" then shortTag written else default

/-- Whether an event ends a collection. -/
def isEnd : EventKind → Bool
  | .sequenceEnd => true
  | .mappingEnd => true
  | _ => false

mutual

/-- Builds the node whose events come next; `fuel` bounds the depth and the number of
children. -/
def node : Nat → Composer → Except Problem (Node × Composer)
  | 0, c => .error { stage := .composing, message := "document is too deep", place := c.parser.scanner.cursor.mark }
  | fuel + 1, c => do
    let (e, c) ← c.peek
    let line := e.start.line + 1
    match e.kind with
    | .scalar anchor written text style =>
      let default :=
        if style == .plain then (if text == "<<" then "!!merge" else plainTag text) else "!!str"
      let (id, c) := c.fresh
      let c := c.name anchor id
      let n := Node.scalar id (nodeTag written default) text style line
      let (_, c) ← c.take
      pure (n, c.keep anchor n id)
    | .alias name =>
      match c.anchors.lookup name with
      | none => .error { stage := .composing, message := "unknown anchor '" ++ name ++ "' referenced" }
      | some target =>
        let (id, c) := c.fresh
        let (_, c) ← c.take
        pure (.alias id name target line, c)
    | .sequenceStart anchor written _ =>
      let (id, c) := c.fresh
      let c := c.name anchor id
      let (_, c) ← c.take
      let (children, c) ← items fuel c []
      let (_, c) ← c.take
      let n := Node.sequence id (nodeTag written "!!seq") children line
      pure (n, c.keep anchor n id)
    | .mappingStart anchor written _ =>
      let (id, c) := c.fresh
      let c := c.name anchor id
      let (_, c) ← c.take
      let (children, c) ← pairs fuel c []
      let (_, c) ← c.take
      let n := Node.mapping id (nodeTag written "!!map") children line
      pure (n, c.keep anchor n id)
    | other => .error { stage := .composing, message := "unexpected " ++ other.name ++ " event" }

/-- Builds the items of a sequence up to its end. -/
def items : Nat → Composer → List Node → Except Problem (List Node × Composer)
  | 0, c, acc => .ok (acc.reverse, c)
  | fuel + 1, c, acc => do
    let (e, c) ← c.peek
    if isEnd e.kind then return (acc.reverse, c)
    let (child, c) ← node fuel c
    items fuel c (child :: acc)

/-- Builds the pairs of a mapping up to its end. -/
def pairs : Nat → Composer → List (Node × Node) → Except Problem (List (Node × Node) × Composer)
  | 0, c, acc => .ok (acc.reverse, c)
  | fuel + 1, c, acc => do
    let (e, c) ← c.peek
    if isEnd e.kind then return (acc.reverse, c)
    let (k, c) ← node fuel c
    let (v, c) ← node fuel c
    pairs fuel c ((k, v) :: acc)

end

end Composer

/-- The root node of the first document of a text and the anchored nodes by number; none for
a stream without documents. -/
def compose (text : String) : Except Problem (Option (Node × List (Nat × Node))) := do
  let input := text.toList.toArray
  let c : Composer := { parser := { scanner := { cursor := { input } } } }
  let (_, c) ← c.take
  let (e, c) ← c.peek
  match e.kind with
  | .documentStart =>
    let (_, c) ← c.take
    let (root, c) ← Composer.node (4 * input.size + 16) c
    let (_, c) ← c.take
    pure (some (root, c.anchored))
  | _ => pure none

end StaticWrap.Settings.Yaml
