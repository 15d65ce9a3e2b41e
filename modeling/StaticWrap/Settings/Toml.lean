import StaticWrap.Settings.Toml.Scalar
/-!
**Settings files in TOML.**

A TOML document is read one expression at a time; each is checked against the keys defined
so far and then stored, before the next one is read, so a fault of a later line comes after
the faults of the lines before it.

The check keeps the tree of keys seen, each a table (opened by a header or by a dotted key),
an array of tables, or a value:

* a key may not be given a value twice (`toml: key x is already defined`);
* a dotted key may not pass through a value (`toml: expected x to be a table, not a value`) or
  through a table that a header defined (`toml: cannot redefine table x that has already
  been explicitly defined`);
* a header may not name a value (`toml: key x should be a table, not a value`) or a table that
  a header defined before (`toml: table x already exists`); the tables that dotted keys open
  under a header count as defined once the next header starts;
* an array-of-tables header may only name an array of tables, and starts a new element.

Values are stored in nested maps; a header or key that passes through an array of tables goes
into its last element. Faults of the reader are written `toml: …`.
-/

namespace StaticWrap.Settings.Toml

/-- What a key of the tree is. -/
inductive KeyKind where
  | table
  | arrayTable
  | value
  deriving DecidableEq, Repr

/-- The name of a kind in faults. -/
def KeyKind.name : KeyKind → String
  | .table => "table"
  | .arrayTable => "array table"
  | .value => "value"

/-- A key seen: its parent (by index), its name (none once dropped), its kind, whether a header
defined it, and whether a dotted key opened it. -/
structure SeenKey where
  parent : Nat
  name : Option String
  kind : KeyKind
  explicit : Bool
  dotted : Bool
  deriving Repr

/-- The keys seen: the root at index 0, and the table that key-value pairs go into. -/
structure Seen where
  keys : Array SeenKey := #[⟨0, some "", .table, false, false⟩]
  current : Nat := 0
  deriving Repr

/-- The child of a key with a name. A dropped key matches the empty name. -/
def Seen.find? (s : Seen) (parent : Nat) (name : String) : Option Nat :=
  (List.range s.keys.size).find? fun i =>
    i > parent && (s.keys[i]?.map fun k => k.parent == parent && k.name.getD "" == name).getD false

/-- Adds a key; its index. -/
def Seen.create (s : Seen) (parent : Nat) (name : String) (kind : KeyKind) (explicit dotted : Bool) :
    Seen × Nat :=
  ({ s with keys := s.keys.push ⟨parent, some name, kind, explicit, dotted⟩ }, s.keys.size)

/-- Changes the key at an index. -/
def Seen.modify (s : Seen) (i : Nat) (f : SeenKey → SeenKey) : Seen :=
  { s with keys := s.keys.modify i f }

/-- The keys below a key, at any depth. -/
def Seen.below (s : Seen) (i : Nat) : List Nat :=
  let rec go : Nat → List Nat → List Nat
    | 0, acc => acc
    | fuel + 1, acc =>
      let next := (List.range s.keys.size).filter fun j =>
        !acc.contains j && j > i && (s.keys[j]?.map fun k => k.parent == i || acc.contains k.parent).getD false
      if next.isEmpty then acc else go fuel (acc ++ next)
  go s.keys.size []

/-- Marks the tables that dotted keys opened below a key as defined. -/
def Seen.settle (s : Seen) (i : Nat) : Seen :=
  (s.below i).foldl (fun s j => s.modify j fun k =>
    if k.dotted then { k with explicit := true, dotted := false } else k) s

/-- Drops the keys below a key, for a new element of an array of tables. -/
def Seen.dropBelow (s : Seen) (i : Nat) : Seen :=
  (s.below i).foldl (fun s j => s.modify j fun k => { k with name := none }) s

/-- The kind of the key at an index. -/
def Seen.kindAt (s : Seen) (i : Nat) : KeyKind := (s.keys[i]?.map (·.kind)).getD .table

/-- Walks the leading parts of a header's key, opening tables. -/
def Seen.openPath (s : Seen) (parent : Nat) : List String → Except String (Seen × Nat)
  | [] => .ok (s, parent)
  | k :: ks =>
    match s.find? parent k with
    | none =>
      let (s, i) := s.create parent k .table false false
      s.openPath i ks
    | some i =>
      if s.kindAt i == .value then .error ("toml: expected " ++ k ++ " to be a table, not a value")
      else s.openPath i ks

/-- Checks a `[table]` header. -/
def Seen.checkTable (s : Seen) (key : List String) : Except String Seen := do
  let s := s.settle s.current
  let (s, parent) ← s.openPath 0 key.dropLast
  let k := key.getLast?.getD ""
  match s.find? parent k with
  | some i =>
    let kind := s.kindAt i
    if kind != .table then throw ("toml: key " ++ k ++ " should be a table, not a " ++ kind.name)
    if (s.keys[i]?.map (·.explicit)).getD false then throw ("toml: table " ++ k ++ " already exists")
    pure { s.modify i (fun e => { e with explicit := true }) with current := i }
  | none =>
    let (s, i) := s.create parent k .table true false
    pure { s with current := i }

/-- Checks a `[[array table]]` header. -/
def Seen.checkArrayTable (s : Seen) (key : List String) : Except String Seen := do
  let s := s.settle s.current
  let (s, parent) ← s.openPath 0 key.dropLast
  let k := key.getLast?.getD ""
  match s.find? parent k with
  | some i =>
    let kind := s.kindAt i
    if kind != .arrayTable then
      throw ("toml: key " ++ kind.name ++ " already exists as a " ++ k ++ ",  but should be an array table")
    pure { s.dropBelow i with current := i }
  | none =>
    let (s, i) := s.create parent k .arrayTable true false
    pure { s with current := i }

mutual

/-- Checks a key-value pair under a table. -/
def Seen.checkKeyValue (s : Seen) (parent : Nat) (key : List String) (v : Node) (fuel : Nat) :
    Except String Seen := do
  let rec walk (s : Seen) (parent : Nat) : List String → Except String (Seen × Nat)
    | [] => .ok (s, parent)
    | k :: ks =>
      match s.find? parent k with
      | none =>
        let (s, i) := s.create parent k .table false true
        walk s i ks
      | some i =>
        let e := s.keys[i]?
        if ks.isEmpty then .error ("toml: key " ++ k ++ " is already defined")
        else if s.kindAt i != .table then
          .error ("toml: expected " ++ k ++ " to be a table, not a " ++ (s.kindAt i).name)
        else if (e.map (·.explicit)).getD false then
          .error ("toml: cannot redefine table " ++ k ++ " that has already been explicitly defined")
        else walk s i ks
  let (s, i) ← walk s parent key
  let s := s.modify i fun e => { e with kind := .value }
  match fuel with
  | 0 => pure s
  | fuel + 1 =>
    match v with
    | .inlineTable entries => do
      let _ ← Seen.checkInline entries fuel
      pure s
    | .array items => do
      Seen.checkArray items fuel
      pure s
    | _ => pure s

/-- Checks the pairs of an inline table, which are self-contained. -/
def Seen.checkInline (entries : List (List String × Node)) (fuel : Nat) : Except String Seen :=
  entries.foldlM (fun s (k, v) => s.checkKeyValue 0 k v fuel) {}

/-- Checks the inline tables inside an array. -/
def Seen.checkArray (items : List Node) (fuel : Nat) : Except String Unit :=
  match fuel with
  | 0 => .ok ()
  | fuel + 1 =>
    items.forM fun v =>
      match v with
      | .inlineTable entries => (Seen.checkInline entries fuel).map fun _ => ()
      | .array inner => Seen.checkArray inner fuel
      | _ => .ok ()

end

/-- Puts an entry in a map, replacing one of the same key in place. -/
def putEntry (m : List (String × Value)) (k : String) (v : Value) : List (String × Value) :=
  if m.any (·.1 == k) then m.map fun e => if e.1 == k then (k, v) else e else m ++ [(k, v)]

/-- Transforms the value at a path below a map, the path's maps created on the way. -/
def updatePath : Nat → List (String × Value) → List String → (Option Value → Value) → List (String × Value)
  | 0, m, _, _ => m
  | _, m, [], _ => m
  | _, m, [k], f => putEntry m k (f ((m.find? (·.1 == k)).map (·.2)))
  | fuel + 1, m, k :: ks, f =>
    let child := (m.find? (·.1 == k)).map (·.2) |>.getD (.map [])
    let child := match child with
      | .map entries => Value.map (updatePath fuel entries ks f)
      | .list items =>
        match items.getLast? with
        | some (.map entries) => .list (items.dropLast ++ [.map (updatePath fuel entries ks f)])
        | _ => .list items
      | other => other
    putEntry m k child

/-- The value of a node as written. -/
def Node.toValue : Nat → Node → Except String Value
  | 0, _ => .ok .null
  | _, .string s => .ok (.text s)
  | _, .bool b => .ok (.bool b)
  | _, .integer t => Value.int <$> readInteger t
  | _, .float t => Value.float <$> readFloat t
  | _, .moment k t => readMoment k t
  | fuel + 1, .array items => Value.list <$> items.mapM (Node.toValue fuel)
  | fuel + 1, .inlineTable entries =>
    let step (m : List (String × Value)) (e : List String × Node) : Except String (List (String × Value)) := do
      let v ← Node.toValue fuel e.2
      pure (updatePath (e.1.length + 1) m e.1 fun _ => v)
    Value.map <$> entries.foldlM step []

/-- The state of a reading: the keys seen, the values stored, and the path of the table that
key-value pairs go into. -/
structure Document where
  seen : Seen := {}
  root : List (String × Value) := []
  path : List String := []

/-- Checks and stores an expression. -/
def Document.add (d : Document) : Expression → Except String Document
  | .keyValue key node => do
    let seen ← d.seen.checkKeyValue d.seen.current key node (key.length + 64)
    let v ← Node.toValue 64 node
    let full := d.path ++ key
    pure { d with seen, root := updatePath (full.length + 1) d.root full fun _ => v }
  | .table key => do
    let seen ← d.seen.checkTable key
    let root := updatePath (key.length + 1) d.root key fun old =>
      match old with
      | some v => v
      | none => .map []
    pure { seen, root, path := key }
  | .arrayTable key => do
    let seen ← d.seen.checkArrayTable key
    let root := updatePath (key.length + 1) d.root key fun old =>
      match old with
      | some (.list items) => .list (items ++ [.map []])
      | _ => .list [.map []]
    pure { seen, root, path := key }

/-- Reads the expressions of a document one at a time; `fuel` bounds their number. -/
def readFrom : Nat → Cursor → Document → Except String Document
  | 0, _, d => .ok d
  | fuel + 1, c, d =>
    match c.next? (c.rest.length + 1) with
    | .error e => .error ("toml: " ++ e)
    | .ok none => .ok d
    | .ok (some (e, c)) =>
      match d.add e with
      | .error msg => .error (if Text.hasPrefix msg "toml: " then msg else "toml: " ++ msg)
      | .ok d => readFrom fuel c d

/-- The settings a TOML document holds. -/
def read (text : String) : Except String (List (String × Value)) :=
  let cs := text.toList
  (·.root) <$> readFrom (cs.length + 1) ⟨cs, false⟩ {}

end StaticWrap.Settings.Toml
