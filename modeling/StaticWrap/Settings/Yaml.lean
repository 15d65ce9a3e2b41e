import StaticWrap.Settings.Value
import StaticWrap.Settings.Yaml.Compose
import StaticWrap.Text.Quote
import StaticWrap.Text.Utf8
/-!
**Settings files in YAML.**

A settings file in YAML is read in stages: its characters are checked (a control character is
a fault: `yaml: control characters are not allowed`), the first document is built into a node
tree (`compose`), and the tree is decoded into a map of settings.

Decoding follows the node kinds:

* the root must be a mapping, or a scalar that stands for nothing (an empty document); any other
  root is a fault of its line: ``cannot unmarshal !!str `text` into map[string]interface {}``
  (a text longer than ten bytes shown by its first seven and `...`);
* a mapping's keys must differ, compared by kind and text: ``mapping key "x" already defined at
  line N``; a mapping with repeated keys is not decoded at all;
* a key of the root is decoded as text: a key that stands for nothing is left out, a sequence or
  mapping as a key is a fault (`cannot unmarshal !!seq into string`);
* a value is decoded as what its scalar resolves to, a list, or a map; a timestamp is a moment
  of time (a key stays text);
* the key `<<` merges the mapping (or the mappings of a sequence, the first winning) that is its
  value into the mapping that holds it, without replacing the keys written there; a value of
  another kind is a fault: `map merge requires map or sequence of maps as the value`;
* an alias decodes as the node its anchor names; an alias met again inside its own node is a
  fault: ``anchor 'x' value contains itself``.

The faults of decoding that name a line are gathered, and reported together as `yaml: unmarshal
errors:` with one indented line each; the others end the reading at once.
-/

namespace StaticWrap.Settings.Yaml

/-- The anchored nodes of a document, by number. -/
abbrev Anchored := List (Nat × Node)

/-- A decoding step: it may end the reading with a fault, and it gathers the faults of lines. -/
abbrev Decode := StateT (Array String) (Except String)

/-- Records a fault of a line. -/
def note (msg : String) : Decode Unit := modify fun errs => errs.push msg

/-- The fault of a node that cannot be decoded into a Go type: its line, its tag (that of the
node if it has one) and, for a scalar, its text. -/
def typeFault (n : Node) (tag into : String) : String :=
  let tag := if n.tag != "" then n.tag else tag
  let value :=
    if tag != "!!seq" && tag != "!!map" then
      let bytes := Text.Bytes.ofText n.text
      if bytes.length > 10 then " `" ++ Text.Bytes.toText (bytes.take 7) ++ "...`" else " `" ++ n.text ++ "`"
    else ""
  "line " ++ toString n.line ++ ": cannot unmarshal " ++ shortTag tag ++ value ++ " into " ++ into

/-- The Go type of a map with text keys. -/
def textMapType : String := "map[string]interface \x7b\x7d"

/-- What a scalar node stands for: a quoted or block scalar, or one tagged `!!str`, is text;
another is resolved under its tag. -/
def scalarValue (n : Node) : Except String (String × Resolved) :=
  match n with
  | .scalar _ tag text style _ =>
    if shortTag tag == "!!str" || ((tag == "" || tag == "!") && style != .plain) then .ok ("!!str", .text text)
    else resolve tag text
  | _ => .ok ("!!null", .null)

/-- The value a resolved scalar decodes to; a timestamp is a moment of time. -/
def Resolved.toValue : Resolved → Value
  | .null => .null
  | .bool b => .bool b
  | .int n => .int n
  | .uint n => .uint n
  | .float x => .float x
  | .text s => .text s
  | .timestamp _ => .moment "time.Time"

/-- The short tag of a node that is not an alias, as decoding sees it. -/
def ownShortTag (n : Node) : String :=
  match n with
  | .scalar _ tag _ style _ =>
    if shortTag tag == "!!str" || ((tag == "" || tag == "!") && style != .plain) then "!!str" else shortTag tag
  | other => shortTag other.tag

/-- The short tag of a node as decoding sees it: an alias has that of its node. -/
def nodeShortTag (doc : Anchored) (n : Node) : String :=
  match n with
  | .alias _ _ target _ => ((doc.lookup target).map ownShortTag).getD ""
  | other => ownShortTag other

/-- Whether every key of a mapping is text (or a merge key), so that it decodes to a map with
text keys. -/
def isTextMap (doc : Anchored) (pairs : List (Node × Node)) : Bool :=
  pairs.all fun (k, _) => let t := nodeShortTag doc k; t == "!!str" || t == "!!merge"

/-- Whether a key is the merge key `<<`. -/
def isMergeKey (n : Node) : Bool :=
  match n with
  | .scalar _ tag text _ _ => text == "<<" && (tag == "" || tag == "!" || shortTag tag == "!!merge")
  | _ => false

/-- The faults of repeated keys in a mapping: each later key with the kind and text of an
earlier one. -/
def repeatedKeys (pairs : List (Node × Node)) : List String :=
  let keys := pairs.map (·.1)
  (List.range keys.length).flatMap fun i =>
    ((List.range keys.length).filter (· > i)).filterMap fun j =>
      match keys[i]?, keys[j]? with
      | some a, some b =>
        if a.kindIndex == b.kindIndex && a.text == b.text then
          some ("line " ++ toString b.line ++ ": mapping key " ++ Text.quote b.text ++
            " already defined at line " ++ toString a.line)
        else none
      | _, _ => none

/-- How a key stands in the set of keys a merge may not replace. -/
def keyIdentity : Value → String
  | .null => "n:"
  | .bool b => "b:" ++ toString b
  | .int n => "i:" ++ toString n
  | .uint n => "u:" ++ toString n
  | .float x => "f:" ++ x.positional
  | .text s => "s:" ++ s
  | .moment n => "m:" ++ n
  | .list _ => "l:"
  | .map _ => "m:"

/-- The text a key of a map with keys of any kind gets when the map is read as settings. -/
def keyText : Value → String
  | .null => "<nil>"
  | .bool b => toString b
  | .int n => toString n
  | .uint n => toString n
  | .float x => x.positional
  | .text s => s
  | .moment n => n
  | .list _ => "[]"
  | .map _ => "map[]"

/-- A value written as Go writes values of its syntax. -/
def goSyntax : Nat → Value → String
  | 0, _ => "..."
  | _, .null => "interface \x7b\x7d(nil)"
  | _, .bool b => toString b
  | _, .int n => toString n
  | _, .uint n => "0x" ++ String.ofList (Nat.toDigits 16 n)
  | _, .float x => x.positional
  | _, .text s => Text.quote s
  | _, .moment n => n
  | fuel + 1, .list items =>
    "[]interface \x7b\x7d\x7b" ++ ", ".intercalate (items.map (goSyntax fuel)) ++ "\x7d"
  | fuel + 1, .map entries =>
    textMapType ++ "\x7b" ++ ", ".intercalate (entries.map fun (k, v) => Text.quote k ++ ":" ++ goSyntax fuel v) ++ "\x7d"

/-- Puts an entry in a map, replacing the value of the same key in place. -/
def putEntry (m : List (String × Value)) (k : String) (v : Value) : List (String × Value) :=
  if m.any (·.1 == k) then m.map fun e => if e.1 == k then (k, v) else e else m ++ [(k, v)]

/-- The fault of a merge key whose value is not a mapping. -/
def mergeFault : String := "map merge requires map or sequence of maps as the value"

mutual

/-- Decodes a node as a value of any kind; none when it cannot be decoded (a mapping with
repeated keys). `active` holds the aliases being followed. -/
def anyValue : Nat → Anchored → List Nat → Node → Decode (Option Value)
  | 0, _, _, _ => pure none
  | fuel + 1, doc, active, n =>
    match n with
    | .scalar .. => do
      let (_, r) ← scalarValue n
      pure (some r.toValue)
    | .sequence _ _ items _ => do
      let vs ← listValues fuel doc active items
      pure (some (.list vs))
    | .mapping _ _ pairs _ => do
      match ← mapInto fuel doc active pairs (isTextMap doc pairs) [] none with
      | some (entries, _) => pure (some (.map entries))
      | none => pure none
    | .alias id name target _ => do
      if active.contains id then throw ("anchor '" ++ name ++ "' value contains itself")
      match doc.lookup target with
      | some t => anyValue fuel doc (id :: active) t
      | none => pure none

/-- Decodes the items of a sequence, leaving out those that cannot be decoded. -/
def listValues : Nat → Anchored → List Nat → List Node → Decode (List Value)
  | 0, _, _, _ => pure []
  | _, _, _, [] => pure []
  | fuel + 1, doc, active, n :: rest => do
    let v ← anyValue fuel doc active n
    let vs ← listValues fuel doc active rest
    pure (match v with
      | some v => v :: vs
      | none => vs)

/-- Decodes a node as text, for a key of a map with text keys; none when it stands for
nothing or cannot be text. -/
def textValue : Nat → Anchored → List Nat → Node → Decode (Option String)
  | 0, _, _, _ => pure none
  | fuel + 1, doc, active, n =>
    match n with
    | .scalar .. => do
      let (_, r) ← scalarValue n
      match r with
      | .null => pure none
      | .text s => pure (some s)
      | _ => pure (some n.text)
    | .sequence .. => do
      note (typeFault n "!!seq" "string")
      pure none
    | .mapping _ _ pairs _ => do
      let repeated := repeatedKeys pairs
      if !repeated.isEmpty then
        repeated.forM note
      else note (typeFault n "!!map" "string")
      pure none
    | .alias id name target _ => do
      if active.contains id then throw ("anchor '" ++ name ++ "' value contains itself")
      match doc.lookup target with
      | some t => textValue fuel doc (id :: active) t
      | none => pure none

/-- Decodes the pairs of a mapping into a map, with text keys or keys of any kind, on top of
the entries `out`. `merged`, while merging, holds the keys a merge may not replace, and grows
with the keys merged. None when the mapping repeats a key. -/
def mapInto : Nat → Anchored → List Nat → List (Node × Node) → Bool → List (String × Value) →
    Option (List String) → Decode (Option (List (String × Value) × Option (List String)))
  | 0, _, _, _, _, out, merged => pure (some (out, merged))
  | fuel + 1, doc, active, pairs, textKeys, out, merged => do
    let repeated := repeatedKeys pairs
    if !repeated.isEmpty then
      repeated.forM note
      return none
    let (out, merged, mergeNode) ← pairEntries fuel doc active pairs textKeys out merged none
    match mergeNode with
    | none => pure (some (out, merged))
    | some m =>
      let (out, merged) ← mergeInto fuel doc active pairs m textKeys out merged
      pure (some (out, merged))

/-- Decodes the pairs of a mapping one by one; also the value of its last merge key. -/
def pairEntries : Nat → Anchored → List Nat → List (Node × Node) → Bool → List (String × Value) →
    Option (List String) → Option Node →
    Decode (List (String × Value) × Option (List String) × Option Node)
  | 0, _, _, _, _, out, merged, mergeNode => pure (out, merged, mergeNode)
  | _, _, _, [], _, out, merged, mergeNode => pure (out, merged, mergeNode)
  | fuel + 1, doc, active, (k, v) :: rest, textKeys, out, merged, mergeNode => do
    if isMergeKey k then
      return (← pairEntries fuel doc active rest textKeys out merged (some v))
    let key ←
      if textKeys then do
        let t ← textValue fuel doc active k
        pure (t.map fun t => (t, "s:" ++ t, false))
      else do
        let kv ← anyValue fuel doc active k
        pure (kv.map fun kv =>
          match kv with
          | .list _ | .map _ => (goSyntax 8 kv, keyIdentity kv, true)
          | _ => (keyText kv, keyIdentity kv, false))
    match key with
    | none => pairEntries fuel doc active rest textKeys out merged mergeNode
    | some (text, identity, isCollection) =>
      let skip := match merged with
        | some set => set.contains identity
        | none => false
      if skip then pairEntries fuel doc active rest textKeys out merged mergeNode
      else
        let merged := merged.map (identity :: ·)
        if isCollection then throw ("invalid map key: " ++ text)
        let value ← anyValue fuel doc active v
        let out := match value with
          | some value => putEntry out text value
          | none => out
        pairEntries fuel doc active rest textKeys out merged mergeNode

/-- Merges the mapping or mappings that a merge key's value names into a map. -/
def mergeInto : Nat → Anchored → List Nat → List (Node × Node) → Node → Bool → List (String × Value) →
    Option (List String) → Decode (List (String × Value) × Option (List String))
  | 0, _, _, _, _, _, out, merged => pure (out, merged)
  | fuel + 1, doc, active, parentPairs, m, textKeys, out, merged => do
    let set ← match merged with
      | some set => pure set
      | none => do
        let keys ← listValues fuel doc active (parentPairs.map (·.1))
        pure (keys.map keyIdentity)
    let (out, set) ← mergeOne fuel doc active m textKeys out set true
    pure (out, merged.map fun _ => set)

/-- Merges one node into a map: a mapping, an alias of a mapping, or (at the top) a sequence
of those. -/
def mergeOne : Nat → Anchored → List Nat → Node → Bool → List (String × Value) → List String → Bool →
    Decode (List (String × Value) × List String)
  | 0, _, _, _, _, out, set, _ => pure (out, set)
  | fuel + 1, doc, active, m, textKeys, out, set, top =>
    match m with
    | .mapping _ _ pairs _ => do
      match ← mapInto fuel doc active pairs textKeys out (some set) with
      | some (out, some set) => pure (out, set)
      | some (out, none) => pure (out, set)
      | none => pure (out, set)
    | .alias id name target _ =>
      match doc.lookup target with
      | some t@(.mapping ..) => do
        if active.contains id then throw ("anchor '" ++ name ++ "' value contains itself")
        mergeOne fuel doc (id :: active) t textKeys out set false
      | _ => throw mergeFault
    | .sequence _ _ items _ =>
      if top then mergeItems fuel doc active items textKeys out set else throw mergeFault
    | _ => throw mergeFault

/-- Merges the mappings of a sequence in order. -/
def mergeItems : Nat → Anchored → List Nat → List Node → Bool → List (String × Value) → List String →
    Decode (List (String × Value) × List String)
  | 0, _, _, _, _, out, set => pure (out, set)
  | _, _, _, [], _, out, set => pure (out, set)
  | fuel + 1, doc, active, n :: rest, textKeys, out, set => do
    match n with
    | .mapping .. | .alias .. =>
      let (out, set) ← mergeOne fuel doc active n textKeys out set false
      mergeItems fuel doc active rest textKeys out set
    | _ => throw mergeFault

end

/-- Decodes the root of a document into the map of settings. -/
def rootEntries : Nat → Anchored → List Nat → Node → Decode (List (String × Value))
  | 0, _, _, _ => pure []
  | fuel + 1, doc, active, n =>
    match n with
    | .alias id name target _ => do
      if active.contains id then throw ("anchor '" ++ name ++ "' value contains itself")
      match doc.lookup target with
      | some t => rootEntries fuel doc (id :: active) t
      | none => pure []
    | .scalar .. => do
      let (tag, r) ← scalarValue n
      match r with
      | .null => pure []
      | _ =>
        note (typeFault n tag textMapType)
        pure []
    | .sequence .. => do
      note (typeFault n "!!seq" textMapType)
      pure []
    | .mapping _ _ pairs _ => do
      match ← mapInto fuel doc active pairs true [] none with
      | some (entries, _) => pure entries
      | none => pure []

/-- A character a document may hold: tab, line feed, carriage return, the printable ASCII
characters, next line, and the characters from `U+00A0` on except the surrogates, `U+FFFE`
and `U+FFFF`. -/
def allowedChar (c : Char) : Bool :=
  let n := c.toNat
  n == 0x09 || n == 0x0A || n == 0x0D || (0x20 ≤ n && n ≤ 0x7E) || n == 0x85 ||
    (0xA0 ≤ n && n ≤ 0xD7FF) || (0xE000 ≤ n && n ≤ 0xFFFD) || 0x10000 ≤ n

/-- The settings a YAML document holds. -/
def read (text : String) : Except String (List (String × Value)) := do
  let text := Text.trimPrefix text "\uFEFF"
  if !text.toList.all allowedChar then throw "yaml: control characters are not allowed"
  match compose text with
  | .error p => throw p.text
  | .ok none => pure []
  | .ok (some (root, doc)) =>
    let fuel := 4 * text.length + 16
    match (rootEntries fuel doc [] root).run #[] with
    | .error msg => throw ("yaml: " ++ msg)
    | .ok (entries, errs) =>
      if errs.isEmpty then pure entries
      else throw ("yaml: unmarshal errors:\n  " ++ "\n  ".intercalate errs.toList)

end StaticWrap.Settings.Yaml
