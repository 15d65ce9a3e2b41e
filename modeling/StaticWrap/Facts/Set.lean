import StaticWrap.Model.Target
/-!
**Fact sets and the collector.**

A fact set keeps facts in the order they were added, at most one per signature key: a fact
whose key is already there is refused, so the first one wins.

The collector gathers facts into units, one per target identity and base name: two markers
with the same target and alias share a unit, and a new alias makes a new unit.

* `FactSet.add` says whether the fact was new.
* `Collector.add` gives the number of new facts.
* `Collector.units`: the units in the order their targets first came, without those that
  got no facts.
-/

namespace StaticWrap.Facts

open StaticWrap.Model

/-- Facts in insertion order, one per signature key. -/
structure FactSet where
  facts : List Fact := []
  deriving Repr, Inhabited

/-- The set holds a fact with this fact's key. -/
def FactSet.contains (s : FactSet) (f : Fact) : Bool :=
  s.facts.any (·.key == f.key)

/-- Adds a fact unless one with its key is there; says whether it was added. -/
def FactSet.add (s : FactSet) (f : Fact) : Bool × FactSet :=
  if s.contains f then (false, s) else (true, { facts := s.facts ++ [f] })

/-- Adds facts in order; gives the number added. -/
def FactSet.addAll (s : FactSet) : List Fact → Nat × FactSet
  | [] => (0, s)
  | f :: fs =>
    let (added, s) := s.add f
    let (n, s) := s.addAll fs
    ((if added then 1 else 0) + n, s)

/-- The number of facts. -/
def FactSet.size (s : FactSet) : Nat := s.facts.length

/-- The key of a target's unit: its identity and base name. -/
def unitKey (t : Target) : String := t.identity ++ "#" ++ t.baseName

/-- A unit being gathered: the target that opened it and its facts. -/
structure Gathered where
  target : Target
  set : FactSet
  deriving Repr

/-- Facts gathered per unit, in the order the units were opened. -/
structure Collector where
  entries : List Gathered := []
  deriving Repr, Inhabited

/-- A unit for the target has been opened. -/
def Collector.has (c : Collector) (t : Target) : Bool :=
  c.entries.any fun e => unitKey e.target == unitKey t

/-- Adds facts to the target's unit, opening it when needed; gives the number of new facts. -/
def Collector.add (c : Collector) (t : Target) (facts : List Fact) : Nat × Collector :=
  let key := unitKey t
  match c.entries.findIdx? (fun e => unitKey e.target == key) with
  | some i =>
    let e := c.entries.getD i ⟨t, {}⟩
    let (n, set) := e.set.addAll facts
    (n, { entries := c.entries.set i { e with set := set } })
  | none =>
    let (n, set) := FactSet.addAll {} facts
    (n, { entries := c.entries ++ [⟨t, set⟩] })

/-- The units that got facts. -/
def Collector.units (c : Collector) : List WrapUnit :=
  (c.entries.filter fun e => e.set.size != 0).map fun e => ⟨e.target, e.set.facts⟩

/-- The number of facts over all units. -/
def Collector.factCount (c : Collector) : Nat :=
  (c.entries.map (·.set.size)).foldr (· + ·) 0

end StaticWrap.Facts
