import StaticWrap.Model.Target
/-!
**A cache of computed facts across generation passes.**

Entries are keyed by identity, scope (the package or module the entry was computed for) and
the generation of the pass that stored them. Beginning a pass advances the generation and
evicts every entry of a smaller generation, so a lookup only sees what the current pass stored.
The generation is a 64-bit counter, which wraps around to zero. Lookups count hits and misses;
a failed computation is not stored.
-/

namespace StaticWrap.Facts

/-- The key of a cache entry. -/
structure CacheKey where
  identity : String
  scope : String
  generation : UInt64
  deriving DecidableEq, Repr

/-- Counters of a cache. -/
structure CacheStats where
  size : Nat
  hits : Nat
  misses : Nat
  deriving DecidableEq, Repr

/-- A cache of values per generation. -/
structure Cache (V : Type) where
  generation : UInt64 := 0
  entries : List (CacheKey × V) := []
  hits : Nat := 0
  misses : Nat := 0
  deriving Repr

namespace Cache

variable {V : Type}

/-- The key of an identity and scope in the current generation. -/
def keyOf (c : Cache V) (identity scope : String) : CacheKey := ⟨identity, scope, c.generation⟩

/-- Starts a new pass: the new generation and the number of entries evicted. -/
def beginPass (c : Cache V) : (UInt64 × Nat) × Cache V :=
  let gen := c.generation + 1
  let kept := c.entries.filter fun e => !(e.1.generation < gen)
  ((gen, c.entries.length - kept.length), { c with generation := gen, entries := kept })

/-- The stored value, counting a hit or a miss. -/
def lookup (c : Cache V) (identity scope : String) : Option V × Cache V :=
  let k := c.keyOf identity scope
  match c.entries.find? (·.1 == k) with
  | some e => (some e.2, { c with hits := c.hits + 1 })
  | none => (none, { c with misses := c.misses + 1 })

/-- Stores a value, replacing the value of the same key. -/
def store (c : Cache V) (identity scope : String) (v : V) : Cache V :=
  let k := c.keyOf identity scope
  if c.entries.any (·.1 == k) then
    { c with entries := c.entries.map fun e => if e.1 == k then (k, v) else e }
  else { c with entries := c.entries ++ [(k, v)] }

/-- The stored value, or the computed one, stored when the computation succeeds. -/
def getOrCompute {m : Type → Type} {ε : Type} [Monad m] (c : Cache V) (identity scope : String)
    (compute : m (Except ε V)) : m (Except ε V × Cache V) := do
  match c.lookup identity scope with
  | (some v, c) => pure (.ok v, c)
  | (none, c) =>
    match ← compute with
    | .ok v => pure (.ok v, c.store identity scope v)
    | .error e => pure (.error e, c)

/-- The counters. -/
def stats (c : Cache V) : CacheStats := ⟨c.entries.length, c.hits, c.misses⟩

end Cache

/-- The key of a target's facts: its identity, includes and excludes. -/
def targetKey (t : Model.Target) : String := t.key

end StaticWrap.Facts
