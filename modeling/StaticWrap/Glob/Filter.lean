import StaticWrap.Glob.Match
/-!
**Selecting function names with include and exclude globs.**

A name passes when no exclude pattern matches it and, unless there are no include patterns,
some include pattern does.

* `NameFilter.compile`: reads all include patterns, then all exclude patterns; the first that
  cannot be read is refused with its fault.
* `NameFilter.decide`: the rule above, trying the exclude patterns and then the include
  patterns in order; a matcher's run-time error ends the decision.
* `NameFilter.accepts`: the same, a run-time error counting as a refusal.
-/

namespace StaticWrap.Glob

/-- Compiled include and exclude patterns. -/
structure NameFilter where
  included : List Matcher := []
  excluded : List Matcher := []

/-- A pattern that cannot be read, with its fault. -/
structure BadPattern where
  pattern : String
  fault : Fault

/-- The text of a pattern that cannot be read. -/
def BadPattern.message (b : BadPattern) : String :=
  "invalid pattern " ++ Text.quote b.pattern ++ ": " ++ b.fault.message

/-- Reads every pattern of a list, refusing the first that cannot be read. -/
def compileAll : List String → Except BadPattern (List Matcher)
  | [] => .ok []
  | p :: ps =>
    match compileText p with
    | .error f => .error ⟨p, f⟩
    | .ok g => (compileAll ps).map (g :: ·)

/-- Reads the include patterns, then the exclude patterns. -/
def NameFilter.compile (included excluded : List String) : Except BadPattern NameFilter := do
  let i ← compileAll included
  let e ← compileAll excluded
  return ⟨i, e⟩

/-- Whether the name passes the filter, or the run-time error met on the way. -/
def NameFilter.decide (f : NameFilter) (name : String) : Except Panic Bool := do
  if ← f.excluded.anyM (·.matches name) then return false
  if f.included.isEmpty then return true
  f.included.anyM (·.matches name)

/-- The name passes the filter; a run-time error counts as a refusal. -/
def NameFilter.accepts (f : NameFilter) (name : String) : Bool :=
  match f.decide name with
  | .ok b => b
  | .error _ => false

end StaticWrap.Glob
