import StaticWrap.Model.Target
import StaticWrap.Model.Problem
import StaticWrap.Failure.Basic
/-!
**Wrapper name conflicts.**

Each unit declares a wrapper struct and an interface in the package. A unit is dropped, with a
problem, when either name is declared by the package itself or already generated for an
earlier unit; the problem names the first conflicting name and who holds it.
-/

namespace StaticWrap.Generate

open StaticWrap.Model

/-- Who holds a name: the package itself (empty) or a target identity. -/
abbrev Owners := List (String × String)

/-- The problem of a unit whose name is taken. -/
def conflictProblem (u : WrapUnit) (name owner : String) : Failure :=
  let why :=
    if owner.isEmpty then "'" ++ name ++ "' is already declared in this package"
    else "'" ++ name ++ "' is already generated for " ++ owner
  .problem { type := .generation, file := u.target.file, line := u.target.line,
             message := "cannot generate wrapper for " ++ u.target.identity ++ ": " ++ why,
             suggestions := ["Pick a different wrapper name with -Name=<Name>"],
             context := [("type_name", u.target.annotatedType), ("wrapper", name)] } none

/-- The first of the names that is taken, with its holder. -/
def firstTaken (owners : Owners) : List String → Option (String × String)
  | [] => none
  | n :: ns =>
    match owners.find? (·.1 == n) with
    | some (_, o) => some (n, o)
    | none => firstTaken owners ns

/-- Keeps the units whose names are free, in order, and reports the others. -/
def keepFree (owners : Owners) : List WrapUnit → List WrapUnit × List Failure
  | [] => ([], [])
  | u :: us =>
    let wrapper := spliceWrapper u.target.baseName
    let iface := "I" ++ wrapper
    match firstTaken owners [wrapper, iface] with
    | some (n, o) =>
      let (kept, problems) := keepFree owners us
      (kept, conflictProblem u n o :: problems)
    | none =>
      let (kept, problems) :=
        keepFree ((wrapper, u.target.identity) :: (iface, u.target.identity) :: owners) us
      (u :: kept, problems)

/-- The units whose wrapper names are free, and a problem for each of the others. -/
def checkNames (units : List WrapUnit) (declared : List String) : List WrapUnit × List Failure :=
  keepFree (declared.map fun n => (n, "")) units

end StaticWrap.Generate
