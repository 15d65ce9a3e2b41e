import StaticWrap.Failure.Basic
/-!
**Looking inside failures.**

A failure can wrap one cause, or (a collection) several. Two walks look inside:

* `Failure.chain`: the causes one after the other, following the single cause only; a
  collection ends the chain.
* `Failure.search`: the first failure, depth first and the outer one before its causes, for
  which a test gives an answer; a collection is searched member by member.

The searches the reports use are built on it: the first problem, the first coded error and
whether some coded error is about a target.
-/

namespace StaticWrap

/-- The chain of causes below a failure. -/
def Failure.chain : Failure → List Failure
  | .wrapped _ c => c :: c.chain
  | .coded _ (some c) => c :: c.chain
  | .problem _ (some c) => c :: c.chain
  | .skip _ r => r :: r.chain
  | _ => []

mutual

/-- The first answer of a test, depth first. -/
def Failure.search {α : Type} (p : Failure → Option α) : Failure → Option α
  | e@(.wrapped _ c) => (p e).orElse fun _ => c.search p
  | e@(.coded _ (some c)) => (p e).orElse fun _ => c.search p
  | e@(.problem _ (some c)) => (p e).orElse fun _ => c.search p
  | e@(.skip _ r) => (p e).orElse fun _ => r.search p
  | e@(.several parts) => (p e).orElse fun _ => Failure.searchAll p parts
  | e => p e

/-- The first answer of a test over failures in order. -/
def Failure.searchAll {α : Type} (p : Failure → Option α) : List Failure → Option α
  | [] => none
  | e :: es => (e.search p).orElse fun _ => Failure.searchAll p es

end

/-- The first problem inside a failure, with its cause. -/
def Failure.firstProblem (e : Failure) : Option (Model.Problem × Option Failure) :=
  e.search fun
    | .problem p c => some (p, c)
    | _ => none

/-- The first coded error inside a failure, as the failure itself. -/
def Failure.firstCoded (e : Failure) : Option Failure :=
  e.search fun
    | f@(.coded _ _) => some f
    | _ => none

/-- Some coded error inside the failure is about a target. -/
def Failure.aboutTarget (e : Failure) : Bool :=
  (e.search fun
    | .coded { shape := .target _, .. } _ => some ()
    | _ => none).isSome

/-- The code, place, context and hints of a coded error. -/
def Failure.codedParts : Failure → Option Coded
  | .coded c _ => some c
  | _ => none

end StaticWrap
