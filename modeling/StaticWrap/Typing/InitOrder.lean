/-!
**The order of package initialization, and its cycles.**

The constants and variables of a package are initialized in an order their dependencies
decide: a constant or variable depends on the constants, variables, functions and methods
its initial value names, and a function or method on those its body names. Functions are
steps on the way, not things initialized: a variable depends on each constant or variable
it reaches through functions only (`reach`).

`initCycles` takes the objects in the order the package declares them and repeatedly
initializes the one that waits least: constants first, then the fewest dependencies left,
then the one declared first. One taken while it still waits on others lies on a cycle, or
depends on one; `findPath` follows the dependencies back to it, and the path it finds (if
any) is a cycle to report, written from the object taken.
-/

namespace StaticWrap.Typing

/-- A package-level object that takes part in initialization: a constant, a variable, a
function or a method (keyed `T.M`), with where its name is declared. -/
structure InitObject where
  key : String
  name : String
  isConst : Bool := false
  isFunc : Bool := false
  fileIndex : Nat
  pos : Nat
  deriving Inhabited

/-- The distinct objects `key` depends on, in the order first recorded; only objects of the
graph count. -/
def dependsOn (objs : List InitObject) (deps : List (String × String)) (key : String) :
    List String :=
  (deps.filterMap fun (o, d) =>
    if o == key && objs.any (·.key == d) then some d else none).eraseDups

/-- The constants and variables reached from `key` along dependencies whose intermediate
objects are all functions: each step into a constant or variable stops there. `seen` holds
the functions already passed. -/
def reach (objs : List InitObject) (deps : List (String × String)) :
    Nat → List String → List String → List String
  | 0, _, _ => []
  | _ + 1, _, [] => []
  | n + 1, seen, key :: rest =>
    let next := dependsOn objs deps key
    let values := next.filter fun d => objs.any fun o => o.key == d && !o.isFunc
    let funcs := next.filter fun d => !seen.contains d && objs.any fun o => o.key == d && o.isFunc
    (values ++ reach objs deps n (seen ++ funcs) (rest ++ funcs)).eraseDups

/-- A path of dependencies from `src` to `dst`, written backwards: `dst` first, then the
objects before it, back to the one `src` depends on; with the objects entered so far, which
are not entered again (a search that fails leaves them entered). -/
def findPath (objs : List InitObject) (deps : List (String × String)) :
    Nat → List String → String → String → Option (List String) × List String
  | 0, seen, _, _ => (none, seen)
  | n + 1, seen, src, dst =>
    if seen.contains src then (none, seen)
    else
      (dependsOn objs deps src).foldl (fun (acc : Option (List String) × List String) d =>
        match acc with
        | (some p, s) => (some p, s)
        | (none, s) =>
          if d == dst then (some [d], s)
          else match findPath objs deps n s d dst with
            | (some p, s') => (some (p ++ [d]), s')
            | (none, s') => (none, s')) (none, seen ++ [src])

/-- The key by which the next object to initialize is chosen: constants first, then the
fewest dependencies left, then the order of declaration. -/
def initRank (waiting : Nat) (o : InitObject) (order : Nat) : Nat × Nat × Nat :=
  (if o.isConst then 0 else 1, waiting, order)

/-- One object comes before another by `initRank`. -/
def rankBefore (a b : Nat × Nat × Nat) : Bool :=
  a.1 < b.1 || (a.1 == b.1 && (a.2.1 < b.2.1 || (a.2.1 == b.2.1 && a.2.2 < b.2.2)))

/-- The constants and variables of `objs` in the order they are initialized, each with
whether it still waited on another when taken. `succ` gives what each depends on (through
functions), `left` how many of those are still waiting. -/
def initSchedule (succ : String → List String) :
    Nat → List (InitObject × Nat) → List (String × Nat) → List (InitObject × Bool)
  | 0, _, _ => []
  | n + 1, pending, left =>
    let count (o : InitObject) : Nat := (left.lookup o.key).getD 0
    match pending.foldl (fun best (o, k) => match best with
        | none => some (o, k)
        | some (b, j) =>
          if rankBefore (initRank (count o) o k) (initRank (count b) b j) then some (o, k)
          else some (b, j)) none with
    | none => []
    | some (o, k) =>
      let rest := pending.filter (·.2 != k)
      -- each object that depends on the one taken waits on one fewer
      let left := left.map fun (key, c) =>
        if (succ key).contains o.key then (key, c - 1) else (key, c)
      (o, count o > 0) :: initSchedule succ n rest left

/-- The initialization cycles of a package, in the order they are found: each a list of
objects from the one taken while waiting, where each object depends on the next one in the
list read from its end (the last depends on the first). `objs` lists the constants,
variables, functions and methods in the order they are declared; `deps` what each one's
code names. -/
def initCycles (objs : List InitObject) (deps : List (String × String)) :
    List (List InitObject) :=
  let fuel := objs.length + 2
  let values := objs.filter (!·.isFunc)
  let table := values.map fun o => (o.key, reach objs deps fuel [] [o.key])
  let succ (key : String) : List String := (table.lookup key).getD []
  let left := table.map fun (k, ds) => (k, ds.length)
  (initSchedule succ fuel values.zipIdx left).filterMap fun (o, waited) =>
    if !waited then none
    else match (findPath objs deps fuel [] o.key o.key).1 with
      | some path => some (path.filterMap fun k => objs.find? (·.key == k))
      | none => none

end StaticWrap.Typing
