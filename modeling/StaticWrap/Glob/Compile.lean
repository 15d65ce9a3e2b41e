import StaticWrap.Glob.Basic
import StaticWrap.Text.Utf8
/-!
**Glob patterns: the matcher a pattern compiles to.**

A read pattern is a tree of nodes (`Node`): sequences, choices and single pieces. Compiling it
gives a `Matcher`, built bottom-up with these rewrites, which decide how names are matched:

1. a choice whose alternatives all begin (or all end) with the same nodes is rewritten as the
   common beginning, a choice of what is left of each alternative (an alternative left empty
   becomes `nothing`; alternatives equal after the cut are kept once), and the common ending;
2. in a sequence, the longest run of neighbours that can be glued is glued, again and again:
   stars and single characters sharing their excluded characters glue into a count of
   characters (`atLeast`, `atMost`, `every`), pieces that each take a fixed number of
   characters glue into a `row`;
3. what stays a sequence splits at its piece of greatest fixed length (the last such one),
   or at its first piece when none has a fixed length, into a `split` of a middle part with the
   sequence to its left and to its right;
4. a split around text with a star or nothing on its sides becomes a `leading`, `trailing`,
   `bothEnds` or `contains` test; a choice of one matcher is that matcher; a class of one
   character is that character as text.

The fixed length of a matcher (`Matcher.len`, `-1` when there is none) steers steps 2 and 3; a
choice's length is that of its first alternative that has one, when the others agree.
-/

namespace StaticWrap.Glob

/-- A node of a pattern's tree. -/
inductive Node where
  | seq (children : List Node)
  | choice (children : List Node)
  | text (chars : List Char)
  | any
  | super
  | single
  | oneOf (chars : List Char) (negated : Bool)
  | range (lo hi : Char) (negated : Bool)
  | nothing
  deriving Repr, BEq

/-- The children of a sequence or a choice; other nodes have none. -/
def Node.children : Node → List Node
  | .seq cs => cs
  | .choice cs => cs
  | _ => []

/-- The node is a sequence. -/
def Node.isSeq : Node → Bool
  | .seq _ => true
  | _ => false

mutual

def Piece.toNode : Piece → Node
  | .text t => .text t
  | .any => .any
  | .super => .super
  | .single => .single
  | .oneOf cs n => .oneOf cs n
  | .range lo hi n => .range lo hi n
  | .choice alts => .choice (alternativeNodes alts)

/-- The nodes of a run of pieces. -/
def pieceNodes : List Piece → List Node
  | [] => []
  | p :: ps => p.toNode :: pieceNodes ps

/-- The sequence nodes of a choice's alternatives. -/
def alternativeNodes : List (List Piece) → List Node
  | [] => []
  | a :: as => .seq (pieceNodes a) :: alternativeNodes as

end

/-- The tree of a pattern: the sequence of its pieces. -/
def Pattern.toNode (p : Pattern) : Node := .seq (pieceNodes p)

/-- A compiled matcher. -/
inductive Matcher where
  /-- Only the empty name. -/
  | nothing
  /-- Every name. -/
  | super
  | single
  | oneOf (chars : List Char) (negated : Bool)
  | range (lo hi : Char) (negated : Bool)
  | text (s : String)
  | leading (p : String)
  | trailing (s : String)
  | bothEnds (p s : String)
  | contains (needle : String) (negated : Bool)
  /-- At least `n` characters. -/
  | atLeast (n : Nat)
  /-- At most `n` characters. -/
  | atMost (n : Nat)
  /-- All of the matchers. -/
  | every (ms : List Matcher)
  /-- One of the matchers. -/
  | either (ms : List Matcher)
  /-- The matchers one after another, on a name of `length` characters in all. -/
  | row (length : Nat) (ms : List Matcher)
  /-- A middle part found by `value`, with what lies left and right of it. -/
  | split (value : Matcher) (left right : Option Matcher)
  deriving Repr, BEq

mutual

/-- The fixed length of what a matcher takes, in characters; `-1` when it has none. -/
def Matcher.len : Matcher → Int
  | .nothing => 0
  | .single => 1
  | .oneOf _ _ => 1
  | .range _ _ _ => 1
  | .text s => s.length
  | .every [] => 0
  | .every (_ :: _) => -1
  | .either ms => eitherLen (-1) ms
  | .row n _ => n
  | .split v l r =>
    let lv := v.len
    let ll := optLen l
    let lr := optLen r
    if lv == -1 || ll == -1 || lr == -1 then -1 else lv + ll + lr
  | _ => -1

/-- The length of a choice: taken from the first alternative with one, and `-1` as soon as a
later alternative has none or another. -/
def eitherLen (acc : Int) : List Matcher → Int
  | [] => acc
  | m :: ms =>
    let l := m.len
    if acc == -1 then eitherLen l ms
    else if l == -1 || l != acc then -1
    else eitherLen acc ms

/-- The length of an optional side of a split; an absent side takes nothing. -/
def optLen : Option Matcher → Int
  | none => 0
  | some m => m.len

end

/-- Simplifies a matcher at its top (step 4 of the module comment). -/
def Matcher.optimize : Matcher → Matcher
  | .either [m] => m
  | .oneOf [c] false => .text (String.singleton c)
  | .split v l r =>
    let l := match l with
      | some m => some (Matcher.optimize m)
      | none => none
    let r := match r with
      | some m => some (Matcher.optimize m)
      | none => none
    match v with
    | .text t =>
      match l, r with
      | none, none => .text t
      | some .super, some .super => .contains t false
      | some .super, none => .trailing t
      | none, some .super => .leading t
      | none, some (.trailing x) => .bothEnds t x
      | some (.leading p), none => .bothEnds p t
      | _, _ => .split v l r
    | _ => .split v l r
  | m => m

/-- How a piece takes part in gluing stars and single characters: whether it is a star, and
the characters it excludes. -/
def starOrSingle : Matcher → Option (Bool × List Char)
  | .super => some (true, [])
  | .single => some (false, [])
  | .oneOf cs true => some (false, cs)
  | _ => none

/-- Glues stars and single characters that exclude the same characters into a count. -/
def glueCount (ms : List Matcher) : Option Matcher :=
  if ms.length ≤ 1 then none
  else
    match ms.mapM starOrSingle with
    | none => none
    | some ks =>
      let sep := (ks.headD (false, [])).2
      if !ks.all (·.2 == sep) then none
      else
        let hasSuper := ks.any (·.1)
        let singles := (ks.filter (!·.1)).length
        if hasSuper && singles == 0 then some .super
        else if hasSuper && singles > 0 && sep.isEmpty then some (.atLeast singles)
        else
          let counts := if singles > 0 then
              .atLeast singles :: (if hasSuper then [] else [.atMost singles])
            else []
          let excluded := if sep.isEmpty then [] else [.contains (String.ofList sep) true]
          some (.every (counts ++ excluded))

/-- Glues pieces of fixed length into a row. -/
def glueRow (ms : List Matcher) : Option Matcher :=
  if ms.length ≤ 1 then none
  else if ms.any (·.len == -1) then none
  else some (.row (ms.foldl (fun n m => n + m.len.toNat) 0) ms)

/-- Glues a run of pieces, as a count or else as a row. -/
def glue (ms : List Matcher) : Option Matcher :=
  match glueCount ms with
  | some g => some g
  | none => glueRow ms

/-- The run of pieces to glue: scanning runs by start, and by end from the longest, a run is
taken when it is the first that glues, when it is longer than the one taken, or when both
have fixed lengths and its is greater. -/
def bestGlue (ms : List Matcher) : Option (Matcher × Nat × Nat) :=
  let n := ms.length
  (List.range n).foldl (fun best l =>
    (List.range (n - l)).foldl (fun best k =>
      let r := n - k
      match glue ((ms.drop l).take (r - l)) with
      | none => best
      | some g =>
        let swap := match best with
          | none => true
          | some (done, left, right) =>
            let cl := done.len
            let gl := g.len
            (cl > -1 && gl > -1 && gl > cl) || decide (right - left < r - l)
        if swap then some (g, l, r) else best) best) none

/-- Glues runs of a sequence's pieces until no run glues. -/
def minimizeMatchers : Nat → List Matcher → List Matcher
  | 0, ms => ms
  | fuel + 1, ms =>
    match bestGlue ms with
    | none => ms
    | some (g, l, r) =>
      let next := ms.take l ++ [g] ++ ms.drop r
      if next.length == ms.length then next else minimizeMatchers fuel next

/-- The index of the last piece of greatest fixed length. -/
def staticIndex (ms : List Matcher) : Option Nat :=
  (ms.zipIdx.foldl (fun (best : Option (Nat × Int)) (m, i) =>
    let l := m.len
    match best with
    | none => if l != -1 then some (i, l) else none
    | some (_, maxLen) => if l != -1 && l ≥ maxLen then some (i, l) else best) none).map (·.1)

/-- Builds the matcher of a sequence of pieces (steps 2 and 3 of the module comment). -/
def compileMatchers : Nat → List Matcher → Matcher
  | 0, _ => .nothing
  | _, [] => .nothing
  | _, [m] => m
  | fuel + 1, ms =>
    match glue ms with
    | some g => g
    | none =>
      match staticIndex ms with
      | none => .split (ms.headD .nothing) none (some (compileMatchers fuel ms.tail))
      | some idx =>
        let left := ms.take idx
        let right := ms.drop (idx + 1)
        .split (ms.getD idx .nothing)
          (if left.isEmpty then none else some (compileMatchers fuel left))
          (if right.isEmpty then none else some (compileMatchers fuel right))

/-- The common beginning and ending of the children of several sequences, found from the
sequence with the fewest children (the first such one): its children are compared with the
others' from both ends inward, the ending no longer once the two searches meet. -/
def commonScan (tree : List Node) (others : List (List Node)) (n : Nat) :
    Nat → Nat → Bool → Bool → Nat → List Node → List Node → List Node × List Node
  | 0, _, _, _, _, left, right => (left.reverse, right)
  | fuel + 1, i, bl, br, total, left, right =>
    if total < n && i < n && !(bl && br) then
      let j := n - 1 - i
      let tl := tree.getD i .nothing
      let tr := tree.getD j .nothing
      let (bl', br') := others.foldl (fun (acc : Bool × Bool) kids =>
        if acc.1 && acc.2 then acc
        else
          let restLeft := kids.getD i .nothing
          let restRight := kids.getD (j + kids.length - n) .nothing
          let bl := acc.1 || !(tl == restLeft)
          let br := acc.2 || (!bl && j ≤ i)
          let br := br || !(tr == restRight)
          (bl, br)) (bl, br)
      let (total, left) := if !bl' then (total + 1, tl :: left) else (total, left)
      let (total, right) := if !br' then (total + 1, tr :: right) else (total, right)
      commonScan tree others n fuel (i + 1) bl' br' total left right
    else (left.reverse, right)

/-- The position of the first node with the fewest children. -/
def leastChildren (nodes : List Node) : Nat :=
  (nodes.zipIdx.foldl (fun (best : Option (Nat × Nat)) (nd, i) =>
    match best with
    | none => some (i, nd.children.length)
    | some (_, m) => if nd.children.length < m then some (i, nd.children.length) else best)
    none).elim 0 (·.1)

/-- The common beginning and ending of the children of several sequences. -/
def commonChildren (nodes : List Node) : List Node × List Node :=
  if nodes.length ≤ 1 then ([], [])
  else
    let idx := leastChildren nodes
    let tree := (nodes.getD idx .nothing).children
    let others := ((nodes.zipIdx.filter (·.2 != idx)).map (·.1.children))
    commonScan tree others tree.length (tree.length + 1) 0 false false 0 [] []

/-- Takes a choice's common beginning and ending out of its alternatives (step 1 of the module
comment), when it has any. -/
def reduceChoice (children : List Node) : Option Node :=
  if !children.all Node.isSeq then none
  else
    let (cl, cr) := commonChildren children
    if cl.isEmpty && cr.isEmpty then none
    else
      let middle := children.foldl (fun (acc : List Node) child =>
        let kids := child.children
        let reuse := (kids.drop cl.length).take (kids.length - cl.length - cr.length)
        let node : Node := if reuse.isEmpty then .nothing else .seq reuse
        if acc.contains node then acc else acc ++ [node]) []
      let mid : List Node := match middle with
        | [] => []
        | [m] => [m]
        | ms => [.choice ms]
      some (.seq ((if cl.isEmpty then [] else [.seq cl]) ++ mid ++
        (if cr.isEmpty then [] else [.seq cr])))

/-- Compiles a node; `fuel` bounds the depth. -/
def compileNode : Nat → Node → Matcher
  | 0, _ => .nothing
  | fuel + 1, .choice children =>
    match reduceChoice children with
    | some n => compileNode fuel n
    | none => Matcher.optimize (.either (children.map fun c => (compileNode fuel c).optimize))
  | _, .seq [] => .nothing
  | fuel + 1, .seq children =>
    let ms := children.map fun c => (compileNode fuel c).optimize
    (compileMatchers (ms.length + 1) (minimizeMatchers (ms.length + 1) ms)).optimize
  | _, .any => .super
  | _, .super => .super
  | _, .single => .single
  | _, .nothing => .nothing
  | _, .oneOf cs neg => Matcher.optimize (.oneOf cs neg)
  | _, .range lo hi neg => .range lo hi neg
  | _, .text t => .text (String.ofList t)

/-- Reads and compiles a pattern. Each level of nested choices takes a character of the
pattern and at most four steps of compiling, which bounds the depth of compiling. -/
def compileText (pattern : String) : Except Fault Matcher :=
  (compile pattern).map fun p => compileNode (4 * pattern.length + 8) p.toNode

end StaticWrap.Glob
