import StaticWrap.Glob.Compile
/-!
**Glob patterns: matching a compiled matcher against a name.**

Names are matched as bytes. A matcher answers two questions about a byte string: whether it
matches the whole string (`Matcher.matches`), and where it first matches inside it
(`Matcher.indexWith`: the byte offset of the match and the lengths, in bytes, of the matches that
start there, in increasing order). A `split` matches by finding its middle part with `index`,
from the left, inside the bytes its sides leave room for (the sides' fixed lengths, counted in
characters, cut that many bytes), and then testing the left side on what comes before and the
right side on what comes after each candidate match, longest first; it never matches the empty
string, and it finds nothing with `index`. A `row` takes, for each of its parts, the bytes up to
and including the first byte of the part's last character; a part of length zero at the very end
of the string asks for one byte too many, which is an error (`Panic`).
-/

namespace StaticWrap.Glob

open StaticWrap.Text

/-- A run-time error met while matching: the text of the error. -/
structure Panic where
  message : String
  deriving Repr, BEq

/-- The error of a cut that ends past the end of the string. -/
def slicePanic (hi len : Nat) : Panic :=
  ⟨"runtime error: slice bounds out of range [:" ++ toString hi ++ "] with length " ++
    toString len⟩

/-- Where a matcher first matches: the byte offset and the lengths of the matches there. -/
abbrev Found := Option (Nat × List Nat)

/-- The byte offset and the width of the first character, with the class test applied to the
whole string: the string holds at most that character and the test holds of it. -/
def oneCharWith (test : Nat → Bool) (s : Bytes) : Bool :=
  let (r, w) := Bytes.decode s
  s.length ≤ w && test r

/-- The first character passing a test: its offset and the width of its encoding. -/
def firstWith (test : Nat → Bool) (s : Bytes) : Found :=
  match (Bytes.runes s).find? (fun (_, r, _) => test r) with
  | some (i, r, _) => some (i, [codeWidth r])
  | none => none

/-- The offsets of the characters of a string after `offset` bytes, shifted by `offset`, and
the end. -/
def offsetsFrom (offset : Nat) (s : Bytes) : List Nat :=
  (Bytes.runes s).map (fun (i, _, _) => offset + i) ++ [offset + s.length]

/-- Merges two increasing lists, keeping one of two equal values. -/
def mergeSorted : List Nat → List Nat → List Nat
  | [], ys => ys
  | xs, [] => xs
  | x :: xs, y :: ys =>
    if x == y then x :: mergeSorted xs ys
    else if x < y then x :: mergeSorted xs (y :: ys)
    else y :: mergeSorted (x :: xs) ys

/-- The ends of the matches of `suffix` inside `sub`, from the last one back, each found in
what is left before the previous one. -/
def suffixEnds (suffix : Bytes) : Nat → Bytes → List Nat
  | 0, _ => []
  | fuel + 1, sub =>
    match Bytes.lastIndexOf? sub suffix with
    | none => []
    | some i => (i + suffix.length) :: suffixEnds suffix fuel (sub.take i)

/-- The first match of a prefix and the ends of the matches of a suffix after it. -/
def bothEndsIndex (p x : Bytes) (s : Bytes) : Found :=
  match Bytes.indexOf? s p with
  | none => none
  | some pi =>
    if x.isEmpty then some (pi, [s.length - pi])
    else if s.length - pi == 0 then none
    else
      let sub := s.drop pi
      match (suffixEnds x (sub.length + 1) sub).reverse with
      | [] => none
      | segs => some (pi, segs)

/-- The character count test of `atLeast`: the ends of the characters from the `n`-th on. -/
def atLeastIndex (n : Nat) (s : Bytes) : Found :=
  if (s.length : Int) - n + 1 ≤ 0 then none
  else
    let ends := ((Bytes.runes s).zipIdx.filter (fun (_, k) => k + 1 ≥ n)).map
      fun ((i, r, _), _) => i + codeWidth r
    if ends.isEmpty then none else some (0, ends)

/-- The ends of the first `n` characters, after the empty match. -/
def atMostIndex (n : Nat) (s : Bytes) : Found :=
  some (0, 0 :: ((Bytes.runes s).take n).map fun (i, r, _) => i + codeWidth r)

/-- Where a `contains` test first matches. -/
def containsIndex (needle : Bytes) (negated : Bool) (s : Bytes) : Found :=
  let idx := Bytes.indexOf? s needle
  if !negated then
    match idx with
    | none => none
    | some i =>
      let offset := i + needle.length
      if s.length ≤ offset then some (0, [offset])
      else some (0, offsetsFrom offset (s.drop offset))
  else
    let s' := match idx with
      | some i => s.take i
      | none => s
    some (0, offsetsFrom 0 s')

/-- Counts characters up to the `length`-th: the offset of the last one counted, and the count.
-/
def stepTo (length : Int) : List (Nat × Nat × Nat) → Nat → Nat → Nat × Nat
  | [], next, i => (next, i)
  | (off, _, _) :: rest, _, i =>
    if ((i + 1 : Nat) : Int) == length then (off, i + 1) else stepTo length rest off (i + 1)

/-- The parts of a row in turn from byte `idx`, each on the bytes up to and including the first
byte of the last character it counts. -/
def rowParts (run : Matcher → Bytes → Except Panic Bool) (s : Bytes) :
    Nat → List Matcher → Except Panic Bool
  | _, [] => pure true
  | idx, m :: ms => do
    let length := m.len
    let (next, i) := stepTo length (Bytes.runes (s.drop idx)) 0 0
    if (i : Int) < length then return false
    let hi := idx + next + 1
    if hi > s.length then throw (slicePanic hi s.length)
    if !(← run m ((s.drop idx).take (next + 1))) then return false
    rowParts run s hi ms

/-- The first offset, at a character start, from which a row matches a prefix of the rest. -/
def rowIndex (run : Matcher → Bytes → Except Panic Bool) (n : Nat) (ms : List Matcher)
    (s : Bytes) : List (Nat × Nat × Nat) → Except Panic Found
  | [] => pure none
  | (i, _, _) :: rest => do
    if s.length - i < n then return none
    if ← rowParts run (s.drop i) 0 ms then return some (i, [n])
    rowIndex run n ms s rest

/-- Where all of several matchers match: each is searched after the start of the previous
match, and only lengths on which all agree are kept. -/
def everyIndex (find : Matcher → Bytes → Except Panic Found) (s : Bytes) :
    List Matcher → Bool → Nat → Nat → List Nat → Bytes → Except Panic Found
  | [], _, index, _, current, _ => pure (some (index, current))
  | m :: ms, first, index, offset, current, sub => do
    match ← find m sub with
    | none => pure none
    | some (idx, seg) =>
      let delta : Int := (index : Int) - ((idx + offset : Nat) : Int)
      let next := if first then seg
        else current.flatMap fun (ex : Nat) =>
          seg.filter fun (n : Nat) => (ex : Int) + delta == (n : Int)
      if !first && next.isEmpty then return none
      let index := idx + offset
      everyIndex find s ms false index (offset + idx) next (s.drop index)

/-- Where the first of several matchers matches, the lengths of those matching there merged. -/
def eitherIndex (find : Matcher → Bytes → Except Panic Found) (s : Bytes) :
    List Matcher → Found → Except Panic Found
  | [], acc => pure acc
  | m :: ms, acc => do
    match ← find m s with
    | none => eitherIndex find s ms acc
    | some (idx, seg) =>
      match acc with
      | none => eitherIndex find s ms (some (idx, seg))
      | some (index, segs) =>
        if idx < index then eitherIndex find s ms (some (idx, seg))
        else if idx > index then eitherIndex find s ms acc
        else eitherIndex find s ms (some (index, mergeSorted segs seg))

/-- The search of a split, from byte `offset` on, below `limit`. -/
def splitSearch (find : Matcher → Bytes → Except Panic Found)
    (run : Matcher → Bytes → Except Panic Bool) (value : Matcher) (left right : Option Matcher)
    (s : Bytes) (limit : Nat) : Nat → Nat → Except Panic Bool
  | 0, _ => pure false
  | fuel + 1, offset => do
    if offset < limit then
      match ← find value ((s.drop offset).take (limit - offset)) with
      | none => return false
      | some (index, segments) =>
        let l := s.take (offset + index)
        let leftOk ← match left with
          | some m => run m l
          | none => pure l.isEmpty
        if leftOk then
          for length in segments.reverse do
            let r := if s.length ≤ offset + index + length then []
              else s.drop (offset + index + length)
            let rightOk ← match right with
              | some m => run m r
              | none => pure r.isEmpty
            if rightOk then return true
        let step := (Bytes.decode (s.drop (offset + index))).2
        splitSearch find run value left right s limit fuel (offset + index + step)
    else return false

/-- A split's test of a whole string. -/
def splitMatch (find : Matcher → Bytes → Except Panic Found)
    (run : Matcher → Bytes → Except Panic Bool) (value : Matcher) (left right : Option Matcher)
    (s : Bytes) : Except Panic Bool :=
  let total := (Matcher.split value left right).len
  if total != -1 && total > s.length then pure false
  else
    let offset := (optLen left).toNat
    let rl := optLen right
    let limit : Int := if rl ≥ 0 then s.length - rl else s.length
    splitSearch find run value left right s limit.toNat (s.length + 1) offset

mutual

/-- Whether a matcher matches a whole byte string; `fuel` bounds the depth. -/
def Matcher.matchesWith : Nat → Matcher → Bytes → Except Panic Bool
  | 0, _, _ => pure false
  | fuel + 1, m, s =>
    match m with
    | .nothing => pure s.isEmpty
    | .super => pure true
    | .single => pure (oneCharWith (fun _ => true) s)
    | .oneOf cs neg => pure (oneCharWith (fun r => cs.any (·.toNat == r) == !neg) s)
    | .range lo hi neg => pure (oneCharWith (fun r => (lo.toNat ≤ r && r ≤ hi.toNat) == !neg) s)
    | .text t => pure (s == Bytes.ofText t)
    | .leading p => pure (s.startsWith (Bytes.ofText p))
    | .trailing x => pure (s.endsWith (Bytes.ofText x))
    | .bothEnds p x => pure (s.startsWith (Bytes.ofText p) && s.endsWith (Bytes.ofText x))
    | .contains n neg => pure ((Bytes.indexOf? s (Bytes.ofText n)).isSome != neg)
    | .atLeast n => pure (Bytes.runeCount s ≥ n)
    | .atMost n => pure (Bytes.runeCount s ≤ n)
    | .every ms => ms.allM fun m => Matcher.matchesWith fuel m s
    | .either ms => ms.anyM fun m => Matcher.matchesWith fuel m s
    | .row n ms =>
      if Bytes.runeCount s != n then pure false
      else rowParts (Matcher.matchesWith fuel) s 0 ms
    | .split v l r => splitMatch (Matcher.indexWith fuel) (Matcher.matchesWith fuel) v l r s

/-- Where a matcher first matches inside a byte string; `fuel` bounds the depth. -/
def Matcher.indexWith : Nat → Matcher → Bytes → Except Panic Found
  | 0, _, _ => pure none
  | fuel + 1, m, s =>
    match m with
    | .nothing => pure (some (0, [0]))
    | .super => pure (some (0, offsetsFrom 0 s))
    | .single => pure (firstWith (fun _ => true) s)
    | .oneOf cs neg => pure (firstWith (fun r => cs.any (·.toNat == r) != neg) s)
    | .range lo hi neg => pure (firstWith (fun r => (lo.toNat ≤ r && r ≤ hi.toNat) != neg) s)
    | .text t =>
      let b := Bytes.ofText t
      pure ((Bytes.indexOf? s b).map fun i => (i, [b.length]))
    | .leading p =>
      let b := Bytes.ofText p
      pure ((Bytes.indexOf? s b).map fun i =>
        let sub := s.drop (i + b.length)
        (i, b.length :: (Bytes.runes sub).map fun (j, r, _) => b.length + j + codeWidth r))
    | .trailing x =>
      let b := Bytes.ofText x
      pure ((Bytes.indexOf? s b).map fun i => (0, [i + b.length]))
    | .bothEnds p x => pure (bothEndsIndex (Bytes.ofText p) (Bytes.ofText x) s)
    | .contains n neg => pure (containsIndex (Bytes.ofText n) neg s)
    | .atLeast n => pure (atLeastIndex n s)
    | .atMost n => pure (atMostIndex n s)
    | .every ms => everyIndex (Matcher.indexWith fuel) s ms true 0 0 [] s
    | .either ms => eitherIndex (Matcher.indexWith fuel) s ms none
    | .row n ms => rowIndex (Matcher.matchesWith fuel) n ms s (Bytes.runes s)
    | .split _ _ _ => pure none

end

mutual

def Matcher.depth : Matcher → Nat
  | .every ms => listDepth ms + 1
  | .either ms => listDepth ms + 1
  | .row _ ms => listDepth ms + 1
  | .split v l r => max v.depth (max (optDepth l) (optDepth r)) + 1
  | _ => 1

/-- The greatest depth of a list of matchers. -/
def listDepth : List Matcher → Nat
  | [] => 0
  | m :: ms => max m.depth (listDepth ms)

def optDepth : Option Matcher → Nat
  | none => 0
  | some m => m.depth

end

/-- Whether a matcher matches a whole name. -/
def Matcher.matches (m : Matcher) (name : String) : Except Panic Bool :=
  m.matchesWith (m.depth + 1) (Bytes.ofText name)

end StaticWrap.Glob
