import StaticWrap.Number.Binary64
/-!
**Floating-point literals.**

A floating-point literal is read as the Go language writes one: an optional sign, decimal
digits with at most one point and an optional exponent `e±N`, or `0x` and hexadecimal digits
with a binary exponent `p±N`, which is then required. An underscore may stand between two
digits, or between the `0x` and a digit. The names `inf` and `infinity` (with an optional
sign) and `nan` (without one) are read in any case. The value is the nearest binary64 number.

* `readFloat`: the number a literal names, or why it names none: it is malformed, or its
  value lies beyond the finite range (then the fault carries the infinity of its sign).
-/

namespace StaticWrap.Number

/-- Why a literal names no number. -/
inductive LiteralFault where
  /-- The text is not a literal. -/
  | malformed
  /-- The value is beyond the finite range; the number is the infinity of its sign. -/
  | outOfRange (x : Binary64)
  deriving DecidableEq, Repr

/-- An ASCII letter in lower case. -/
def lowerAscii (c : Char) : Char := if 'A' ≤ c && c ≤ 'Z' then Char.ofNat (c.toNat + 32) else c

/-- The length of the common beginning of two texts, ignoring ASCII case. -/
def commonPrefixLength : List Char → List Char → Nat
  | a :: as, b :: bs => if lowerAscii a == lowerAscii b then commonPrefixLength as bs + 1 else 0
  | _, _ => 0

/-- The infinities and not-a-number, with the count of characters they take. -/
def specialValue? (cs : List Char) : Option (Binary64 × Nat) :=
  let inf (neg : Bool) (signs : Nat) (rest : List Char) : Option (Binary64 × Nat) :=
    let n := commonPrefixLength rest "infinity".toList
    let n := if 3 < n && n < 8 then 3 else n
    if n == 3 || n == 8 then some (.infinite neg, signs + n) else none
  match cs with
  | '+' :: rest => inf false 1 rest
  | '-' :: rest => inf true 1 rest
  | c :: rest =>
    if c == 'i' || c == 'I' then inf false 0 (c :: rest)
    else if (c == 'n' || c == 'N') && commonPrefixLength (c :: rest) "nan".toList == 3 then
      some (.nan, 3)
    else none
  | [] => none

/-- The value of a digit in a base, if the character is one. -/
def digitIn (hex : Bool) (c : Char) : Option Nat :=
  if '0' ≤ c && c ≤ '9' then some (c.toNat - 48)
  else if hex && 'a' ≤ lowerAscii c && lowerAscii c ≤ 'f' then some ((lowerAscii c).toNat - 87)
  else none

/-- What the digits of a literal have given so far: the significand of all digits after the
leading zeros, their count, the place of the point (in digits, counted like the count), and
what was seen. -/
structure Digits where
  value : Nat := 0
  count : Nat := 0
  point : Int := 0
  sawPoint : Bool := false
  sawDigits : Bool := false
  underscores : Bool := false

/-- Reads the digits and the point of a literal; `fuel` bounds the steps. -/
def readDigits (hex : Bool) : Nat → Digits → List Char → Digits × List Char
  | 0, d, cs => (d, cs)
  | _, d, [] => (d, [])
  | fuel + 1, d, c :: rest =>
    if c == '_' then readDigits hex fuel { d with underscores := true } rest
    else if c == '.' then
      if d.sawPoint then (d, c :: rest)
      else readDigits hex fuel { d with sawPoint := true, point := d.count } rest
    else
      match digitIn hex c with
      | some v =>
        if v == 0 && d.count == 0 then
          readDigits hex fuel { d with sawDigits := true, point := d.point - 1 } rest
        else
          readDigits hex fuel
            { d with sawDigits := true, count := d.count + 1,
                     value := d.value * (if hex then 16 else 10) + v } rest
      | none => (d, c :: rest)

/-- Reads the digits of an exponent, underscores allowed, the value held below 100000; `fuel`
bounds the steps. -/
def readExponent : Nat → Nat → Bool → List Char → Nat × Bool × List Char
  | 0, e, u, cs => (e, u, cs)
  | _, e, u, [] => (e, u, [])
  | fuel + 1, e, u, c :: rest =>
    if c == '_' then readExponent fuel e true rest
    else if '0' ≤ c && c ≤ '9' then
      readExponent fuel (if e < 10000 then e * 10 + (c.toNat - 48) else e) u rest
    else (e, u, c :: rest)

/-- The underscores of a literal stand only between digits, or between the base prefix and a
digit. -/
def underscoresFit (cs : List Char) : Bool :=
  let body := match cs with
    | '+' :: r | '-' :: r => r
    | r => r
  let (start, hex, rest) : Char × Bool × List Char := match body with
    | '0' :: b :: r =>
      if lowerAscii b == 'b' || lowerAscii b == 'o' || lowerAscii b == 'x' then
        ('0', lowerAscii b == 'x', r)
      else ('^', false, body)
    | r => ('^', false, r)
  let step (saw : Option Char) (c : Char) : Option Char := saw.bind fun s =>
    if ('0' ≤ c && c ≤ '9') || (hex && 'a' ≤ lowerAscii c && lowerAscii c ≤ 'f') then some '0'
    else if c == '_' then (if s == '0' then some '_' else none)
    else if s == '_' then none
    else some '!'
  match rest.foldl step (some start) with
  | some s => s != '_'
  | none => false

/-- The number a literal of decimal or hexadecimal digits names. -/
def readNumber (cs : List Char) : Except LiteralFault Binary64 := do
  let (neg, body) := match cs with
    | '+' :: r => (false, r)
    | '-' :: r => (true, r)
    | r => (false, r)
  let (hex, body) := match body with
    | '0' :: x :: d :: r => if lowerAscii x == 'x' then (true, d :: r) else (false, body)
    | _ => (false, body)
  let (d, rest) := readDigits hex (body.length + 1) {} body
  if !d.sawDigits then throw .malformed
  let point : Int := if d.sawPoint then d.point else d.count
  let expMark := if hex then 'p' else 'e'
  let (expo, underscores, rest) ← match rest with
    | c :: r =>
      if lowerAscii c == expMark then
        let (sign, r) : Int × List Char := match r with
          | '+' :: t => (1, t)
          | '-' :: t => (-1, t)
          | t => (1, t)
        match r with
        | c :: _ =>
          if '0' ≤ c && c ≤ '9' then
            let (e, u, after) := readExponent (r.length + 1) 0 false r
            pure (sign * e, u, after)
          else throw .malformed
        | [] => throw .malformed
      else if hex then throw .malformed
      else pure (0, false, c :: r)
    | [] => if hex then throw .malformed else pure (0, false, [])
  if !rest.isEmpty then throw .malformed
  if (d.underscores || underscores) && !underscoresFit cs then throw .malformed
  let x :=
    if hex then
      let shift : Int := 4 * point + expo - 4 * d.count
      if d.value == 0 then Binary64.zero neg
      else if shift ≥ 0 then
        if shift > 2000 then .infinite neg
        else Binary64.ofRatio neg (d.value * Nat.pow 2 shift.toNat) 1
      else if -shift > 2000 + 4 * d.count then Binary64.zero neg
      else Binary64.ofRatio neg d.value (Nat.pow 2 (-shift).toNat)
    else Binary64.ofDecimal neg d.value (point + expo - d.count)
  match x with
  | .infinite _ => throw (.outOfRange x)
  | _ => pure x

/-- The number a floating-point literal names. -/
def readFloat (s : String) : Except LiteralFault Binary64 :=
  let cs := s.toList
  match specialValue? cs with
  | some (x, n) => if n == cs.length then .ok x else .error .malformed
  | none => readNumber cs

end StaticWrap.Number
