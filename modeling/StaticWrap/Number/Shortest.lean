import StaticWrap.Number.Binary64
/-!
**The shortest decimal of a binary64 number.**

Every finite number stands for the interval of reals that round to it: half the gap to each
neighbour on either side (the gap below a power of two is half the gap above), the ends
included when the significand is even, since a tie goes to the even significand. The
shortest decimal of a number is the decimal with the fewest significant digits in that
interval; of two with as many digits, the nearer to the number, and of two as near, the one
whose last digit is even.

For each count of digits `n` from 1 to 17 only the two neighbours of the number on the grid
of `n` significant digits need testing: if any point of that grid lies in the interval, one of
the two neighbours does. Seventeen digits always suffice.

* `shortestDigits`: the digits and the exponent of the last digit of a positive finite number.
* `Binary64.positional`: the number in positional notation with its shortest digits: `-0`,
  `0.001`, `12345678901234567000`, and `NaN`, `+Inf`, `-Inf`.
-/

namespace StaticWrap.Number

/-- Whole numbers compare as ratios: `a / b ≤ c / d`. -/
def ratioLe (a b c d : Nat) : Bool := a * d ≤ c * b

/-- Whole numbers compare as ratios: `a / b < c / d`. -/
def ratioLt (a b c d : Nat) : Bool := a * d < c * b

/-- The exponent of the leading decimal digit of `num / den` (both positive): the `k` with
`10^k ≤ num / den < 10^(k+1)`. -/
def leadingDecimal (num den : Nat) : Int :=
  if num ≥ den then (digitCount (num / den) : Int) - 1
  else
    let k : Int := -(digitCount (den / num) : Int)
    -- `10^k ≤ num / den` holds for this `k` or the next one up
    if num * Nat.pow 10 (-(k + 1)).toNat ≥ den then k + 1 else k

/-- The value `q · 10^k` as a ratio. -/
def gridRatio (q : Nat) (k : Int) : Nat × Nat :=
  if k ≥ 0 then (q * Nat.pow 10 k.toNat, 1) else (q, Nat.pow 10 (-k).toNat)

/-- The interval of reals that round to the positive number `m · 2^e`: its ends as ratios
over one denominator, and whether they belong to it. -/
structure RoundingInterval where
  low : Nat
  high : Nat
  den : Nat
  closed : Bool

/-- The rounding interval of `m · 2^e`, over the denominator `2^(2-e)` (or `1`), in units
where the number itself is `4m · 2^e`. -/
def roundingInterval (m : Nat) (e : Int) : RoundingInterval :=
  let lowerGap := if m == normalBound && e > minExponent then 1 else 2
  let scale := if e - 2 ≥ 0 then Nat.pow 2 (e - 2).toNat else 1
  let den := if e - 2 ≥ 0 then 1 else Nat.pow 2 (2 - e).toNat
  { low := (4 * m - lowerGap) * scale, high := (4 * m + 2) * scale, den, closed := m % 2 == 0 }

/-- The ratio `a / b` lies in the rounding interval. -/
def RoundingInterval.holds (r : RoundingInterval) (a b : Nat) : Bool :=
  if r.closed then ratioLe r.low r.den a b && ratioLe a b r.high r.den
  else ratioLt r.low r.den a b && ratioLt a b r.high r.den

/-- The best decimal of `n` significant digits for `m · 2^e` in its rounding interval, if there
is one: its digits and the exponent of its last digit. -/
def candidate (m : Nat) (e : Int) (n : Nat) : Option (Nat × Int) :=
  let (vn, vd) := scaleRatio m 1 (-e)
  let k := leadingDecimal vn vd - n + 1
  let (un, ud) := gridRatio 1 k
  -- `q` is the number of grid units below the value
  let q := (vn * ud) / (vd * un)
  let r := roundingInterval m e
  let inGrid (d : Nat) : Bool :=
    let (a, b) := gridRatio d k
    r.holds a b
  let lowIn := inGrid q
  let highIn := inGrid (q + 1)
  if lowIn && highIn then
    -- the distance below is `v - q·u`, above `(q+1)·u - v`, compared over `vd · ud`
    let below := vn * ud - q * un * vd
    let above := (q + 1) * un * vd - vn * ud
    if below < above then some (q, k)
    else if above < below then some (q + 1, k)
    else if q % 2 == 0 then some (q, k) else some (q + 1, k)
  else if lowIn then some (q, k)
  else if highIn then some (q + 1, k)
  else none

/-- Drops the trailing zeros of a digit string, raising its exponent; `fuel` bounds the
steps. -/
def dropTrailingZeros : Nat → Nat → Int → Nat × Int
  | 0, d, k => (d, k)
  | fuel + 1, d, k => if d != 0 && d % 10 == 0 then dropTrailingZeros fuel (d / 10) (k + 1) else (d, k)

/-- The shortest decimal of a positive finite number `m · 2^e`: its digits, without trailing
zeros, and the exponent of the last digit. -/
def shortestDigits (m : Nat) (e : Int) : Nat × Int :=
  let found := (List.range 17).findSome? fun i => candidate m e (i + 1)
  let (d, k) := found.getD (m, 0)
  dropTrailingZeros (digitCount d) d k

/-- Digits `ds` with the decimal point after `point` of them, in positional notation: zeros
fill in before the digits or after them. -/
def placeDigits (ds : List Char) (point : Int) : String :=
  let n : Int := ds.length
  if point ≤ 0 then "0." ++ String.ofList (List.replicate (-point).toNat '0' ++ ds)
  else if point ≥ n then String.ofList (ds ++ List.replicate (point - n).toNat '0')
  else String.ofList (ds.take point.toNat) ++ "." ++ String.ofList (ds.drop point.toNat)

/-- A number in positional notation with its shortest digits. -/
def Binary64.positional : Binary64 → String
  | .nan => "NaN"
  | .infinite neg => if neg then "-Inf" else "+Inf"
  | .finite neg m e =>
    let sign := if neg then "-" else ""
    if m == 0 then sign ++ "0"
    else
      let (d, k) := shortestDigits m e
      let ds := (toString d).toList
      sign ++ placeDigits ds (ds.length + k)

end StaticWrap.Number
