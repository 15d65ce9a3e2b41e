/-!
**Binary64 numbers, computed exactly.**

A binary64 number is a finite value `± m · 2^e`, an infinity or not-a-number. The significand
`m` has at most 53 bits, and the exponent `e` of its last bit is at least `-1074`; a finite
value whose significand has fewer than 53 bits has the least exponent (zero and the subnormal
numbers). No runtime floating point is involved: every operation works on the exact ratio of
two whole numbers and rounds it once.

* `Binary64.ofRatio`: the number nearest to `num / den`, a tie going to the even significand;
  a value beyond the largest finite number (after rounding) is an infinity.
* `Binary64.ofDecimal`: the number nearest to `digits · 10^exp10`.
* `Binary64.mul`, `Binary64.div`: the rounded product and quotient.
* `Binary64.truncate?`: the whole part, cut toward zero, of a finite number.
-/

namespace StaticWrap.Number

/-- The least exponent of the last significand bit: that of the subnormal numbers. -/
def minExponent : Int := -1074

/-- The greatest exponent of the last significand bit of a finite number. -/
def maxExponent : Int := 971

/-- Significands below this bound have fewer than 53 bits. -/
def normalBound : Nat := Nat.pow 2 52

/-- Significands are below this bound. -/
def significandBound : Nat := Nat.pow 2 53

/-- A binary64 number: a finite value `± m · 2^e`, an infinity or not-a-number. -/
inductive Binary64 where
  | finite (neg : Bool) (m : Nat) (e : Int)
  | infinite (neg : Bool)
  | nan
  deriving DecidableEq, Repr, Inhabited

/-- Zero of a sign. -/
def Binary64.zero (neg : Bool) : Binary64 := .finite neg 0 minExponent

/-- `n / d` rounded to a whole number, a tie going to the even neighbour. -/
def roundHalfEven (n d : Nat) : Nat :=
  let q := n / d
  let r := n % d
  if 2 * r > d || (2 * r == d && q % 2 == 1) then q + 1 else q

/-- The ratio `num / den · 2^(-e)` as a pair of whole numbers. -/
def scaleRatio (num den : Nat) (e : Int) : Nat × Nat :=
  if e ≥ 0 then (num, den * Nat.pow 2 e.toNat) else (num * Nat.pow 2 (-e).toNat, den)

/-- The exponent of the leading bit of `num / den` (both positive): the `k` with
`2^k ≤ num / den < 2^(k+1)`. -/
def leadingExponent (num den : Nat) : Int :=
  let k : Int := (num.log2 : Int) - den.log2
  let (a, b) := scaleRatio num den k
  if a ≥ b then k else k - 1

/-- The number nearest to `num / den` with the given sign, a tie going to the even
significand. -/
def Binary64.ofRatio (neg : Bool) (num den : Nat) : Binary64 :=
  if num == 0 || den == 0 then Binary64.zero neg
  else
    let e := max (leadingExponent num den - 52) minExponent
    let (a, b) := scaleRatio num den e
    let m := roundHalfEven a b
    let (m, e) := if m == significandBound then (m / 2, e + 1) else (m, e)
    if e > maxExponent then .infinite neg else .finite neg m e

/-- The number of decimal digits of a positive whole number. -/
def digitCount (n : Nat) : Nat := (toString n).length

/-- The number nearest to `± digits · 10^exp10`. Values far outside the finite range are
settled by their digit count alone: at least `10^309` is an infinity, below `10^-324` is
zero. -/
def Binary64.ofDecimal (neg : Bool) (digits : Nat) (exp10 : Int) : Binary64 :=
  if digits == 0 then Binary64.zero neg
  else
    let size : Int := digitCount digits
    if size + exp10 ≥ 310 then .infinite neg
    else if size + exp10 ≤ -324 then Binary64.zero neg
    else if exp10 ≥ 0 then Binary64.ofRatio neg (digits * Nat.pow 10 exp10.toNat) 1
    else Binary64.ofRatio neg digits (Nat.pow 10 (-exp10).toNat)

/-- The number nearest to a whole number. -/
def Binary64.ofNat (n : Nat) : Binary64 := Binary64.ofRatio false n 1

/-- The exact value of a finite number as a sign and a ratio. -/
def Binary64.ratio? : Binary64 → Option (Bool × Nat × Nat)
  | .finite neg m e => some (neg, scaleRatio m 1 (-e))
  | _ => none

/-- The number is zero, of either sign. -/
def Binary64.isZero : Binary64 → Bool
  | .finite _ m _ => m == 0
  | _ => false

/-- The sign of a number; not-a-number counts as positive. -/
def Binary64.isNeg : Binary64 → Bool
  | .finite neg _ _ => neg
  | .infinite neg => neg
  | .nan => false

/-- The rounded product. -/
def Binary64.mul (x y : Binary64) : Binary64 :=
  let neg := x.isNeg != y.isNeg
  match x, y with
  | .nan, _ | _, .nan => .nan
  | .infinite _, v | v, .infinite _ => if v.isZero then .nan else .infinite neg
  | .finite _ _ _, .finite _ _ _ =>
    match x.ratio?, y.ratio? with
    | some (_, a, b), some (_, c, d) => Binary64.ofRatio neg (a * c) (b * d)
    | _, _ => .nan

/-- The rounded quotient. -/
def Binary64.div (x y : Binary64) : Binary64 :=
  let neg := x.isNeg != y.isNeg
  match x, y with
  | .nan, _ | _, .nan => .nan
  | .infinite _, .infinite _ => .nan
  | .infinite _, _ => .infinite neg
  | _, .infinite _ => Binary64.zero neg
  | .finite _ _ _, .finite _ _ _ =>
    if y.isZero then (if x.isZero then .nan else .infinite neg)
    else
      match x.ratio?, y.ratio? with
      | some (_, a, b), some (_, c, d) => Binary64.ofRatio neg (a * d) (b * c)
      | _, _ => .nan

/-- The whole part of a finite number, cut toward zero; none for an infinity or
not-a-number. -/
def Binary64.truncate? (x : Binary64) : Option Int :=
  match x.ratio? with
  | some (neg, a, b) => some (if neg then -((a / b : Nat) : Int) else (a / b : Nat))
  | none => none

end StaticWrap.Number
