import StaticWrap.Text.Quote
import StaticWrap.Number.Binary64
import StaticWrap.GoSource.Token
/-!
**Constant values.**

The values of constant expressions, computed exactly: booleans, strings, whole numbers of
any size (`Int`) and numbers with a fraction (`Rat`); a complex constant, or a value this
reading does not compute, is `unknown` and takes no part in any check.

* `ConstValue.ofLiteral`: the value a literal token spells; `none` for a malformed one.
* `ConstValue.text`: how a value is written in messages: a string quoted (cut to 72
  characters), a whole number in decimal, a fraction the way `%.6g` writes the nearest
  binary64 number (`%.6e` when that hides the fraction).
* `fitsBasic`: whether a value is representable in a basic type, and if not, whether it
  is truncated (a fraction into a whole-number type) or overflows.
-/

namespace StaticWrap.Typing

open StaticWrap.GoSource

/-- A constant value. -/
inductive ConstValue where
  | bool (b : Bool)
  | str (s : String)
  | int (i : Int)
  | frac (q : Rat)
  | unknown
  deriving Inhabited, BEq

/-- A number as a fraction, if the value is a number. -/
def ConstValue.toRat? : ConstValue → Option Rat
  | .int i => some i
  | .frac q => some q
  | _ => none

/-- A fraction that is a whole number becomes one. -/
def ConstValue.ofRat (q : Rat) : ConstValue :=
  if q.isInt then .int q.num else .frac q

def digitValue? (base : Nat) (c : Char) : Option Nat :=
  let d := if '0' ≤ c && c ≤ '9' then some (c.toNat - 48)
    else if 'a' ≤ c && c ≤ 'f' then some (c.toNat - 87)
    else if 'A' ≤ c && c ≤ 'F' then some (c.toNat - 55)
    else none
  d.bind fun d => if d < base then some d else none

/-- The value of a run of digits in a base. -/
def digitsIn (base : Nat) (ds : List Char) : Option Nat :=
  if ds.isEmpty then none
  else ds.foldl (fun acc c => acc.bind fun n => (digitValue? base c).map (n * base + ·)) (some 0)

/-- The value of an integer literal: decimal, `0x`, `0o`, `0b` or leading-zero octal, with
`_` separators. -/
def intLiteralValue? (lit : String) : Option Nat :=
  let cs := lit.toList.filter (· != '_')
  match cs with
  | '0' :: x :: rest =>
    if x == 'x' || x == 'X' then digitsIn 16 rest
    else if x == 'o' || x == 'O' then digitsIn 8 rest
    else if x == 'b' || x == 'B' then digitsIn 2 rest
    else digitsIn 8 (x :: rest)
  | _ => digitsIn 10 cs

/-- The value of a decimal floating-point literal: digits with at most one point, then an
optional exponent. Hexadecimal ones are not read. -/
def floatLiteralValue? (lit : String) : Option Rat :=
  let cs := lit.toList.filter (· != '_')
  if cs.any (fun c => c == 'x' || c == 'X') then none
  else
    let mant := cs.takeWhile (fun c => c != 'e' && c != 'E')
    let expPart := cs.drop (mant.length + 1)
    let whole := mant.takeWhile (· != '.')
    let frac := mant.drop (whole.length + 1)
    let digits := whole ++ frac
    let exp? : Option Int :=
      if mant.length == cs.length then some 0
      else match expPart with
        | '-' :: ds => (digitsIn 10 ds).map fun n => -(n : Int)
        | '+' :: ds => (digitsIn 10 ds).map (fun n => (n : Int))
        | ds => (digitsIn 10 ds).map (fun n => (n : Int))
    match (if digits.isEmpty then none else digitsIn 10 digits), exp? with
    | some n, some e =>
      let e := e - frac.length
      some (if e ≥ 0 then ((n * Nat.pow 10 e.toNat : Nat) : Rat)
        else mkRat n (Nat.pow 10 (-e).toNat))
    | _, _ => none

/-- The value of a literal token, if it is well formed; a complex literal is `unknown`. -/
def ConstValue.ofLiteral (kind : Tok) (lit : String) : Option ConstValue :=
  match kind with
  | .int => (intLiteralValue? lit).map fun n => .int n
  | .float => some ((floatLiteralValue? lit).map ConstValue.ofRat |>.getD .unknown)
  | .imag => some .unknown
  | .char =>
    (Text.unquote? lit).bind fun s => match s.toList with
      | [c] => some (.int c.toNat)
      | _ => none
  | .string => (Text.unquote? lit).map .str
  | _ => none

/-- The digits of a whole number in decimal. -/
def decimalDigits (n : Nat) : List Char := (toString n).toList

/-- The exponent of the leading decimal digit of a positive fraction: the `e` with
`10^e ≤ q < 10^(e+1)`. -/
def decimalExponent (q : Rat) : Int :=
  let guess : Int := (toString q.num.natAbs).length - (toString q.den).length
  let pow (e : Int) : Rat :=
    if e ≥ 0 then ((Nat.pow 10 e.toNat : Nat) : Rat) else mkRat 1 (Nat.pow 10 (-e).toNat)
  if decide (q < pow guess) then guess - 1
  else if decide (q ≥ pow (guess + 1)) then guess + 1
  else guess

/-- A positive fraction scaled by `10^k` and rounded to a whole number, a tie going to the
even neighbour. -/
def scaledRound (q : Rat) (k : Int) : Nat :=
  let (n, d) := if k ≥ 0 then (q.num.natAbs * Nat.pow 10 k.toNat, q.den)
    else (q.num.natAbs, q.den * Nat.pow 10 (-k).toNat)
  Number.roundHalfEven n d

/-- A two-digit (at least) exponent with its sign, as `%e` writes it. -/
def exponentText (e : Int) : String :=
  let digits := toString e.natAbs
  (if e < 0 then "-" else "+") ++ (if digits.length < 2 then "0" ++ digits else digits)

/-- Drops the zeros at the end of a fraction part, and the point when nothing is left. -/
def trimFraction (s : String) : String :=
  if !s.toList.contains '.' then s
  else
    let cs := (s.toList.reverse.dropWhile (· == '0'))
    let cs := match cs with
      | '.' :: rest => rest
      | _ => cs
    String.ofList cs.reverse

/-- Six significant digits of a positive fraction, with the exponent of the first. -/
def sixDigits (q : Rat) : Nat × Int :=
  let e := decimalExponent q
  let m := scaledRound q (5 - e)
  if m ≥ 1000000 then (m / 10, e + 1) else (m, e)

/-- `%.6e` of a positive fraction. -/
def expText (q : Rat) : String :=
  let (m, e) := sixDigits q
  let ds := decimalDigits m
  String.ofList (ds.take 1) ++ "." ++ String.ofList (ds.drop 1) ++ "e" ++ exponentText e

/-- `%.6g` of a positive fraction. -/
def generalText (q : Rat) : String :=
  let (m, e) := sixDigits q
  let ds := decimalDigits m
  if e < -4 || e ≥ 6 then
    trimFraction (String.ofList (ds.take 1) ++ "." ++ String.ofList (ds.drop 1)) ++ "e" ++
      exponentText e
  else if e ≥ 0 then
    let k := e.toNat + 1
    trimFraction (String.ofList (ds.take k) ++ "." ++ String.ofList (ds.drop k))
  else
    trimFraction ("0." ++ String.ofList (List.replicate ((-e).toNat - 1) '0') ++ String.ofList ds)

/-- How a fraction is written: `%.6g`, or `%.6e` when a value with a fraction would read as
a whole number. -/
def fracText (q : Rat) : String :=
  if q == 0 then "0"
  else
    let sign := if q < 0 then "-" else ""
    let a := if q < 0 then -q else q
    let g := generalText a
    if !q.isInt && !g.toList.contains '.' then sign ++ expText a else sign ++ g

/-- A quoted string, cut to 72 characters with `...` when longer. -/
def stringText (s : String) : String :=
  let q := Text.quote s
  if q.length > 72 then String.ofList (q.toList.take 69) ++ "..." else q

/-- How a value is written in messages. -/
def ConstValue.text : ConstValue → String
  | .bool b => if b then "true" else "false"
  | .str s => stringText s
  | .int i => toString i
  | .frac q => fracText q
  | .unknown => "unknown"

/-- Why a value does not fit a type. -/
inductive Misfit where
  /-- A fraction into a whole-number type. -/
  | truncated
  /-- A number beyond the type's range. -/
  | overflows
  /-- A value of another kind. -/
  | mismatch
  deriving DecidableEq

/-- The range of a whole-number basic type. -/
def intRange? (name : String) : Option (Int × Int) :=
  match name with
  | "int8" => some (-128, 127)
  | "int16" => some (-32768, 32767)
  | "int32" | "rune" => some (-2147483648, 2147483647)
  | "int" | "int64" => some (-9223372036854775808, 9223372036854775807)
  | "uint8" | "byte" => some (0, 255)
  | "uint16" => some (0, 65535)
  | "uint32" => some (0, 4294967295)
  | "uint" | "uint64" | "uintptr" => some (0, 18446744073709551615)
  | _ => none

/-- The largest finite value of a floating-point basic type. -/
def floatMax? (name : String) : Option Rat :=
  match name with
  | "float32" => some ((Nat.pow 2 128 - Nat.pow 2 104 : Nat) : Rat)
  | "float64" => some ((Nat.pow 2 1024 - Nat.pow 2 971 : Nat) : Rat)
  | _ => none

/-- The basic type is a whole-number type. -/
def isIntegerName (name : String) : Bool := (intRange? name).isSome

/-- The basic type is a number type. -/
def isNumericName (name : String) : Bool :=
  isIntegerName name || (floatMax? name).isSome || name == "complex64" || name == "complex128"

/-- Whether a value fits a basic type (by name). -/
def fitsBasic (v : ConstValue) (name : String) : Except Misfit Unit :=
  match v with
  | .unknown => .ok ()
  | .bool _ => if name == "bool" then .ok () else .error .mismatch
  | .str _ => if name == "string" then .ok () else .error .mismatch
  | .int i =>
    match intRange? name with
    | some (lo, hi) => if lo ≤ i && i ≤ hi then .ok () else .error .overflows
    | none =>
      match floatMax? name with
      | some m => if decide ((i : Rat) ≤ m) && decide (-m ≤ (i : Rat)) then .ok () else .error .overflows
      | none => if name == "complex64" || name == "complex128" then .ok () else .error .mismatch
  | .frac q =>
    match intRange? name with
    | some _ => .error .truncated
    | none =>
      match floatMax? name with
      | some m => if decide (q ≤ m) && decide (-m ≤ q) then .ok () else .error .overflows
      | none => if name == "complex64" || name == "complex128" then .ok () else .error .mismatch

end StaticWrap.Typing
