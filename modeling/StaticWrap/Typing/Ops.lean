import StaticWrap.Typing.Assign
/-!
**Operators on types and constants.**

Which operators a type admits, and what they compute on constants:

* `+` on numbers and strings; `-`, `*`, `/` on numbers; `%` and the bit operators on whole
  numbers; `&&` and `||` on booleans; comparisons on all comparable values, the ordering ones
  on numbers and strings;
* on constants, arithmetic is exact: `/` divides whole numbers (it truncates) when the
  operands are of a whole-number type and fractions otherwise; shifts multiply or divide by
  powers of two (rounding down).

A kind is read from the underlying basic type; `none` means the type is not known.
-/

namespace StaticWrap.Typing

open StaticWrap.GoSource
open StaticWrap.Types
open StaticWrap.Load

/-- The basic name under a type, `none` when not known, `some ""` for a type that is not
basic. -/
def kindOf (w : World) (t : GoType) : Option String :=
  match underlying w 16 t with
  | .basic n => some (basicIdentity n)
  | .invalid => none
  | _ => some ""

/-- A predicate on basic kinds applied to a type; `none` when the type is not known. -/
def kindIs (w : World) (p : String → Bool) (t : GoType) : Option Bool :=
  (kindOf w t).map p

/-- Numbers, typed or not. -/
def numericKind (n : String) : Bool := isNumericBasic n

/-- Whole numbers, typed or not. -/
def integerKind (n : String) : Bool := isIntegerBasic n

/-- Booleans, typed or not. -/
def booleanKind (n : String) : Bool := isBooleanName n

/-- Strings, typed or not. -/
def stringKind (n : String) : Bool := isStringName n

/-- Numbers and strings: what the ordering operators and `+` apply to. -/
def orderedKind (n : String) : Bool :=
  (numericKind n && n != "complex64" && n != "complex128" && n != "untyped complex") ||
    stringKind n

/-- The kinds a binary operator applies to. -/
def binaryOpAllows : Tok → String → Bool
  | .add => fun n => numericKind n || stringKind n
  | .sub | .mul | .quo => numericKind
  | .rem | .and | .or | .xor | .andNot => integerKind
  | .land | .lor => booleanKind
  | _ => fun _ => true

/-- The kinds a unary operator applies to. -/
def unaryOpAllows : Tok → String → Bool
  | .add | .sub => numericKind
  | .xor => integerKind
  | .not => booleanKind
  | _ => fun _ => true

/-- The number of bits of a sized whole-number kind. -/
def intBits : String → Option Nat
  | "int8" | "uint8" => some 8
  | "int16" | "uint16" => some 16
  | "int32" | "uint32" => some 32
  | "int64" | "uint64" | "int" | "uint" | "uintptr" => some 64
  | _ => none

def unsignedKind (n : String) : Bool := n.startsWith "uint"

/-- A unary operator on a constant of a kind. -/
def unaryConst (op : Tok) (kind : String) (v : ConstValue) : ConstValue :=
  match op, v with
  | .add, v => v
  | .sub, .int i => .int (-i)
  | .sub, .frac q => .frac (-q)
  | .not, .bool b => .bool (!b)
  | .xor, .int i =>
    match intBits kind with
    | some b => if unsignedKind kind then .int ((Nat.pow 2 b : Nat) - 1 - i) else .int (-i - 1)
    | none => .int (-i - 1)
  | _, _ => .unknown

/-- A bitwise operation on whole numbers in two's complement: both are written with enough
bits that their signs are repeated at the top, the operation works on those bits, and the top
bit of the result gives its sign. -/
def intBitwise (f : Nat → Nat → Nat) (a b : Int) : Int :=
  let width := max a.natAbs.log2 b.natAbs.log2 + 3
  let m : Nat := Nat.pow 2 width
  let enc (x : Int) : Nat := (x % (m : Int)).toNat
  let r := f (enc a) (enc b) % m
  if r ≥ m / 2 then (r : Int) - m else r

/-- Floor division of whole numbers. -/
def floorDiv (a b : Int) : Int := Int.fdiv a b

/-- A binary operator on two constants of the kind `kind` (the operands' common kind). -/
def binaryConst (op : Tok) (kind : String) (x y : ConstValue) : ConstValue :=
  let intDiv := integerKind kind
  match op, x, y with
  | .add, .str a, .str b => .str (a ++ b)
  | .land, .bool a, .bool b => .bool (a && b)
  | .lor, .bool a, .bool b => .bool (a || b)
  | .rem, .int a, .int b => if b == 0 then .unknown else .int (a.tmod b)
  | .and, .int a, .int b => .int (intBitwise (· &&& ·) a b)
  | .or, .int a, .int b => .int (intBitwise (· ||| ·) a b)
  | .xor, .int a, .int b => .int (intBitwise (· ^^^ ·) a b)
  | .andNot, .int a, .int b => .int (intBitwise (· &&& ·) a (-b - 1))
  | .quo, .int a, .int b =>
    if b == 0 then .unknown
    else if intDiv then .int (a.tdiv b) else ConstValue.ofRat ((a : Rat) / (b : Rat))
  | op, a, b =>
    match a.toRat?, b.toRat? with
    | some p, some q =>
      match op with
      | .add => ConstValue.ofRat (p + q)
      | .sub => ConstValue.ofRat (p - q)
      | .mul => ConstValue.ofRat (p * q)
      | .quo => if q == 0 then .unknown else ConstValue.ofRat (p / q)
      | _ => .unknown
    | _, _ => .unknown

/-- A comparison of two constants. -/
def compareConst (op : Tok) (x y : ConstValue) : ConstValue :=
  let cmp : Option Ordering :=
    match x, y with
    | .str a, .str b => some (compare a b)
    | .bool a, .bool b => if a == b then some .eq else some .lt
    | a, b => match a.toRat?, b.toRat? with
      | some p, some q => some (if p < q then .lt else if p == q then .eq else .gt)
      | _, _ => none
  match cmp with
  | none => .unknown
  | some c =>
    match op with
    | .eql => .bool (c == .eq)
    | .neq => .bool (c != .eq)
    | .lss => .bool (c == .lt)
    | .leq => .bool (c != .gt)
    | .gtr => .bool (c == .gt)
    | .geq => .bool (c != .lt)
    | _ => .unknown

/-- A shift of a constant by a count; a count past any size a value may have is not
computed. -/
def shiftConst (op : Tok) (x : ConstValue) (count : Nat) : ConstValue :=
  match x with
  | .int a =>
    if count > 4096 then .unknown
    else if op == .shl then .int (a * (Nat.pow 2 count : Nat))
    else .int (floorDiv a (Nat.pow 2 count : Nat))
  | _ => .unknown

/-- The operator is a comparison. -/
def isComparison : Tok → Bool
  | .eql | .neq | .lss | .leq | .gtr | .geq => true
  | _ => false

/-- The binary operator an assignment operator applies. -/
def assignOpBinary : Tok → Option Tok
  | .addAssign => some .add
  | .subAssign => some .sub
  | .mulAssign => some .mul
  | .quoAssign => some .quo
  | .remAssign => some .rem
  | .andAssign => some .and
  | .orAssign => some .or
  | .xorAssign => some .xor
  | .shlAssign => some .shl
  | .shrAssign => some .shr
  | .andNotAssign => some .andNot
  | _ => none

/-- A count and its word: `1 variable`, `2 values`. -/
def measure (n : Nat) (unit : String) : String :=
  toString n ++ " " ++ unit ++ (if n == 1 then "" else "s")

end StaticWrap.Typing
