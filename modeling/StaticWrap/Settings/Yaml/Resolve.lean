import StaticWrap.Number.Literal
import StaticWrap.Text.Basic
import StaticWrap.Text.Base64
/-!
**What the scalars of YAML documents stand for.**

A scalar without a tag is resolved by its text:

* `~`, `null`, `Null`, `NULL` and the empty text are nothing; `true`, `True`, `TRUE`, `false`,
  `False`, `FALSE` are truth values; `.nan`, `.inf`, `-.inf` and `+.inf` (also capitalised or in
  capitals) are the special floats;
* a text that starts with a digit or a sign is tried, in order, as a timestamp (`2001-12-14`,
  optionally with a time and a zone), as a signed 64-bit integer, as an unsigned one, and as a
  decimal float; an integer may be written in hexadecimal (`0x`), octal (`0o` or a leading
  zero) or binary (`0b`), with underscores anywhere, and a float must have the plain form
  `[-+]?(.digits|digits[.digits])([eE][-+]?digits)` and stay in range;
* a text that starts with a point is tried as a float;
* everything else is text.

A scalar with the tag `!!str`, `!!null`, `!!int`, `!!bool`, `!!float` or `!!timestamp` is resolved in the
same way and must come out of that kind (an integer may stand for a float); otherwise the
fault is ``cannot decode !!str `x` as a !!int``. A scalar tagged `!!binary` stands for the text
its base64 spells. Other tags leave the text as it is.
-/

namespace StaticWrap.Settings.Yaml

/-- What a scalar stands for. -/
inductive Resolved where
  | null
  | bool (b : Bool)
  | int (n : Int)
  | uint (n : Nat)
  | float (x : Number.Binary64)
  | text (s : String)
  | timestamp (s : String)
  deriving Inhabited

/-- The prefix of the tags of the YAML schema. -/
def tagPrefix : String := "tag:yaml.org,2002:"

/-- A tag in its short form: `!!name` for the tags of the YAML schema. -/
def shortTag (tag : String) : String :=
  if Text.hasPrefix tag tagPrefix then "!!" ++ String.ofList (tag.toList.drop tagPrefix.length) else tag

/-- The tags that resolution knows. -/
def resolvableTag (tag : String) : Bool :=
  tag == "" || tag == "!!str" || tag == "!!bool" || tag == "!!int" || tag == "!!float" ||
    tag == "!!timestamp" || tag == "!!null"

/-- The texts that stand for fixed values, with their tags. -/
def fixedValue? (s : String) : Option (String × Resolved) :=
  if s == "true" || s == "True" || s == "TRUE" then some ("!!bool", .bool true)
  else if s == "false" || s == "False" || s == "FALSE" then some ("!!bool", .bool false)
  else if s == "" || s == "~" || s == "null" || s == "Null" || s == "NULL" then some ("!!null", .null)
  else if s == ".nan" || s == ".NaN" || s == ".NAN" then some ("!!float", .float .nan)
  else if s == ".inf" || s == ".Inf" || s == ".INF" || s == "+.inf" || s == "+.Inf" || s == "+.INF" then
    some ("!!float", .float (.infinite false))
  else if s == "-.inf" || s == "-.Inf" || s == "-.INF" then some ("!!float", .float (.infinite true))
  else if s == "<<" then some ("!!merge", .text "<<")
  else none

/-- How the first character of a scalar hints at its kind: `S` a sign, `D` a digit, `M` a
letter that may start a fixed value, `.` a point; `N` for the empty text and `_` for none. -/
def hint (s : String) : Char :=
  match s.toList with
  | [] => 'N'
  | c :: _ =>
    if c == '+' || c == '-' then 'S'
    else if '0' ≤ c && c ≤ '9' then 'D'
    else if "yYnNtTfFoO~".toList.contains c then 'M'
    else if c == '.' then '.'
    else '_'

/-- The value of a digit in a base. -/
def digitValue (c : Char) : Nat :=
  if '0' ≤ c && c ≤ '9' then c.toNat - 48
  else if 'a' ≤ c && c ≤ 'z' then c.toNat - 87
  else if 'A' ≤ c && c ≤ 'Z' then c.toNat - 55
  else 99

/-- Reads digits in a base as a number below `2^64`. -/
def digitsIn (base : Nat) (cs : List Char) : Option Nat :=
  cs.foldlM (fun n c =>
    let d := digitValue c
    if d ≥ base || n * base + d ≥ Nat.pow 2 64 then none else some (n * base + d)) 0

/-- Reads an unsigned 64-bit number, its base given by its prefix: `0x`, `0o`, `0b` (each
needing a digit after it), or a leading zero for octal. -/
def unsignedAuto (s : String) : Option Nat :=
  match s.toList with
  | [] => none
  | '0' :: b :: d :: rest =>
    let l := Number.lowerAscii b
    if l == 'x' then digitsIn 16 (d :: rest)
    else if l == 'o' then digitsIn 8 (d :: rest)
    else if l == 'b' then digitsIn 2 (d :: rest)
    else digitsIn 8 (b :: d :: rest)
  | '0' :: rest => digitsIn 8 rest
  | cs => digitsIn 10 cs

/-- Reads a signed 64-bit number with its base given by its prefix. -/
def signedAuto (s : String) : Option Int :=
  let (neg, body) := match s.toList with
    | '+' :: r => (false, r)
    | '-' :: r => (true, r)
    | r => (false, r)
  match unsignedAuto (String.ofList body) with
  | some n =>
    if neg then (if n ≤ Nat.pow 2 63 then some (-(n : Int)) else none)
    else if n < Nat.pow 2 63 then some n else none
  | none => none

/-- The plain form of a decimal float: `[-+]?(.digits|digits[.digits])([eE][-+]?digits)`. -/
def isPlainFloat (s : String) : Bool :=
  let cs := s.toList
  let cs := match cs with
    | '+' :: r | '-' :: r => r
    | r => r
  let digits (cs : List Char) : List Char × List Char := (cs.takeWhile isDigit, cs.dropWhile isDigit)
  let mantissa : Option (List Char) :=
    match cs with
    | '.' :: r =>
      let (ds, rest) := digits r
      if ds.isEmpty then none else some rest
    | _ =>
      let (ds, rest) := digits cs
      if ds.isEmpty then none
      else match rest with
        | '.' :: r => some (digits r).2
        | _ => some rest
  match mantissa with
  | none => false
  | some [] => true
  | some (e :: r) =>
    if e != 'e' && e != 'E' then false
    else
      let r := match r with
        | '+' :: q | '-' :: q => q
        | q => q
      let (ds, rest) := digits r
      !ds.isEmpty && rest.isEmpty
where
  isDigit (c : Char) : Bool := '0' ≤ c && c ≤ '9'

/-- Reads one or two digits. -/
def shortNumber : List Char → Option (Nat × List Char)
  | a :: b :: rest =>
    if !('0' ≤ a && a ≤ '9') then none
    else if '0' ≤ b && b ≤ '9' then some ((a.toNat - 48) * 10 + (b.toNat - 48), rest)
    else some (a.toNat - 48, b :: rest)
  | [a] => if '0' ≤ a && a ≤ '9' then some (a.toNat - 48, []) else none
  | [] => none

/-- Reads exactly two digits. -/
def twoDigits : List Char → Option Nat
  | [a, b] =>
    if '0' ≤ a && a ≤ '9' && '0' ≤ b && b ≤ '9' then some ((a.toNat - 48) * 10 + (b.toNat - 48)) else none
  | _ => none

def monthDays (month year : Nat) : Nat :=
  if month == 2 then (if year % 4 == 0 && (year % 100 != 0 || year % 400 == 0) then 29 else 28)
  else if month == 4 || month == 6 || month == 9 || month == 11 then 30
  else 31

/-- Passes an optional fraction of a second: a point or comma and digits. -/
def skipFraction : List Char → List Char
  | p :: d :: rest =>
    if (p == '.' || p == ',') && '0' ≤ d && d ≤ '9' then rest.dropWhile fun c => '0' ≤ c && c ≤ '9'
    else p :: d :: rest
  | cs => cs

/-- Reads a zone `Z` or `±hh:mm`; what is left after it. -/
def zone? : List Char → Option (List Char)
  | 'Z' :: rest => some rest
  | cs =>
    if cs.length < 6 || cs.getD 3 ' ' != ':' then none
    else
      let sign := cs.getD 0 ' '
      match twoDigits ((cs.drop 1).take 2), twoDigits ((cs.drop 4).take 2) with
      | some h, some m => if h > 24 || m > 60 || (sign != '+' && sign != '-') then none else some (cs.drop 6)
      | _, _ => none

/-- Reads `hh:mm:ss` with an optional fraction, each of one or two digits, in range. -/
def clock? (cs : List Char) : Option (List Char) := do
  let (h, cs) ← shortNumber cs
  let cs ← match cs with
    | ':' :: r => some r
    | _ => none
  let (m, cs) ← shortNumber cs
  let cs ← match cs with
    | ':' :: r => some r
    | _ => none
  let (s, cs) ← shortNumber cs
  if h ≥ 24 || m ≥ 60 || s ≥ 60 then none else some (skipFraction cs)

/-- The forms of timestamps: a date, with a time after `T`, `t` or spaces; the time after `T`
or `t` needs a zone, the time after spaces has none. -/
def isTimestamp (s : String) : Bool :=
  let cs := s.toList
  let lead := cs.takeWhile fun c => '0' ≤ c && c ≤ '9'
  if lead.length != 4 || cs.getD 4 ' ' != '-' then false
  else
    let date : Option (List Char) := do
      let year := lead.foldl (fun n c => n * 10 + (c.toNat - 48)) 0
      let (month, r) ← shortNumber (cs.drop 5)
      let r ← match r with
        | '-' :: q => some q
        | _ => none
      let (day, r) ← shortNumber r
      if month == 0 || month > 12 || day == 0 || day > monthDays month year then none else some r
    match date with
    | none => false
    | some [] => true
    | some (sep :: rest) =>
      if sep == 'T' || sep == 't' then
        match clock? rest >>= zone? with
        | some [] => true
        | _ => false
      else if sep == ' ' then
        match clock? (rest.dropWhile (· == ' ')) with
        | some [] => true
        | _ => false
      else false

/-- A float read from a text, when it is one and in range. -/
def floatOf? (s : String) : Option Number.Binary64 :=
  match Number.readFloat s with
  | .ok x => some x
  | .error _ => none

/-- Resolves a text by its form alone; the tag it gets and its value. -/
def resolveText (tag text : String) : String × Resolved :=
  let h := hint text
  if h == '_' || tag == "!!str" then ("!!str", .text text)
  else
    match fixedValue? text with
    | some r => r
    | none =>
      if h == '.' then
        match floatOf? text with
        | some x => ("!!float", .float x)
        | none => ("!!str", .text text)
      else if h == 'D' || h == 'S' then
        if (tag == "" || tag == "!!timestamp") && isTimestamp text then ("!!timestamp", .timestamp text)
        else
          let plain := String.ofList (text.toList.filter (· != '_'))
          match signedAuto plain with
          | some n => ("!!int", .int n)
          | none =>
            match unsignedAuto plain with
            | some n => ("!!int", .uint n)
            | none =>
              match (if isPlainFloat plain then floatOf? plain else none) with
              | some x => ("!!float", .float x)
              | none => ("!!str", .text text)
      else ("!!str", .text text)

/-- Resolves a scalar's text under its tag; the tag it gets and its value, or the fault of a
text that does not fit its tag. -/
def resolve (tag text : String) : Except String (String × Resolved) :=
  let tag := shortTag tag
  if tag == "!!binary" then
    match Text.decodeBase64 text with
    | some bytes => .ok (tag, .text (Text.Bytes.toText bytes))
    | none => .error "!!binary value contains invalid base64 data"
  else if !resolvableTag tag then .ok (tag, .text text)
  else
    let (rtag, value) := resolveText tag text
    if tag == "" || tag == rtag || tag == "!!str" then .ok (rtag, value)
    else if tag == "!!float" && rtag == "!!int" then
      match value with
      | .int n => .ok ("!!float", .float (Number.Binary64.ofRatio (n < 0) n.natAbs 1))
      | _ => .error ("cannot decode " ++ rtag ++ " `" ++ text ++ "` as a " ++ tag)
    else .error ("cannot decode " ++ rtag ++ " `" ++ text ++ "` as a " ++ tag)

/-- The tag a text resolves to with no tag given. -/
def plainTag (text : String) : String := (resolveText "" text).1

end StaticWrap.Settings.Yaml
