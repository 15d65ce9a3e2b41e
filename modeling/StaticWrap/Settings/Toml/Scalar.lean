import StaticWrap.Settings.Toml.Grammar
import StaticWrap.Settings.Value
import StaticWrap.Number.Literal
/-!
**The numbers, dates and times of TOML documents.**

The grammar keeps numbers, dates and times as written; this module reads them into values.

* Integers: decimal (an optional sign, no leading zero), or hexadecimal, octal or binary after
  `0x`, `0o`, `0b`. An underscore must stand between two digits. The value must fit in 64 signed
  bits.
* Floats: a decimal number with a point (a digit on either side of it) or an exponent, or
  `inf` and `nan` with an optional sign; the same rule for underscores, and none next to the
  point or the exponent mark; no leading zero in the whole part.
* Dates and times: `YYYY-MM-DD`, `HH:MM:SS[.fraction]`, both joined by `T`, `t` or a space,
  optionally with a zone `Z` or `±HH:MM`. The date must exist, the hour be below 24, the
  minute below 60, the second at most 60. They read as values of their kind, which the
  settings cannot use as text.

The faults carry the reader's messages, among them those of the number reading itself:
``couldn't parse decimal number: strconv.ParseInt: parsing "…": value out of range``.
-/

namespace StaticWrap.Settings.Toml

/-- The text of a fault of reading a whole number. -/
def intFault (s reason : String) : String :=
  "strconv.ParseInt: parsing " ++ Text.quote s ++ ": " ++ reason

/-- Reads a whole number in a base, with an optional sign, as a signed 64-bit number; the fault
is `invalid syntax` or `value out of range`, whichever the digits meet first. -/
def parseInt64 (s : String) (base : Nat) : Except String Int :=
  let cs := s.toList
  let (neg, digits) := match cs with
    | '+' :: r => (false, r)
    | '-' :: r => (true, r)
    | r => (false, r)
  let limit : Nat := Nat.pow 2 64
  let step (acc : Except String Nat) (c : Char) : Except String Nat := acc.bind fun n =>
    let d := if '0' ≤ c && c ≤ '9' then c.toNat - 48
      else if 'a' ≤ Number.lowerAscii c && Number.lowerAscii c ≤ 'z' then (Number.lowerAscii c).toNat - 87
      else 99
    if d ≥ base then .error "invalid syntax"
    else if n * base + d ≥ limit then .error "value out of range"
    else .ok (n * base + d)
  if digits.isEmpty then .error (intFault s "invalid syntax")
  else
    match digits.foldl step (.ok 0) with
    | .error reason => .error (intFault s reason)
    | .ok n =>
      if !neg && n ≥ Nat.pow 2 63 then .error (intFault s "value out of range")
      else if neg && n > Nat.pow 2 63 then .error (intFault s "value out of range")
      else .ok (if neg then -(n : Int) else n)

/-- Removes the underscores of an integer, each of which must stand between two digits. -/
def integerDigits (cs : List Char) : Except String (List Char) :=
  let start := match cs with
    | '+' :: _ | '-' :: _ => 1
    | _ => 0
  if cs.length == start then .ok cs
  else if cs.getD start ' ' == '_' then .error "number cannot start with underscore"
  else if cs.getLast? == some '_' then .error "number cannot end with underscore"
  else if !cs.contains '_' then .ok cs
  else
    let step (acc : Except String (List Char × Bool)) (c : Char) : Except String (List Char × Bool) :=
      acc.bind fun (out, before) =>
        if c == '_' then
          if before then .ok (out, false) else .error "number must have at least one digit between underscores"
        else .ok (c :: out, true)
    -- the characters before the first underscore are kept as they are
    let first := cs.takeWhile (· != '_')
    match (cs.drop (first.length + 1)).foldl step (.ok (first.reverse, false)) with
    | .ok (out, _) => .ok out.reverse
    | .error e => .error e

/-- Reads an integer as written. -/
def readInteger (text : String) : Except String Int :=
  let cs := text.toList
  let based (name : String) (base : Nat) : Except String Int := do
    let ds ← integerDigits (cs.drop 2)
    match parseInt64 (String.ofList ds) base with
    | .ok n => pure n
    | .error e => throw ("couldn't parse " ++ name ++ " number: " ++ e)
  match cs with
  | '0' :: 'x' :: _ :: _ => based "hexadecimal" 16
  | '0' :: 'b' :: _ :: _ => based "binary" 2
  | '0' :: 'o' :: _ :: _ => based "octal" 8
  | _ => do
    let ds ← integerDigits cs
    let start := match ds with
      | '+' :: _ | '-' :: _ => 1
      | _ => 0
    if ds.length > start + 1 && ds.getD start ' ' == '0' then
      throw "leading zero not allowed on decimal number"
    match parseInt64 (String.ofList ds) 10 with
    | .ok n => pure n
    | .error e => throw ("couldn't parse decimal number: " ++ e)

/-- Removes the underscores of a float, each of which must stand between two digits and not
next to the point or the exponent mark. -/
def floatDigits (cs : List Char) : Except String (List Char) :=
  if cs.head? == some '_' then .error "number cannot start with underscore"
  else if cs.getLast? == some '_' then .error "number cannot end with underscore"
  else if !cs.contains '_' then .ok cs
  else
    let rec go : List Char → Bool → Option Char → Except String (List Char)
      | [], _, _ => .ok []
      | c :: rest, before, prev =>
        let next := rest.head?
        if c == '_' then
          if !before then .error "number must have at least one digit between underscores"
          else if next == some 'e' || next == some 'E' then .error "cannot have underscore before exponent"
          else go rest false (some c)
        else if c == '+' || c == '-' then (c :: ·) <$> go rest false (some c)
        else if c == 'e' || c == 'E' then
          if next == some '_' then .error "cannot have underscore after exponent"
          else (c :: ·) <$> go rest before (some c)
        else if c == '.' then
          if next == some '_' then .error "cannot have underscore after decimal point"
          else if prev == some '_' then .error "cannot have underscore before decimal point"
          else (c :: ·) <$> go rest before (some c)
        else (c :: ·) <$> go rest true (some c)
    go cs false none

/-- Checks the points of a float's digits: at most one, with a digit on either side. -/
def checkPoints (ds : List Char) : Except String Unit :=
  let step (seen : Bool) (i : Nat) : Except String Bool :=
    if ds.getD i ' ' == '.' then
      if seen then .error "float can have at most one decimal point"
      else if !isDigit (ds.getD (i - 1) ' ') then .error "float decimal point must be preceded by a digit"
      else if !isDigit (ds.getD (i + 1) ' ') then .error "float decimal point must be followed by a digit"
      else .ok true
    else .ok seen
  ((List.range ds.length).foldlM step false).map fun _ => ()

/-- Reads a float as written. -/
def readFloat (text : String) : Except String Number.Binary64 := do
  let cs := text.toList
  if cs == "+nan".toList || cs == "-nan".toList then return .nan
  let ds ← floatDigits cs
  if ds.head? == some '.' then throw "float cannot start with a dot"
  if ds.getLast? == some '.' then throw "float cannot end with a dot"
  checkPoints ds
  let start := match ds with
    | '+' :: _ | '-' :: _ => 1
    | _ => 0
  if ds.getD start ' ' == '0' && ds.length > start + 1 && isDigit (ds.getD (start + 1) ' ') then
    throw "float integer part cannot have leading zeroes"
  let s := String.ofList ds
  match Number.readFloat s with
  | .ok x => pure x
  | .error .malformed =>
    throw ("unable to parse float: strconv.ParseFloat: parsing " ++ Text.quote s ++ ": invalid syntax")
  | .error (.outOfRange _) =>
    throw ("unable to parse float: strconv.ParseFloat: parsing " ++ Text.quote s ++ ": value out of range")

/-- Reads a run of decimal digits. -/
def decimalDigits (cs : List Char) : Except String Nat :=
  cs.foldlM (fun n c => if isDigit c then .ok (n * 10 + (c.toNat - 48)) else .error "expected digit (0-9)") 0

def isLeap (year : Nat) : Bool := year % 4 == 0 && (year % 100 != 0 || year % 400 == 0)

/-- The number of days of a month. -/
def daysIn (month year : Nat) : Nat :=
  if month == 2 then (if isLeap year then 29 else 28)
  else if month == 4 || month == 6 || month == 9 || month == 11 then 30
  else 31

/-- Checks a date `YYYY-MM-DD`. -/
def checkDate (cs : List Char) : Except String Unit := do
  if cs.length != 10 || cs.getD 4 ' ' != '-' || cs.getD 7 ' ' != '-' then
    throw "dates are expected to have the format YYYY-MM-DD"
  let year ← decimalDigits (cs.take 4)
  let month ← decimalDigits ((cs.drop 5).take 2)
  let day ← decimalDigits ((cs.drop 8).take 2)
  if !(month > 0 && month < 13 && day > 0 && day ≤ daysIn month year) then throw "impossible date"

/-- Checks a time `HH:MM:SS[.fraction]` at the front; the rest after it. -/
def checkTime (cs : List Char) : Except String (List Char) := do
  if cs.length < 8 then throw "times are expected to have the format HH:MM:SS[.NNNNNN]"
  let hour ← decimalDigits (cs.take 2)
  if hour > 23 then throw "hour cannot be greater 23"
  if cs.getD 2 ' ' != ':' then throw "expecting colon between hours and minutes"
  let minute ← decimalDigits ((cs.drop 3).take 2)
  if minute > 59 then throw "minutes cannot be greater 59"
  if cs.getD 5 ' ' != ':' then throw "expecting colon between minutes and seconds"
  let second ← decimalDigits ((cs.drop 6).take 2)
  if second > 60 then throw "seconds cannot be greater 60"
  let rest := cs.drop 8
  match rest with
  | '.' :: more =>
    let digits := more.takeWhile isDigit
    if digits.isEmpty then throw "need at least one digit after fraction point"
    pure (more.drop digits.length)
  | _ => pure rest

/-- Checks a local date and time at the front; the rest after it. -/
def checkDateTime (cs : List Char) : Except String (List Char) := do
  if cs.length < 11 then
    throw "local datetimes are expected to have the format YYYY-MM-DDTHH:MM:SS[.NNNNNNNNN]"
  checkDate (cs.take 10)
  let sep := cs.getD 10 ' '
  if sep != 'T' && sep != ' ' && sep != 't' then
    throw "datetime separator is expected to be T or a space"
  checkTime (cs.drop 11)

/-- Checks a zone `Z` or `±HH:MM` that ends the text. -/
def checkZone (cs : List Char) : Except String Unit := do
  let rest ← match cs with
    | 'Z' :: r | 'z' :: r => pure r
    | _ => do
      if cs.length != 6 then throw "invalid date-time timezone"
      let sign := cs.getD 0 ' '
      if sign != '-' && sign != '+' then throw "invalid timezone offset character"
      if cs.getD 3 ' ' != ':' then throw "expected a : separator"
      let hours ← decimalDigits ((cs.drop 1).take 2)
      if hours > 23 then throw "invalid timezone offset hours"
      let minutes ← decimalDigits ((cs.drop 4).take 2)
      if minutes > 59 then throw "invalid timezone offset minutes"
      pure (cs.drop 6)
  if !rest.isEmpty then throw "extra bytes at the end of the timezone"

/-- The value of a date or time of a kind, as written. -/
def readMoment (kind : MomentKind) (text : String) : Except String Value := do
  let cs := text.toList
  match kind with
  | .localDate =>
    checkDate cs
    pure (.moment "toml.LocalDate")
  | .localTime =>
    let rest ← checkTime cs
    if !rest.isEmpty then throw "extra characters at the end of a local time"
    pure (.moment "toml.LocalTime")
  | .localDateTime =>
    let rest ← checkDateTime cs
    if !rest.isEmpty then throw "extra characters at the end of a local date time"
    pure (.moment "toml.LocalDateTime")
  | .dateTime =>
    let rest ← checkDateTime cs
    if rest.isEmpty then throw "date time should have a timezone"
    checkZone rest
    pure (.moment "time.Time")

end StaticWrap.Settings.Toml
