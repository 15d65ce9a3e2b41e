import StaticWrap.Text.Basic
import StaticWrap.Number.Binary64
/-!
**Durations written with units.**

A duration is a whole number of nanoseconds. Its text is an optional sign and one or more
decimal numbers, each followed by a unit (`ns`, `us` or `µs`, `ms`, `s`, `m`, `h`), as in
`300ms`, `1h30m` or `1.5s`; `0` alone is zero.

* `parseDuration`: the nanoseconds a text names, or the fault. The nanoseconds of a fraction
  are computed in binary64 arithmetic (the fraction's digits times the unit over the power of
  ten, each step rounded) and cut to a whole number; a total beyond the signed 64-bit range is
  refused. The faults quote the text
  with every byte outside printable ASCII written as `\xNN`.
* `nanosText`: the shortest text of a duration: `0s`; below one second a single unit
  (`300ms`, `1.5µs`, `12ns`); otherwise hours, minutes and seconds with the zero tail of the
  fraction dropped (`1h0m0s`, `2m3.5s`).
-/

namespace StaticWrap.Text

/-- Two to the sixty-third: one more than the largest signed 64-bit number. -/
def twoPow63 : Nat := Nat.pow 2 63

def unitNanos : String → Option Nat
  | "ns" => some 1
  | "us" => some 1000
  | "µs" => some 1000
  | "μs" => some 1000
  | "ms" => some 1000000
  | "s" => some 1000000000
  | "m" => some 60000000000
  | "h" => some 3600000000000
  | _ => none

/-- A text in double quotes, a quote or backslash escaped and every byte of a character
outside printable ASCII written in hexadecimal. -/
def durationQuote (s : String) : String :=
  let hex (n : Nat) : Char := "0123456789abcdef".toList.getD n '0'
  let one (c : Char) : String :=
    if c.toNat < 32 || c.toNat ≥ 128 then
      String.join ((String.singleton c).toUTF8.toList.map fun b =>
        "\\x" ++ String.singleton (hex (b.toNat / 16)) ++ String.singleton (hex (b.toNat % 16)))
    else if c == '"' || c == '\\' then "\\" ++ String.singleton c
    else String.singleton c
  "\"" ++ String.join (s.toList.map one) ++ "\""

/-- The value of a run of digits. -/
def digitsValue (ds : List Char) : Nat :=
  ds.foldl (fun acc d => acc * 10 + (d.toNat - 48)) 0

/-- The digits of a fraction as a numerator and a power of ten, reading digits only while the
numerator stays within 64 bits; later digits are ignored. -/
def fractionValue (ds : List Char) : Nat × Nat :=
  let step (st : Nat × Nat × Bool) (d : Char) : Nat × Nat × Bool :=
    let (x, scale, full) := st
    if full then st
    else if x > (twoPow63 - 1) / 10 then (x, scale, true)
    else
      let y := x * 10 + (d.toNat - 48)
      if y > twoPow63 then (x, scale, true) else (y, scale * 10, false)
  let (x, scale, _) := ds.foldl step (0, 1, false)
  (x, scale)

/-- The whole nanoseconds of the fraction `f / scale` of a unit of `u` nanoseconds, computed
in binary64 arithmetic as `f · (u / scale)`. -/
def fractionNanos (f u scale : Nat) : Nat :=
  let x := (Number.Binary64.ofNat f).mul ((Number.Binary64.ofNat u).div (Number.Binary64.ofNat scale))
  (x.truncate?.getD 0).toNat

/-- A character that ends a unit: a digit or a point. -/
def endsUnit (c : Char) : Bool := c.isDigit || c == '.'

/-- The fault for a text that is not a duration. -/
def invalidDuration (orig : String) : String := "time: invalid duration " ++ durationQuote orig

/-- Adds the numbers of a duration text to `total`; `fuel` bounds the number of terms. -/
def durationTerms (orig : String) : Nat → Nat → List Char → Except String Nat
  | _, total, [] => .ok total
  | 0, _, _ => .error (invalidDuration orig)
  | fuel + 1, total, l@(c :: _) =>
    if !(c == '.' || c.isDigit) then .error (invalidDuration orig)
    else
      let whole := l.takeWhile Char.isDigit
      let rest := l.dropWhile Char.isDigit
      let (frac, afterFrac, post) := match rest with
        | '.' :: r => (r.takeWhile Char.isDigit, r.dropWhile Char.isDigit, !(r.takeWhile Char.isDigit).isEmpty)
        | r => ([], r, false)
      let v := digitsValue whole
      if v > twoPow63 then .error (invalidDuration orig)
      else if whole.isEmpty && !post then .error (invalidDuration orig)
      else
        let unit := afterFrac.takeWhile (!endsUnit ·)
        let next := afterFrac.dropWhile (!endsUnit ·)
        if unit.isEmpty then .error ("time: missing unit in duration " ++ durationQuote orig)
        else match unitNanos (String.ofList unit) with
          | none =>
            .error ("time: unknown unit " ++ durationQuote (String.ofList unit) ++ " in duration " ++
              durationQuote orig)
          | some u =>
            if v > twoPow63 / u then .error (invalidDuration orig)
            else
              let (f, scale) := fractionValue frac
              let v := v * u + (if f > 0 then fractionNanos f u scale else 0)
              if v > twoPow63 then .error (invalidDuration orig)
              else
                let total := total + v
                if total > twoPow63 then .error (invalidDuration orig)
                else durationTerms orig fuel total next

/-- The nanoseconds a duration text names. -/
def parseDuration (s : String) : Except String Int :=
  let (neg, body) := match s.toList with
    | '-' :: r => (true, r)
    | '+' :: r => (false, r)
    | r => (false, r)
  if body == ['0'] then .ok 0
  else if body.isEmpty then .error (invalidDuration s)
  else do
    let d ← durationTerms s body.length 0 body
    if neg then pure (-(d : Int))
    else if d > twoPow63 - 1 then .error (invalidDuration s)
    else pure d

/-- The digits of `v / 10^places` with `places` fraction digits, the zero tail of the
fraction and a bare point dropped. -/
def decimalText (v places : Nat) : String :=
  let whole := v / Nat.pow 10 places
  let frac := v % Nat.pow 10 places
  let digits := (toString frac).toList
  let padded := List.replicate (places - digits.length) '0' ++ digits
  let kept := (padded.reverse.dropWhile (· == '0')).reverse
  toString whole ++ (if kept.isEmpty then "" else "." ++ String.ofList kept)

/-- The shortest text of a duration. -/
def nanosText (d : Int) : String :=
  let sign := if d < 0 then "-" else ""
  let u := d.natAbs
  if u == 0 then "0s"
  else if u < 1000 then sign ++ toString u ++ "ns"
  else if u < 1000000 then sign ++ decimalText u 3 ++ "µs"
  else if u < 1000000000 then sign ++ decimalText u 6 ++ "ms"
  else
    let secs := u / 1000000000
    let secText := decimalText (u % 60000000000) 9 ++ "s"
    let hours := secs / 3600
    let minutes := secs / 60 % 60
    if hours > 0 then sign ++ toString hours ++ "h" ++ toString minutes ++ "m" ++ secText
    else if secs ≥ 60 then sign ++ toString minutes ++ "m" ++ secText
    else sign ++ secText

end StaticWrap.Text
