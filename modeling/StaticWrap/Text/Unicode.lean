import StaticWrap.Text.Tables
/-!
**Character classes and case maps of Unicode.**

The program treats names, paths and comments as Unicode text: an identifier is a letter or `_`
followed by letters, digits and `_`; an exported name starts with an upper-case letter; quoted
text keeps printable characters and escapes the rest; blank space is trimmed with the Unicode
notion of white space.

The classes and case maps are those of Unicode 15.0 (`Text.Tables`); ASCII is decided without
the tables.

* `isLetter`, `isDigit`, `isUpper`: the general categories L, Nd, Lu.
* `toUpper`, `toLower`: the simple case maps (one character to one character); a
  character without a mapping is left alone.
* `isSpace`: white space (the ASCII blanks, `U+0085`, `U+00A0` and the separators Z).
* `isPrint`: letters, marks, numbers, punctuation, symbols and the ASCII space.
-/

namespace StaticWrap.Text

/-- A code point lies in one of the table's ranges. -/
def Ranges.contains (table : Ranges) (n : Nat) : Bool :=
  table.any fun r => r.1 ≤ n && n ≤ r.2

/-- A code point is one of those a strided table holds. -/
def StridedRanges.contains (table : StridedRanges) (n : Nat) : Bool :=
  table.any fun r => r.1 ≤ n && n ≤ r.2.1 && (n - r.1) % r.2.2 == 0

/-- Letters of general category L. -/
def isLetter (c : Char) : Bool :=
  let n := c.toNat
  if n < 0x80 then ('a' ≤ c && c ≤ 'z') || ('A' ≤ c && c ≤ 'Z')
  else letterRanges.contains n

/-- Decimal digits of general category Nd. -/
def isDigit (c : Char) : Bool :=
  let n := c.toNat
  if n < 0x80 then '0' ≤ c && c ≤ '9' else digitRanges.contains n

/-- Upper-case letters (category Lu). -/
def isUpper (c : Char) : Bool :=
  let n := c.toNat
  if n < 0x80 then 'A' ≤ c && c ≤ 'Z' else upperRanges.contains n

/-- Which of the two case maps is meant. -/
inductive CaseMap where
  | upper
  | lower

/-- The image of a code point under a case map, by the case table: a shifted code point moves
by the map's offset; in an alternating range the even offsets from the start are upper case and
the odd ones lower case, so the upper form clears the low bit of the offset and the lower form
sets it. -/
def mapCode (m : CaseMap) (n : Nat) : Nat :=
  match caseRanges.find? (fun r => r.1 ≤ n && n ≤ r.2.1) with
  | none => n
  | some (lo, _, .alternating) =>
    let base := lo + (n - lo) / 2 * 2
    match m with
    | .lower => base + 1
    | .upper => base
  | some (_, _, .shift u l) =>
    let d : Int := match m with
      | .upper => u
      | .lower => l
    ((n : Int) + d).toNat

/-- The code point as a character, or the character itself when it is not valid. -/
def charOf (c : Char) (n : Nat) : Char :=
  if n.isValidChar then Char.ofNat n else c

/-- The simple upper-case map. -/
def toUpper (c : Char) : Char :=
  if c.toNat < 0x80 then c.toUpper else charOf c (mapCode .upper c.toNat)

/-- The simple lower-case map. -/
def toLower (c : Char) : Char :=
  if c.toNat < 0x80 then c.toLower else charOf c (mapCode .lower c.toNat)

/-- White space: the ASCII blanks, `U+0085`, `U+00A0` and the space separators. -/
def isSpace (c : Char) : Bool :=
  let n := c.toNat
  n == 0x20 || (0x09 ≤ n && n ≤ 0x0D) || n == 0x85 || n == 0xA0 || n == 0x1680
    || (0x2000 ≤ n && n ≤ 0x200A) || n == 0x2028 || n == 0x2029 || n == 0x202F
    || n == 0x205F || n == 0x3000

/-- Printable characters: letters, marks, numbers, punctuation, symbols and the ASCII space. -/
def isPrint (c : Char) : Bool :=
  let n := c.toNat
  if n < 0x80 then 0x20 ≤ n && n < 0x7F
  else letterRanges.contains n || otherPrintRanges.contains n

end StaticWrap.Text
