/-!
**Byte strings read as UTF-8.**

Some rules of the program work on the bytes of a text rather than on its characters: a cut at
a byte offset may fall inside a character, and what is left is read back with the replacement
character `U+FFFD` standing for each byte that does not start a well-formed character.

* `Bytes.decode`: the first character of a byte string and its width in bytes. A well-formed
  sequence (no overlong form, no surrogate, nothing above `U+10FFFF`) gives its code point; any
  other first byte gives `U+FFFD` of width 1, and the empty string gives `U+FFFD` of width 0.
* `Bytes.runes`: the characters in order, each with its byte offset and width.
* `Bytes.indexOf?`, `Bytes.lastIndexOf?`: the first and the last byte offset of a part.
* `Bytes.toText`: the text of a byte string, each ill-formed byte read as `U+FFFD`.
-/

namespace StaticWrap.Text

/-- A byte string. -/
abbrev Bytes := List UInt8

/-- The code point read for a byte that does not start a well-formed character. -/
def replacementCode : Nat := 0xFFFD

def Bytes.ofText (s : String) : Bytes := s.toUTF8.toList

/-- A byte lies between two bounds. -/
def byteIn (lo hi : UInt8) (b : UInt8) : Bool := lo ≤ b && b ≤ hi

/-- The low six bits of a continuation byte. -/
def contBits (b : UInt8) : Nat := b.toNat % 64

/-- The first character of a byte string and the number of bytes it takes. -/
def Bytes.decode : Bytes → Nat × Nat
  | [] => (replacementCode, 0)
  | b0 :: rest =>
    if b0 < 0x80 then (b0.toNat, 1)
    else if b0 < 0xC2 then (replacementCode, 1)
    else if b0 < 0xE0 then
      match rest with
      | b1 :: _ =>
        if byteIn 0x80 0xBF b1 then ((b0.toNat % 32) * 64 + contBits b1, 2)
        else (replacementCode, 1)
      | [] => (replacementCode, 1)
    else if b0 < 0xF0 then
      let lo := if b0 == 0xE0 then 0xA0 else 0x80
      let hi := if b0 == 0xED then 0x9F else 0xBF
      match rest with
      | b1 :: b2 :: _ =>
        if byteIn lo hi b1 && byteIn 0x80 0xBF b2 then
          ((b0.toNat % 16) * 4096 + contBits b1 * 64 + contBits b2, 3)
        else (replacementCode, 1)
      | _ => (replacementCode, 1)
    else if b0 < 0xF5 then
      let lo := if b0 == 0xF0 then 0x90 else 0x80
      let hi := if b0 == 0xF4 then 0x8F else 0xBF
      match rest with
      | b1 :: b2 :: b3 :: _ =>
        if byteIn lo hi b1 && byteIn 0x80 0xBF b2 && byteIn 0x80 0xBF b3 then
          ((b0.toNat % 8) * 262144 + contBits b1 * 4096 + contBits b2 * 64 + contBits b3, 4)
        else (replacementCode, 1)
      | _ => (replacementCode, 1)
    else (replacementCode, 1)

/-- The number of bytes the encoding of a code point takes. -/
def codeWidth (r : Nat) : Nat :=
  if r < 0x80 then 1 else if r < 0x800 then 2 else if r < 0x10000 then 3 else 4

/-- The characters of a byte string from byte offset `off` on: offset, code point and width.
Each step takes at least one byte, so the length of the string is enough fuel. -/
def Bytes.runesFrom : Nat → Nat → Bytes → List (Nat × Nat × Nat)
  | 0, _, _ => []
  | _, _, [] => []
  | fuel + 1, off, b :: rest =>
    let (r, w) := Bytes.decode (b :: rest)
    (off, r, w) :: Bytes.runesFrom fuel (off + w) ((b :: rest).drop w)

/-- The characters of a byte string: byte offset, code point and width of each. -/
def Bytes.runes (s : Bytes) : List (Nat × Nat × Nat) := Bytes.runesFrom s.length 0 s

/-- The number of characters of a byte string. -/
def Bytes.runeCount (s : Bytes) : Nat := (Bytes.runes s).length

/-- The part occurs at the start of the byte string. -/
def Bytes.startsWith (s part : Bytes) : Bool := part.isPrefixOf s

/-- The part occurs at the end of the byte string. -/
def Bytes.endsWith (s part : Bytes) : Bool := part.reverse.isPrefixOf s.reverse

/-- The first byte offset at or after `off` where the part occurs. -/
def Bytes.indexFrom (part : Bytes) (off : Nat) : Bytes → Option Nat
  | [] => if part.isEmpty then some off else none
  | b :: rest =>
    if part.isPrefixOf (b :: rest) then some off else Bytes.indexFrom part (off + 1) rest

/-- The first byte offset where the part occurs; the empty part occurs at 0. -/
def Bytes.indexOf? (s part : Bytes) : Option Nat := Bytes.indexFrom part 0 s

/-- The last byte offset where the part occurs; the empty part occurs at the end. -/
def Bytes.lastIndexOf? (s part : Bytes) : Option Nat :=
  ((List.range (s.length + 1)).filter fun i => part.isPrefixOf (s.drop i)).getLast?

/-- The text of a byte string, each ill-formed byte read as `U+FFFD`. -/
def Bytes.toText (s : Bytes) : String :=
  String.ofList ((Bytes.runes s).map fun (_, r, _) => Char.ofNat r)

end StaticWrap.Text
