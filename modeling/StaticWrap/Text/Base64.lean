import StaticWrap.Text.Utf8
/-!
**Reading base64.**

The standard alphabet (`A`–`Z`, `a`–`z`, `0`–`9`, `+`, `/`) with `=` padding: every group of four
characters gives three bytes, and only the last group may end in one or two `=`, giving two or
one bytes. Line breaks (`\n` and `\r`) anywhere are skipped. A text whose length (without line
breaks) is not a multiple of four, a character outside the alphabet, or padding anywhere but at
the end is not base64. The bits of a padded group that no byte uses are ignored.
-/

namespace StaticWrap.Text

/-- The six bits a character of the alphabet stands for. -/
def base64Digit? (c : Char) : Option Nat :=
  if 'A' ≤ c && c ≤ 'Z' then some (c.toNat - 'A'.toNat)
  else if 'a' ≤ c && c ≤ 'z' then some (c.toNat - 'a'.toNat + 26)
  else if '0' ≤ c && c ≤ '9' then some (c.toNat - '0'.toNat + 52)
  else if c == '+' then some 62
  else if c == '/' then some 63
  else none

/-- The bytes of groups of four characters; `none` when they are not base64. -/
def base64Groups : List Char → Option Bytes
  | [] => some []
  | [a, b, '=', '='] => do
    let x ← base64Digit? a
    let y ← base64Digit? b
    pure [UInt8.ofNat (x * 4 + y / 16)]
  | [a, b, c, '='] => do
    let x ← base64Digit? a
    let y ← base64Digit? b
    let z ← base64Digit? c
    pure [UInt8.ofNat (x * 4 + y / 16), UInt8.ofNat ((y % 16) * 16 + z / 4)]
  | a :: b :: c :: d :: rest => do
    let x ← base64Digit? a
    let y ← base64Digit? b
    let z ← base64Digit? c
    let t ← base64Digit? d
    let more ← base64Groups rest
    pure (UInt8.ofNat (x * 4 + y / 16) :: UInt8.ofNat ((y % 16) * 16 + z / 4) ::
      UInt8.ofNat ((z % 4) * 64 + t) :: more)
  | _ => none

/-- The bytes a base64 text stands for, line breaks skipped; `none` when it is not base64. -/
def decodeBase64 (s : String) : Option Bytes :=
  base64Groups (s.toList.filter fun c => c != '\n' && c != '\r')

end StaticWrap.Text
