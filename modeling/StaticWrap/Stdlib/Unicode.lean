import StaticWrap.Load.Std
/-!
**The catalogue of `unicode/utf8` and `unicode/utf16`.**

Encoding and decoding of UTF-8 and UTF-16 text: the exported functions of each package's one
file, at the lines of their declarations, and the constants of UTF-8. Both are complete.
-/

namespace StaticWrap.Stdlib

open StaticWrap.Load

/-- The package `unicode/utf8`. -/
def utf8 : StdPackage := { path := "unicode/utf8", complete := true, files := [
  { name := "utf8.go", funcs := [
      .at 113 "FullRune(p []byte) bool",
      .at 133 "FullRuneInString(s string) bool",
      .at 157 "DecodeRune(p []byte) (r rune, size int)",
      .at 205 "DecodeRuneInString(s string) (r rune, size int)",
      .at 253 "DecodeLastRune(p []byte) (r rune, size int)",
      .at 293 "DecodeLastRuneInString(s string) (r rune, size int)",
      .at 330 "RuneLen(r rune) int",
      .at 351 "EncodeRune(p []byte, r rune) int",
      .at 386 "AppendRune(p []byte, r rune) []byte",
      .at 412 "RuneCount(p []byte) int",
      .at 452 "RuneCountInString(s string) (n int)",
      .at 491 "RuneStart(b byte) bool",
      .at 494 "Valid(p []byte) bool",
      .at 546 "ValidString(s string) bool",
      .at 595 "ValidRune(r rune) bool"],
    extra := [
      "const RuneError = '\\uFFFD'",
      "const RuneSelf = 0x80",
      "const MaxRune = '\\U0010FFFF'",
      "const UTFMax = 4"] }] }

/-- The package `unicode/utf16`. -/
def utf16 : StdPackage := { path := "unicode/utf16", complete := true, files := [
  { name := "utf16.go", funcs := [
      .at 30 "IsSurrogate(r rune) bool",
      .at 37 "DecodeRune(r1, r2 rune) rune",
      .at 47 "EncodeRune(r rune) (r1, r2 rune)",
      .at 57 "RuneLen(r rune) int",
      .at 69 "Encode(s []rune) []uint16",
      .at 100 "AppendRune(a []uint16, r rune) []uint16",
      .at 116 "Decode(s []uint16) []rune"] }] }

end StaticWrap.Stdlib
