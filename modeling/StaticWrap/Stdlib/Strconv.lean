import StaticWrap.Load.Std
/-!
**The catalogue of `strconv`.**

Conversions between strings and the basic types: every exported function, at the line of its
declaration in each file, and the errors the parsers report. The package is complete.
-/

namespace StaticWrap.Stdlib

open StaticWrap.Load

def strconv : StdPackage := { path := "strconv", complete := true, files := [
  { name := "atob.go", funcs := [
      .at 10 "ParseBool(str string) (bool, error)",
      .at 21 "FormatBool(b bool) string",
      .at 30 "AppendBool(dst []byte, b bool) []byte"] },
  { name := "atoc.go", funcs := [
      .at 44 "ParseComplex(s string, bitSize int) (complex128, error)"] },
  { name := "atof.go", funcs := [
      .at 694 "ParseFloat(s string, bitSize int) (float64, error)"] },
  { name := "atoi.go", imports := ["errors"],
    types := [.defined 26 "NumError" (structType ["Func string", "Num string", "Err error"])],
    funcs := [
      .at 73 "ParseUint(s string, base int, bitSize int) (uint64, error)",
      .at 197 "ParseInt(s string, base int, bitSize int) (i int64, err error)",
      .at 243 "Atoi(s string) (int, error)"],
    extra := [
      "var ErrRange = errors.New(\"value out of range\")",
      "var ErrSyntax = errors.New(\"invalid syntax\")",
      "func (e *NumError) Error() string",
      "func (e *NumError) Unwrap() error",
      "const intSize = 64",
      "const IntSize = intSize"] },
  { name := "ctoa.go", funcs := [
      .at 14 "FormatComplex(c complex128, fmt byte, prec, bitSize int) string"] },
  { name := "ftoa.go", funcs := [
      .at 49 "FormatFloat(f float64, fmt byte, prec, bitSize int) string",
      .at 55 "AppendFloat(dst []byte, f float64, fmt byte, prec, bitSize int) []byte"] },
  { name := "itoa.go", funcs := [
      .at 14 "FormatUint(i uint64, base int) string",
      .at 25 "FormatInt(i int64, base int) string",
      .at 34 "Itoa(i int) string",
      .at 40 "AppendInt(dst []byte, i int64, base int) []byte",
      .at 50 "AppendUint(dst []byte, i uint64, base int) []byte"] },
  { name := "quote.go", funcs := [
      .at 125 "Quote(s string) string",
      .at 131 "AppendQuote(dst []byte, s string) []byte",
      .at 138 "QuoteToASCII(s string) string",
      .at 144 "AppendQuoteToASCII(dst []byte, s string) []byte",
      .at 152 "QuoteToGraphic(s string) string",
      .at 158 "AppendQuoteToGraphic(dst []byte, s string) []byte",
      .at 167 "QuoteRune(r rune) string",
      .at 173 "AppendQuoteRune(dst []byte, r rune) []byte",
      .at 183 "QuoteRuneToASCII(r rune) string",
      .at 189 "AppendQuoteRuneToASCII(dst []byte, r rune) []byte",
      .at 199 "QuoteRuneToGraphic(r rune) string",
      .at 205 "AppendQuoteRuneToGraphic(dst []byte, r rune) []byte",
      .at 212 "CanBackquote(s string) bool",
      .at 259 "UnquoteChar(s string, quote byte) (value rune, multibyte bool, tail string, err error)",
      .at 372 "QuotedPrefix(s string) (string, error)",
      .at 383 "Unquote(s string) (string, error)",
      .at 522 "IsPrint(r rune) bool",
      .at 568 "IsGraphic(r rune) bool"] }] }

end StaticWrap.Stdlib
