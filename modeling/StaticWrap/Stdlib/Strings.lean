import StaticWrap.Load.Std
/-!
**The catalogue of `strings`.**

Operations on UTF-8 encoded strings: the exported types with their methods, and the
functions by file. The package is complete.
-/

namespace StaticWrap.Stdlib

open StaticWrap.Load

/-- The deprecation of the title-case functions. -/
def titleDeprecation : List String :=
  ["// Deprecated: The rule Title uses for word boundaries does not handle Unicode",
   "// punctuation properly. Use golang.org/x/text/cases instead."]

def strings : StdPackage := { path := "strings", complete := true, files := [
  { name := "builder.go",
    types := [.defined 17 "Builder" (structType ["addr *Builder", "buf []byte"])],
    extra := [
      "func (b *Builder) String() string",
      "func (b *Builder) Len() int",
      "func (b *Builder) Cap() int",
      "func (b *Builder) Reset()",
      "func (b *Builder) Grow(n int)",
      "func (b *Builder) Write(p []byte) (int, error)",
      "func (b *Builder) WriteByte(c byte) error",
      "func (b *Builder) WriteRune(r rune) (int, error)",
      "func (b *Builder) WriteString(s string) (int, error)"] },
  { name := "clone.go", funcs := [
      .at 23 "Clone(s string) string"] },
  { name := "compare.go", funcs := [
      .at 17 "Compare(a, b string) int"] },
  { name := "iter.go", imports := ["iter"], funcs := [
      .at 18 "Lines(s string) iter.Seq[string]",
      .at 70 "SplitSeq(s, sep string) iter.Seq[string]",
      .at 76 "SplitAfterSeq(s, sep string) iter.Seq[string]",
      .at 83 "FieldsSeq(s string) iter.Seq[string]",
      .at 117 "FieldsFuncSeq(s string, f func(rune) bool) iter.Seq[string]"] },
  { name := "reader.go", imports := ["io"],
    types := [.defined 17 "Reader" (structType ["s string", "i int64", "prevRune int"])],
    funcs := [.at 160 "NewReader(s string) *Reader"],
    extra := [
      "func (r *Reader) Len() int",
      "func (r *Reader) Size() int64",
      "func (r *Reader) Read(b []byte) (n int, err error)",
      "func (r *Reader) ReadAt(b []byte, off int64) (n int, err error)",
      "func (r *Reader) ReadByte() (byte, error)",
      "func (r *Reader) UnreadByte() error",
      "func (r *Reader) ReadRune() (ch rune, size int, err error)",
      "func (r *Reader) UnreadRune() error",
      "func (r *Reader) Seek(offset int64, whence int) (int64, error)",
      "func (r *Reader) WriteTo(w io.Writer) (n int64, err error)",
      "func (r *Reader) Reset(s string)"] },
  { name := "replace.go", imports := ["io"],
    types := [.defined 14 "Replacer" (structType ["oldnew []string"])],
    funcs := [.at 32 "NewReplacer(oldnew ...string) *Replacer"],
    extra := [
      "func (r *Replacer) Replace(s string) string",
      "func (r *Replacer) WriteString(w io.Writer, s string) (n int, err error)"] },
  { name := "strings.go", imports := ["unicode"], funcs := [
      .at 50 "Count(s, substr string) int",
      .at 62 "Contains(s, substr string) bool",
      .at 67 "ContainsAny(s, chars string) bool",
      .at 72 "ContainsRune(s string, r rune) bool",
      .at 77 "ContainsFunc(s string, f func(rune) bool) bool",
      .at 82 "LastIndex(s, substr string) int",
      .at 109 "IndexByte(s string, c byte) int",
      .at 120 "IndexRune(s string, r rune) int",
      .at 154 "IndexAny(s, chars string) int",
      .at 178 "LastIndexAny(s, chars string) int",
      .at 214 "LastIndexByte(s string, c byte) int",
      .at 264 "SplitN(s, sep string, n int) []string",
      .at 278 "SplitAfterN(s, sep string, n int) []string",
      .at 294 "Split(s, sep string) []string",
      .at 305 "SplitAfter(s, sep string) []string",
      .at 317 "Fields(s string) []string",
      .at 374 "FieldsFunc(s string, f func(rune) bool) []string",
      .at 420 "Join(elems []string, sep string) string",
      .at 462 "HasPrefix(s, prefix string) bool",
      .at 467 "HasSuffix(s, suffix string) bool",
      .at 475 "Map(mapping func(rune) rune, s string) string",
      .at 567 "Repeat(s string, count int) string",
      .at 620 "ToUpper(s string) string",
      .at 658 "ToLower(s string) string",
      .at 695 "ToTitle(s string) string",
      .at 701 "ToUpperSpecial(c unicode.SpecialCase, s string) string",
      .at 707 "ToLowerSpecial(c unicode.SpecialCase, s string) string",
      .at 713 "ToTitleSpecial(c unicode.SpecialCase, s string) string",
      .at 719 "ToValidUTF8(s, replacement string) string",
      { line := 786, decl := "func Title(s string) string", deprecated := titleDeprecation },
      .at 804 "TrimLeftFunc(s string, f func(rune) bool) string",
      .at 814 "TrimRightFunc(s string, f func(rune) bool) string",
      .at 832 "TrimFunc(s string, f func(rune) bool) string",
      .at 838 "IndexFunc(s string, f func(rune) bool) int",
      .at 844 "LastIndexFunc(s string, f func(rune) bool) int",
      .at 921 "Trim(s, cutset string) string",
      .at 938 "TrimLeft(s, cutset string) string",
      .at 983 "TrimRight(s, cutset string) string",
      .at 1030 "TrimSpace(s string) string",
      .at 1067 "TrimPrefix(s, prefix string) string",
      .at 1077 "TrimSuffix(s, suffix string) string",
      .at 1089 "Replace(s, old, new string, n int) string",
      .at 1138 "ReplaceAll(s, old, new string) string",
      .at 1145 "EqualFold(s, t string) bool",
      .at 1218 "Index(s, substr string) int",
      .at 1291 "Cut(s, sep string) (before, after string, found bool)",
      .at 1305 "CutPrefix(s, prefix string) (after string, found bool)",
      .at 1317 "CutSuffix(s, suffix string) (before string, found bool)"] }] }

end StaticWrap.Stdlib
