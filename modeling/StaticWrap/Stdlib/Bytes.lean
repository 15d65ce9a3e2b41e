import StaticWrap.Load.Std
import StaticWrap.Stdlib.Strings
/-!
**The catalogue of `bytes`.**

Operations on byte slices: the exported types with their methods, and the functions by
file. The package is complete.
-/

namespace StaticWrap.Stdlib

open StaticWrap.Load

def bytes : StdPackage := { path := "bytes", complete := true, files := [
  { name := "buffer.go", imports := ["errors", "io"],
    types := [.defined 20 "Buffer" (structType ["buf []byte", "off int", "lastRead int8"])],
    funcs := [
      .at 478 "NewBuffer(buf []byte) *Buffer",
      .at 486 "NewBufferString(s string) *Buffer"],
    extra := [
      "const MinRead = 512",
      "var ErrTooLarge = errors.New(\"bytes.Buffer: too large\")",
      "func (b *Buffer) Bytes() []byte",
      "func (b *Buffer) AvailableBuffer() []byte",
      "func (b *Buffer) String() string",
      "func (b *Buffer) Len() int",
      "func (b *Buffer) Cap() int",
      "func (b *Buffer) Available() int",
      "func (b *Buffer) Truncate(n int)",
      "func (b *Buffer) Reset()",
      "func (b *Buffer) Grow(n int)",
      "func (b *Buffer) Write(p []byte) (n int, err error)",
      "func (b *Buffer) WriteString(s string) (n int, err error)",
      "func (b *Buffer) ReadFrom(r io.Reader) (n int64, err error)",
      "func (b *Buffer) WriteTo(w io.Writer) (n int64, err error)",
      "func (b *Buffer) WriteByte(c byte) error",
      "func (b *Buffer) WriteRune(r rune) (n int, err error)",
      "func (b *Buffer) Read(p []byte) (n int, err error)",
      "func (b *Buffer) Next(n int) []byte",
      "func (b *Buffer) ReadByte() (byte, error)",
      "func (b *Buffer) ReadRune() (r rune, size int, err error)",
      "func (b *Buffer) UnreadRune() error",
      "func (b *Buffer) UnreadByte() error",
      "func (b *Buffer) ReadBytes(delim byte) (line []byte, err error)",
      "func (b *Buffer) ReadString(delim byte) (line string, err error)"] },
  { name := "bytes.go", imports := ["unicode"], funcs := [
      .at 20 "Equal(a, b []byte) bool",
      .at 29 "Compare(a, b []byte) int",
      .at 55 "Count(s, sep []byte) int",
      .at 64 "Contains(b, subslice []byte) bool",
      .at 69 "ContainsAny(b []byte, chars string) bool",
      .at 74 "ContainsRune(b []byte, r rune) bool",
      .at 79 "ContainsFunc(b []byte, f func(rune) bool) bool",
      .at 84 "IndexByte(b []byte, c byte) int",
      .at 100 "LastIndex(s, sep []byte) int",
      .at 127 "LastIndexByte(s []byte, c byte) int",
      .at 137 "IndexRune(s []byte, r rune) int",
      .at 202 "IndexAny(s []byte, chars string) int",
      .at 256 "LastIndexAny(s []byte, chars string) int",
      .at 349 "SplitN(s, sep []byte, n int) [][]byte",
      .at 365 "SplitAfterN(s, sep []byte, n int) [][]byte",
      .at 376 "Split(s, sep []byte) [][]byte",
      .at 384 "SplitAfter(s, sep []byte) [][]byte",
      .at 396 "Fields(s []byte) [][]byte",
      .at 452 "FieldsFunc(s []byte, f func(rune) bool) [][]byte",
      .at 499 "Join(s [][]byte, sep []byte) []byte",
      .at 537 "HasPrefix(s, prefix []byte) bool",
      .at 542 "HasSuffix(s, suffix []byte) bool",
      .at 551 "Map(mapping func(r rune) rune, s []byte) []byte",
      .at 586 "Repeat(b []byte, count int) []byte",
      .at 641 "ToUpper(s []byte) []byte",
      .at 671 "ToLower(s []byte) []byte",
      .at 700 "ToTitle(s []byte) []byte",
      .at 704 "ToUpperSpecial(c unicode.SpecialCase, s []byte) []byte",
      .at 710 "ToLowerSpecial(c unicode.SpecialCase, s []byte) []byte",
      .at 716 "ToTitleSpecial(c unicode.SpecialCase, s []byte) []byte",
      .at 722 "ToValidUTF8(s, replacement []byte) []byte",
      { line := 779, decl := "func Title(s []byte) []byte", deprecated := titleDeprecation },
      .at 800 "TrimLeftFunc(s []byte, f func(r rune) bool) []byte",
      .at 810 "TrimRightFunc(s []byte, f func(r rune) bool) []byte",
      .at 826 "TrimFunc(s []byte, f func(r rune) bool) []byte",
      .at 832 "TrimPrefix(s, prefix []byte) []byte",
      .at 842 "TrimSuffix(s, suffix []byte) []byte",
      .at 852 "IndexFunc(s []byte, f func(r rune) bool) int",
      .at 859 "LastIndexFunc(s []byte, f func(r rune) bool) int",
      .at 940 "Trim(s []byte, cutset string) []byte",
      .at 961 "TrimLeft(s []byte, cutset string) []byte",
      .at 1017 "TrimRight(s []byte, cutset string) []byte",
      .at 1069 "TrimSpace(s []byte) []byte",
      .at 1107 "Runes(s []byte) []rune",
      .at 1125 "Replace(s, old, new []byte, n int) []byte",
      .at 1173 "ReplaceAll(s, old, new []byte) []byte",
      .at 1180 "EqualFold(s, t []byte) bool",
      .at 1246 "Index(s, sep []byte) int",
      .at 1351 "Cut(s, sep []byte) (before, after []byte, found bool)",
      .at 1363 "Clone(b []byte) []byte",
      .at 1376 "CutPrefix(s, prefix []byte) (after []byte, found bool)",
      .at 1388 "CutSuffix(s, suffix []byte) (before []byte, found bool)"] },
  { name := "iter.go", imports := ["iter"], funcs := [
      .at 18 "Lines(s []byte) iter.Seq[[]byte]",
      .at 70 "SplitSeq(s, sep []byte) iter.Seq[[]byte]",
      .at 76 "SplitAfterSeq(s, sep []byte) iter.Seq[[]byte]",
      .at 83 "FieldsSeq(s []byte) iter.Seq[[]byte]",
      .at 117 "FieldsFuncSeq(s []byte, f func(rune) bool) iter.Seq[[]byte]"] },
  { name := "reader.go", imports := ["io"],
    types := [.defined 18 "Reader" (structType ["s []byte", "i int64", "prevRune int"])],
    funcs := [.at 159 "NewReader(b []byte) *Reader"],
    extra := [
      "func (r *Reader) Len() int",
      "func (r *Reader) Size() int64",
      "func (r *Reader) Read(b []byte) (n int, err error)",
      "func (r *Reader) ReadAt(b []byte, off int64) (n int, err error)",
      "func (r *Reader) ReadByte() (byte, error)",
      "func (r *Reader) UnreadByte() error",
      "func (r *Reader) ReadRune() (ch rune, size int, err error)",
      "func (r *Reader) UnreadRune() error",
      "func (r *Reader) Seek(offset int64, whence int) (int64, error)",
      "func (r *Reader) WriteTo(w io.Writer) (n int64, err error)",
      "func (r *Reader) Reset(b []byte)"] }] }

end StaticWrap.Stdlib
