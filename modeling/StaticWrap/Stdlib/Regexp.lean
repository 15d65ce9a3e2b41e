import StaticWrap.Load.Std
/-!
**The catalogue of `regexp` and `container/ring`.**

Compiled regular expressions, and circular lists: the exported types and functions by file.
`regexp` is complete, with its methods.
-/

namespace StaticWrap.Stdlib

open StaticWrap.Load

def regexp : StdPackage := { path := "regexp", complete := true, files := [
  { name := "regexp.go", imports := ["io"],
    types := [.defined 77 "Regexp" (structType ["expr string", "numSubexp int",
      "subexpNames []string", "prefix string", "prefixComplete bool", "longest bool"])],
    funcs := [
      .at 130 "Compile(expr string) (*Regexp, error)",
      .at 153 "CompilePOSIX(expr string) (*Regexp, error)",
      .at 310 "MustCompile(str string) *Regexp",
      .at 321 "MustCompilePOSIX(str string) *Regexp",
      .at 539 "MatchReader(pattern string, r io.RuneReader) (matched bool, err error)",
      .at 550 "MatchString(pattern string, s string) (matched bool, err error)",
      .at 561 "Match(pattern string, b []byte) (matched bool, err error)",
      .at 722 "QuoteMeta(s string) string"],
    extra := [
      "func (re *Regexp) String() string",
      "func (re *Regexp) Copy() *Regexp",
      "func (re *Regexp) Longest()",
      "func (re *Regexp) NumSubexp() int",
      "func (re *Regexp) SubexpNames() []string",
      "func (re *Regexp) SubexpIndex(name string) int",
      "func (re *Regexp) LiteralPrefix() (prefix string, complete bool)",
      "func (re *Regexp) MatchReader(r io.RuneReader) bool",
      "func (re *Regexp) MatchString(s string) bool",
      "func (re *Regexp) Match(b []byte) bool",
      "func (re *Regexp) ReplaceAllString(src, repl string) string",
      "func (re *Regexp) ReplaceAllLiteralString(src, repl string) string",
      "func (re *Regexp) ReplaceAllStringFunc(src string, repl func(string) string) string",
      "func (re *Regexp) ReplaceAll(src, repl []byte) []byte",
      "func (re *Regexp) ReplaceAllLiteral(src, repl []byte) []byte",
      "func (re *Regexp) ReplaceAllFunc(src []byte, repl func([]byte) []byte) []byte",
      "func (re *Regexp) Find(b []byte) []byte",
      "func (re *Regexp) FindIndex(b []byte) (loc []int)",
      "func (re *Regexp) FindString(s string) string",
      "func (re *Regexp) FindStringIndex(s string) (loc []int)",
      "func (re *Regexp) FindReaderIndex(r io.RuneReader) (loc []int)",
      "func (re *Regexp) FindSubmatch(b []byte) [][]byte",
      "func (re *Regexp) Expand(dst []byte, template []byte, src []byte, match []int) []byte",
      "func (re *Regexp) ExpandString(dst []byte, template string, src string, match []int) []byte",
      "func (re *Regexp) FindSubmatchIndex(b []byte) []int",
      "func (re *Regexp) FindStringSubmatch(s string) []string",
      "func (re *Regexp) FindStringSubmatchIndex(s string) []int",
      "func (re *Regexp) FindReaderSubmatchIndex(r io.RuneReader) []int",
      "func (re *Regexp) FindAll(b []byte, n int) [][]byte",
      "func (re *Regexp) FindAllIndex(b []byte, n int) [][]int",
      "func (re *Regexp) FindAllString(s string, n int) []string",
      "func (re *Regexp) FindAllStringIndex(s string, n int) [][]int",
      "func (re *Regexp) FindAllSubmatch(b []byte, n int) [][][]byte",
      "func (re *Regexp) FindAllSubmatchIndex(b []byte, n int) [][]int",
      "func (re *Regexp) FindAllStringSubmatch(s string, n int) [][]string",
      "func (re *Regexp) FindAllStringSubmatchIndex(s string, n int) [][]int",
      "func (re *Regexp) Split(s string, n int) []string",
      "func (re *Regexp) MarshalText() ([]byte, error)",
      "func (re *Regexp) AppendText(b []byte) ([]byte, error)",
      "func (re *Regexp) UnmarshalText(text []byte) error"] }] }

def containerRing : StdPackage := { path := "container/ring", files := [
  { name := "ring.go", types := [.at 18 "Ring"], funcs := [
      .at 60 "New(n int) *Ring"] }] }

end StaticWrap.Stdlib
