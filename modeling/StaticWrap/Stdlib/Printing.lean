import StaticWrap.Load.Std
/-!
**The catalogue of `fmt` and `errors`.**

Formatted printing and scanning: every exported function at the line of its declaration, and
the interfaces the printer and the scanner consult, with their methods. The package is
complete: a name it does not declare does not exist. The construction and inspection of error
values: the exported functions of `errors` by file.
-/

namespace StaticWrap.Stdlib

open StaticWrap.Load

def fmt : StdPackage := { path := "fmt", complete := true, files := [
  { name := "errors.go", funcs := [
      .at 22 "Errorf(format string, a ...any) error"] },
  { name := "print.go", imports := ["io"],
    types := [
      .defined 49 "State" (ifaceType ["Write(b []byte) (n int, err error)",
        "Width() (wid int, ok bool)", "Precision() (prec int, ok bool)", "Flag(c int) bool"]),
      .defined 60 "Formatter" (ifaceType ["Format(f State, verb rune)"]),
      .defined 68 "Stringer" (ifaceType ["String() string"]),
      .defined 75 "GoStringer" (ifaceType ["GoString() string"])],
    funcs := [
      .at 81 "FormatString(state State, verb rune) string",
      .at 222 "Fprintf(w io.Writer, format string, a ...any) (n int, err error)",
      .at 232 "Printf(format string, a ...any) (n int, err error)",
      .at 237 "Sprintf(format string, a ...any) string",
      .at 247 "Appendf(b []byte, format string, a ...any) []byte",
      .at 260 "Fprint(w io.Writer, a ...any) (n int, err error)",
      .at 271 "Print(a ...any) (n int, err error)",
      .at 277 "Sprint(a ...any) string",
      .at 287 "Append(b []byte, a ...any) []byte",
      .at 302 "Fprintln(w io.Writer, a ...any) (n int, err error)",
      .at 313 "Println(a ...any) (n int, err error)",
      .at 319 "Sprintln(a ...any) string",
      .at 330 "Appendln(b []byte, a ...any) []byte"] },
  { name := "scan.go", imports := ["io"],
    types := [
      .defined 21 "ScanState" (ifaceType ["ReadRune() (r rune, size int, err error)",
        "UnreadRune() error", "SkipSpace()",
        "Token(skipSpace bool, f func(rune) bool) (token []byte, err error)",
        "Width() (wid int, ok bool)", "Read(buf []byte) (n int, err error)"]),
      .defined 55 "Scanner" (ifaceType ["Scan(state ScanState, verb rune) error"])],
    funcs := [
      .at 63 "Scan(a ...any) (n int, err error)",
      .at 69 "Scanln(a ...any) (n int, err error)",
      .at 80 "Scanf(format string, a ...any) (n int, err error)",
      .at 99 "Sscan(str string, a ...any) (n int, err error)",
      .at 105 "Sscanln(str string, a ...any) (n int, err error)",
      .at 113 "Sscanf(str string, format string, a ...any) (n int, err error)",
      .at 121 "Fscan(r io.Reader, a ...any) (n int, err error)",
      .at 130 "Fscanln(r io.Reader, a ...any) (n int, err error)",
      .at 141 "Fscanf(r io.Reader, format string, a ...any) (n int, err error)"] }] }

def errors : StdPackage := { path := "errors", complete := true, files := [
  { name := "errors.go",
    funcs := [.at 61 "New(text string) error"],
    extra := ["var ErrUnsupported = New(\"unsupported operation\")"] },
  { name := "join.go", funcs := [
      .at 27 "Join(errs ...error) error"] },
  { name := "wrap.go", funcs := [
      .at 17 "Unwrap(err error) error",
      .at 44 "Is(err, target error) bool",
      .at 99 "As(err error, target any) bool"] }] }

end StaticWrap.Stdlib
