import StaticWrap.Load.Std
/-!
**The catalogue of `bufio`, `io/ioutil` and `log`.**

Buffered readers, writers and scanners, the I/O helpers that moved to `io` and `os`, and the
simple logger: the exported types (with their definitions and methods) and functions by file.
`bufio` and `log` are complete.
-/

namespace StaticWrap.Stdlib

open StaticWrap.Load

def bufio : StdPackage := { path := "bufio", complete := true, files := [
  { name := "bufio.go", imports := ["errors", "io"],
    types := [
      .defined 35 "Reader" (structType ["buf []byte", "rd io.Reader", "r int", "w int",
        "err error", "lastByte int", "lastRuneSize int"]),
      .defined 578 "Writer" (structType ["err error", "buf []byte", "n int", "wr io.Writer"]),
      .defined 836 "ReadWriter" (structType ["*Reader", "*Writer"])],
    funcs := [
      .at 50 "NewReaderSize(rd io.Reader, size int) *Reader",
      .at 62 "NewReader(rd io.Reader) *Reader",
      .at 592 "NewWriterSize(w io.Writer, size int) *Writer",
      .at 610 "NewWriter(w io.Writer) *Writer",
      .at 843 "NewReadWriter(r *Reader, w *Writer) *ReadWriter"],
    extra := [
      "var ErrInvalidUnreadByte = errors.New(\"bufio: invalid use of UnreadByte\")",
      "var ErrInvalidUnreadRune = errors.New(\"bufio: invalid use of UnreadRune\")",
      "var ErrBufferFull = errors.New(\"bufio: buffer full\")",
      "var ErrNegativeCount = errors.New(\"bufio: negative count\")",
      "func (b *Reader) Size() int",
      "func (b *Reader) Reset(r io.Reader)",
      "func (b *Reader) Peek(n int) ([]byte, error)",
      "func (b *Reader) Discard(n int) (discarded int, err error)",
      "func (b *Reader) Read(p []byte) (n int, err error)",
      "func (b *Reader) ReadByte() (byte, error)",
      "func (b *Reader) UnreadByte() error",
      "func (b *Reader) ReadRune() (r rune, size int, err error)",
      "func (b *Reader) UnreadRune() error",
      "func (b *Reader) Buffered() int",
      "func (b *Reader) ReadSlice(delim byte) (line []byte, err error)",
      "func (b *Reader) ReadLine() (line []byte, isPrefix bool, err error)",
      "func (b *Reader) ReadBytes(delim byte) ([]byte, error)",
      "func (b *Reader) ReadString(delim byte) (string, error)",
      "func (b *Reader) WriteTo(w io.Writer) (n int64, err error)",
      "func (b *Writer) Size() int",
      "func (b *Writer) Reset(w io.Writer)",
      "func (b *Writer) Flush() error",
      "func (b *Writer) Available() int",
      "func (b *Writer) AvailableBuffer() []byte",
      "func (b *Writer) Buffered() int",
      "func (b *Writer) Write(p []byte) (nn int, err error)",
      "func (b *Writer) WriteByte(c byte) error",
      "func (b *Writer) WriteRune(r rune) (size int, err error)",
      "func (b *Writer) WriteString(s string) (int, error)",
      "func (b *Writer) ReadFrom(r io.Reader) (n int64, err error)"] },
  { name := "scan.go", imports := ["errors", "io"],
    types := [
      .defined 29 "Scanner" (structType ["r io.Reader", "split SplitFunc", "maxTokenSize int",
        "token []byte", "buf []byte", "start int", "end int", "err error", "empties int",
        "scanCalled bool", "done bool"]),
      .defined 64 "SplitFunc" "func(data []byte, atEOF bool) (advance int, token []byte, err error)"],
    funcs := [
      .at 89 "NewScanner(r io.Reader) *Scanner",
      .at 297 "ScanBytes(data []byte, atEOF bool) (advance int, token []byte, err error)",
      .at 312 "ScanRunes(data []byte, atEOF bool) (advance int, token []byte, err error)",
      .at 358 "ScanLines(data []byte, atEOF bool) (advance int, token []byte, err error)",
      .at 403 "ScanWords(data []byte, atEOF bool) (advance int, token []byte, err error)"],
    extra := [
      "var ErrTooLong = errors.New(\"bufio.Scanner: token too long\")",
      "var ErrNegativeAdvance = errors.New(\"bufio.Scanner: SplitFunc returns negative advance count\")",
      "var ErrAdvanceTooFar = errors.New(\"bufio.Scanner: SplitFunc returns advance count beyond input\")",
      "var ErrBadReadCount = errors.New(\"bufio.Scanner: Read returned impossible count\")",
      "var ErrFinalToken = errors.New(\"final token\")",
      "const MaxScanTokenSize = 64 * 1024",
      "func (s *Scanner) Err() error",
      "func (s *Scanner) Bytes() []byte",
      "func (s *Scanner) Text() string",
      "func (s *Scanner) Scan() bool",
      "func (s *Scanner) Buffer(buf []byte, max int)",
      "func (s *Scanner) Split(split SplitFunc)"] }] }

/-- The deprecation of a function of `io/ioutil` that now calls another. -/
def callsInstead (version target : String) : List String :=
  ["// Deprecated: As of Go " ++ version ++ ", this function simply calls [" ++ target ++ "]."]

/-- The package `io/ioutil`. -/
def ioutil : StdPackage := { path := "io/ioutil", files := [
  { name := "ioutil.go", imports := ["io", "io/fs"], funcs := [
      { line := 27, decl := "func ReadAll(r io.Reader) ([]byte, error)",
        deprecated := callsInstead "1.16" "io.ReadAll" },
      { line := 37, decl := "func ReadFile(filename string) ([]byte, error)",
        deprecated := callsInstead "1.16" "os.ReadFile" },
      { line := 46, decl := "func WriteFile(filename string, data []byte, perm fs.FileMode) error",
        deprecated := callsInstead "1.16" "os.WriteFile" },
      { line := 86, decl := "func NopCloser(r io.Reader) io.ReadCloser",
        deprecated := callsInstead "1.16" "io.NopCloser" }] },
  { name := "tempfile.go", imports := ["os"], funcs := [
      { line := 28, decl := "func TempFile(dir, pattern string) (f *os.File, err error)",
        deprecated := callsInstead "1.17" "os.CreateTemp" },
      { line := 44, decl := "func TempDir(dir, pattern string) (name string, err error)",
        deprecated := callsInstead "1.17" "os.MkdirTemp" }] }] }

def log : StdPackage := { path := "log", complete := true, files := [
  { name := "log.go", imports := ["io"],
    types := [.defined 57 "Logger" (structType ["out io.Writer", "prefix string", "flag int32",
      "isDiscard bool"])],
    funcs := [
      .at 71 "New(out io.Writer, prefix string, flag int) *Logger",
      .at 90 "Default() *Logger",
      .at 364 "SetOutput(w io.Writer)",
      .at 370 "Flags() int",
      .at 376 "SetFlags(flag int)",
      .at 381 "Prefix() string",
      .at 386 "SetPrefix(prefix string)",
      .at 391 "Writer() io.Writer",
      .at 399 "Print(v ...any)",
      .at 407 "Printf(format string, v ...any)",
      .at 415 "Println(v ...any)",
      .at 422 "Fatal(v ...any)",
      .at 430 "Fatalf(format string, v ...any)",
      .at 438 "Fatalln(v ...any)",
      .at 446 "Panic(v ...any)",
      .at 455 "Panicf(format string, v ...any)",
      .at 464 "Panicln(v ...any)",
      .at 479 "Output(calldepth int, s string) error"],
    extra := [
      "const Ldate = 1",
      "const Ltime = 2",
      "const Lmicroseconds = 4",
      "const Llongfile = 8",
      "const Lshortfile = 16",
      "const LUTC = 32",
      "const Lmsgprefix = 64",
      "const LstdFlags = Ldate | Ltime",
      "func (l *Logger) SetOutput(w io.Writer)",
      "func (l *Logger) Output(calldepth int, s string) error",
      "func (l *Logger) Print(v ...any)",
      "func (l *Logger) Printf(format string, v ...any)",
      "func (l *Logger) Println(v ...any)",
      "func (l *Logger) Fatal(v ...any)",
      "func (l *Logger) Fatalf(format string, v ...any)",
      "func (l *Logger) Fatalln(v ...any)",
      "func (l *Logger) Panic(v ...any)",
      "func (l *Logger) Panicf(format string, v ...any)",
      "func (l *Logger) Panicln(v ...any)",
      "func (l *Logger) Flags() int",
      "func (l *Logger) SetFlags(flag int)",
      "func (l *Logger) Prefix() string",
      "func (l *Logger) SetPrefix(prefix string)",
      "func (l *Logger) Writer() io.Writer"] }] }

end StaticWrap.Stdlib
