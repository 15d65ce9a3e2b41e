import StaticWrap.Load.Std
/-!
**The catalogue of `io`.**

The basic interfaces of reading and writing, the errors they report, and the helpers built on
them. The lines of the functions are not known; they follow the types in the package's one
file. The package is complete.

The pipe ends are shapeless: their structure embeds an unexported type.
-/

namespace StaticWrap.Stdlib

open StaticWrap.Load

def io : StdPackage := { path := "io", complete := true, files := [
  { name := "io.go", imports := ["errors"],
    types := [
      .defined 71 "Reader" (ifaceType ["Read(p []byte) (n int, err error)"]),
      .defined 84 "Writer" (ifaceType ["Write(p []byte) (n int, err error)"]),
      .defined 92 "Closer" (ifaceType ["Close() error"]),
      .defined 109 "Seeker" (ifaceType ["Seek(offset int64, whence int) (int64, error)"]),
      .defined 114 "ReadWriter" (ifaceType ["Reader", "Writer"]),
      .defined 120 "ReadCloser" (ifaceType ["Reader", "Closer"]),
      .defined 126 "WriteCloser" (ifaceType ["Writer", "Closer"]),
      .defined 132 "ReadWriteCloser" (ifaceType ["Reader", "Writer", "Closer"]),
      .defined 139 "ReadSeeker" (ifaceType ["Reader", "Seeker"]),
      .defined 145 "ReadSeekCloser" (ifaceType ["Reader", "Seeker", "Closer"]),
      .defined 152 "WriteSeeker" (ifaceType ["Writer", "Seeker"]),
      .defined 158 "ReadWriteSeeker" (ifaceType ["Reader", "Writer", "Seeker"]),
      .defined 171 "ReaderFrom" (ifaceType ["ReadFrom(r Reader) (n int64, err error)"]),
      .defined 182 "WriterTo" (ifaceType ["WriteTo(w Writer) (n int64, err error)"]),
      .defined 210 "ReaderAt" (ifaceType ["ReadAt(p []byte, off int64) (n int, err error)"]),
      .defined 228 "WriterAt" (ifaceType ["WriteAt(p []byte, off int64) (n int, err error)"]),
      .defined 240 "ByteReader" (ifaceType ["ReadByte() (byte, error)"]),
      .defined 251 "ByteScanner" (ifaceType ["ByteReader", "UnreadByte() error"]),
      .defined 257 "ByteWriter" (ifaceType ["WriteByte(c byte) error"]),
      .defined 267 "RuneReader" (ifaceType ["ReadRune() (r rune, size int, err error)"]),
      .defined 278 "RuneScanner" (ifaceType ["RuneReader", "UnreadRune() error"]),
      .defined 284 "StringWriter" (ifaceType ["WriteString(s string) (n int, err error)"]),
      .defined 463 "LimitedReader" (structType ["R Reader", "N int64"]),
      .defined 495 "SectionReader" (structType ["r ReaderAt", "base int64", "off int64",
        "limit int64", "n int64"]),
      .defined 578 "OffsetWriter" (structType ["w WriterAt", "base int64", "off int64"])],
    extra := [
      "const SeekStart = 0",
      "const SeekCurrent = 1",
      "const SeekEnd = 2",
      "var ErrShortWrite = errors.New(\"short write\")",
      "var ErrShortBuffer = errors.New(\"short buffer\")",
      "var EOF = errors.New(\"EOF\")",
      "var ErrUnexpectedEOF = errors.New(\"unexpected EOF\")",
      "var ErrNoProgress = errors.New(\"multiple Read calls return no data or error\")",
      "func WriteString(w Writer, s string) (n int, err error)",
      "func ReadAtLeast(r Reader, buf []byte, min int) (n int, err error)",
      "func ReadFull(r Reader, buf []byte) (n int, err error)",
      "func CopyN(dst Writer, src Reader, n int64) (written int64, err error)",
      "func Copy(dst Writer, src Reader) (written int64, err error)",
      "func CopyBuffer(dst Writer, src Reader, buf []byte) (written int64, err error)",
      "func LimitReader(r Reader, n int64) Reader",
      "func (l *LimitedReader) Read(p []byte) (n int, err error)",
      "func NewSectionReader(r ReaderAt, off int64, n int64) *SectionReader",
      "func (s *SectionReader) Read(p []byte) (n int, err error)",
      "func (s *SectionReader) Seek(offset int64, whence int) (int64, error)",
      "func (s *SectionReader) ReadAt(p []byte, off int64) (n int, err error)",
      "func (s *SectionReader) Size() int64",
      "func (s *SectionReader) Outer() (r ReaderAt, off int64, n int64)",
      "func NewOffsetWriter(w WriterAt, off int64) *OffsetWriter",
      "func (o *OffsetWriter) Write(p []byte) (n int, err error)",
      "func (o *OffsetWriter) WriteAt(p []byte, off int64) (n int, err error)",
      "func (o *OffsetWriter) Seek(offset int64, whence int) (int64, error)",
      "func TeeReader(r Reader, w Writer) Reader",
      "var Discard Writer",
      "func NopCloser(r Reader) ReadCloser",
      "func ReadAll(r Reader) ([]byte, error)"] },
  { name := "multi.go", extra := [
      "func MultiReader(readers ...Reader) Reader",
      "func MultiWriter(writers ...Writer) Writer"] },
  { name := "pipe.go", imports := ["errors"],
    types := [.at 123 "PipeReader", .at 166 "PipeWriter"],
    extra := [
      "var ErrClosedPipe = errors.New(\"io: read/write on closed pipe\")",
      "func Pipe() (*PipeReader, *PipeWriter)"] }] }

end StaticWrap.Stdlib
