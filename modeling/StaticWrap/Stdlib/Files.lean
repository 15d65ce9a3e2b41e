import StaticWrap.Load.Std
/-!
**The catalogue of `os`, `io/fs`, `path/filepath` and `path`.**

Files, directories, processes and the environment of the operating system; the abstract file
systems and the file information they share; and the manipulation of paths, slash-separated
or of the host. Every exported function of `os`, `io/fs` and `path/filepath` is at the line of
its declaration; the lines of `path` are not known. The four packages are complete.

`os.File` keeps its state behind a pointer to an unexported type, so its only field here is
that pointer; processes and roots are shapeless.
-/

namespace StaticWrap.Stdlib

open StaticWrap.Load

def ioFs : StdPackage := { path := "io/fs", complete := true, files := [
  { name := "format.go", funcs := [
      .at 17 "FormatFileInfo(info FileInfo) string",
      .at 60 "FormatDirEntry(dir DirEntry) string"] },
  { name := "fs.go", imports := ["errors", "time"],
    types := [
      .defined 29 "FS" (ifaceType ["Open(name string) (File, error)"]),
      .defined 82 "File" (ifaceType ["Stat() (FileInfo, error)", "Read([]byte) (int, error)",
        "Close() error"]),
      .defined 92 "DirEntry" (ifaceType ["Name() string", "IsDir() bool", "Type() FileMode",
        "Info() (FileInfo, error)"]),
      .defined 112 "ReadDirFile" (ifaceType ["File", "ReadDir(n int) ([]DirEntry, error)"]),
      .defined 157 "FileInfo" (ifaceType ["Name() string", "Size() int64", "Mode() FileMode",
        "ModTime() time.Time", "IsDir() bool", "Sys() any"]),
      .defined 167 "FileMode" "uint32",
      .defined 247 "PathError" (structType ["Op string", "Path string", "Err error"])],
    funcs := [
      .at 54 "ValidPath(name string) bool"],
    extra := [
      "var ErrInvalid = errors.New(\"invalid argument\")",
      "var ErrPermission = errors.New(\"permission denied\")",
      "var ErrExist = errors.New(\"file already exists\")",
      "var ErrNotExist = errors.New(\"file does not exist\")",
      "var ErrClosed = errors.New(\"file already closed\")",
      "const ModeDir FileMode = 1 << 31",
      "const ModeAppend FileMode = 1 << 30",
      "const ModeExclusive FileMode = 1 << 29",
      "const ModeTemporary FileMode = 1 << 28",
      "const ModeSymlink FileMode = 1 << 27",
      "const ModeDevice FileMode = 1 << 26",
      "const ModeNamedPipe FileMode = 1 << 25",
      "const ModeSocket FileMode = 1 << 24",
      "const ModeSetuid FileMode = 1 << 23",
      "const ModeSetgid FileMode = 1 << 22",
      "const ModeCharDevice FileMode = 1 << 21",
      "const ModeSticky FileMode = 1 << 20",
      "const ModeIrregular FileMode = 1 << 19",
      "const ModeType = ModeDir | ModeSymlink | ModeNamedPipe | ModeSocket | ModeDevice | ModeCharDevice | ModeIrregular",
      "const ModePerm FileMode = 0777",
      "func (m FileMode) String() string",
      "func (m FileMode) IsDir() bool",
      "func (m FileMode) IsRegular() bool",
      "func (m FileMode) Perm() FileMode",
      "func (m FileMode) Type() FileMode",
      "func (e *PathError) Error() string",
      "func (e *PathError) Unwrap() error",
      "func (e *PathError) Timeout() bool"] },
  { name := "glob.go",
    types := [.defined 15 "GlobFS" (ifaceType ["FS", "Glob(pattern string) ([]string, error)"])],
    funcs := [.at 33 "Glob(fsys FS, pattern string) (matches []string, err error)"] },
  { name := "readdir.go",
    types := [.defined 15 "ReadDirFS" (ifaceType ["FS", "ReadDir(name string) ([]DirEntry, error)"])],
    funcs := [
      .at 29 "ReadDir(fsys FS, name string) ([]DirEntry, error)",
      .at 79 "FileInfoToDirEntry(info FileInfo) DirEntry"] },
  { name := "readfile.go",
    types := [.defined 15 "ReadFileFS" (ifaceType ["FS", "ReadFile(name string) ([]byte, error)"])],
    funcs := [.at 32 "ReadFile(fsys FS, name string) ([]byte, error)"] },
  { name := "readlink.go",
    types := [.defined 13 "ReadLinkFS" (ifaceType ["FS", "ReadLink(name string) (string, error)",
      "Lstat(name string) (FileInfo, error)"])],
    funcs := [
      .at 26 "ReadLink(fsys FS, name string) (string, error)",
      .at 39 "Lstat(fsys FS, name string) (FileInfo, error)"] },
  { name := "stat.go",
    types := [.defined 12 "StatFS" (ifaceType ["FS", "Stat(name string) (FileInfo, error)"])],
    funcs := [.at 20 "Stat(fsys FS, name string) (FileInfo, error)"] },
  { name := "sub.go",
    types := [.defined 13 "SubFS" (ifaceType ["FS", "Sub(dir string) (FS, error)"])],
    funcs := [.at 35 "Sub(fsys FS, dir string) (FS, error)"] },
  { name := "walk.go", imports := ["errors"],
    types := [.defined 64 "WalkDirFunc" "func(path string, d DirEntry, err error) error"],
    funcs := [.at 117 "WalkDir(fsys FS, root string, fn WalkDirFunc) error"],
    extra := [
      "var SkipDir = errors.New(\"skip this directory\")",
      "var SkipAll = errors.New(\"skip everything and stop the walk\")"] }] }

def os : StdPackage := { path := "os", complete := true, files := [
  { name := "dir.go", imports := ["io/fs"],
    types := [{ line := 98, name := "DirEntry", aliasOf := "fs.DirEntry" }],
    funcs := [
      .at 114 "ReadDir(name string) ([]DirEntry, error)",
      .at 145 "CopyFS(dir string, fsys fs.FS) error"] },
  { name := "env.go", funcs := [
      .at 16 "Expand(s string, mapping func(string) string) string",
      .at 50 "ExpandEnv(s string) string",
      .at 101 "Getenv(key string) string",
      .at 112 "LookupEnv(key string) (string, bool)",
      .at 119 "Setenv(key, value string) error",
      .at 128 "Unsetenv(key string) error",
      .at 133 "Clearenv()",
      .at 139 "Environ() []string"] },
  { name := "error.go", imports := ["errors", "io/fs"],
    types := [
      { line := 30, name := "PathError", aliasOf := "fs.PathError" },
      .defined 36 "SyscallError" (structType ["Syscall string", "Err error"])],
    funcs := [
      .at 67 "NewSyscallError(syscall string, err error) error",
      .at 80 "IsExist(err error) bool",
      .at 90 "IsNotExist(err error) bool",
      .at 100 "IsPermission(err error) bool",
      .at 112 "IsTimeout(err error) bool"],
    extra := [
      "var ErrInvalid = errors.New(\"invalid argument\")",
      "var ErrPermission = errors.New(\"permission denied\")",
      "var ErrExist = errors.New(\"file already exists\")",
      "var ErrNotExist = errors.New(\"file does not exist\")",
      "var ErrClosed = errors.New(\"file already closed\")",
      "var ErrNoDeadline = errors.New(\"file type does not support deadline\")",
      "var ErrDeadlineExceeded = errors.New(\"i/o timeout\")",
      "func (e *SyscallError) Error() string",
      "func (e *SyscallError) Unwrap() error",
      "func (e *SyscallError) Timeout() bool"] },
  { name := "exec.go", imports := ["errors"],
    types := [.at 22 "Process", .at 160 "ProcAttr",
      .defined 189 "Signal" (ifaceType ["String() string", "Signal()"])],
    funcs := [
      .at 233 "Getpid() int",
      .at 236 "Getppid() int",
      .at 247 "FindProcess(pid int) (*Process, error)",
      .at 264 "StartProcess(name string, argv []string, attr *ProcAttr) (*Process, error)"],
    extra := [
      "var ErrProcessDone = errors.New(\"os: process already finished\")"] },
  { name := "exec_posix.go", imports := ["syscall"], extra := [
      "var Interrupt Signal = syscall.SIGINT",
      "var Kill Signal = syscall.SIGKILL"] },
  { name := "executable.go", funcs := [
      .at 18 "Executable() (string, error)"] },
  { name := "file.go", imports := ["io", "io/fs", "syscall", "time"],
    types := [.defined 115 "LinkError" (structType ["Op string", "Old string", "New string",
      "Err error"])],
    funcs := [
      .at 133 "NewFile(fd uintptr, name string) *File",
      .at 327 "Mkdir(name string, perm FileMode) error",
      .at 361 "Chdir(dir string) error",
      .at 389 "Open(name string) (*File, error)",
      .at 399 "Create(name string) (*File, error)",
      .at 410 "OpenFile(name string, flag int, perm FileMode) (*File, error)",
      .at 440 "Rename(oldpath, newpath string) error",
      .at 449 "Readlink(name string) (string, error)",
      .at 490 "TempDir() string",
      .at 507 "UserCacheDir() (string, error)",
      .at 560 "UserConfigDir() (string, error)",
      .at 608 "UserHomeDir() (string, error)",
      .at 647 "Chmod(name string, mode FileMode) error",
      .at 746 "DirFS(dir string) fs.FS",
      .at 867 "ReadFile(name string) ([]byte, error)",
      .at 935 "WriteFile(name string, data []byte, perm FileMode) error"],
    extra := [
      "var Stdin *File",
      "var Stdout *File",
      "var Stderr *File",
      "const O_RDONLY int = 0",
      "const O_WRONLY int = 1",
      "const O_RDWR int = 2",
      "const O_APPEND int = 1024",
      "const O_CREATE int = 64",
      "const O_EXCL int = 128",
      "const O_SYNC int = 1052672",
      "const O_TRUNC int = 512",
      "const SEEK_SET int = 0",
      "const SEEK_CUR int = 1",
      "const SEEK_END int = 2",
      "func (e *LinkError) Error() string",
      "func (e *LinkError) Unwrap() error",
      "func (f *File) Name() string",
      "func (f *File) Read(b []byte) (n int, err error)",
      "func (f *File) ReadAt(b []byte, off int64) (n int, err error)",
      "func (f *File) ReadFrom(r io.Reader) (n int64, err error)",
      "func (f *File) Write(b []byte) (n int, err error)",
      "func (f *File) WriteAt(b []byte, off int64) (n int, err error)",
      "func (f *File) WriteTo(w io.Writer) (n int64, err error)",
      "func (f *File) Seek(offset int64, whence int) (ret int64, err error)",
      "func (f *File) WriteString(s string) (n int, err error)",
      "func (f *File) Chmod(mode FileMode) error",
      "func (f *File) SetDeadline(t time.Time) error",
      "func (f *File) SetReadDeadline(t time.Time) error",
      "func (f *File) SetWriteDeadline(t time.Time) error",
      "func (f *File) SyscallConn() (syscall.RawConn, error)",
      "func (f *File) Chdir() error",
      "func (f *File) Chown(uid, gid int) error",
      "func (f *File) Truncate(size int64) error",
      "func (f *File) Sync() error",
      "func (f *File) Fd() uintptr",
      "func (f *File) Close() error",
      "func (f *File) Stat() (FileInfo, error)",
      "func (f *File) Readdir(n int) ([]FileInfo, error)",
      "func (f *File) Readdirnames(n int) (names []string, err error)",
      "func (f *File) ReadDir(n int) ([]DirEntry, error)"] },
  { name := "file_posix.go", imports := ["time"], funcs := [
      .at 105 "Chown(name string, uid, gid int) error",
      .at 121 "Lchown(name string, uid, gid int) error",
      .at 179 "Chtimes(name string, atime time.Time, mtime time.Time) error"] },
  { name := "file_unix.go", funcs := [
      .at 344 "Truncate(name string, size int64) error",
      .at 356 "Remove(name string) error",
      .at 403 "Link(oldname, newname string) error",
      .at 417 "Symlink(oldname, newname string) error"],
    extra := [
      "const DevNull = \"/dev/null\"",
      "type file " ++ structType ["name string"]] },
  { name := "getwd.go", funcs := [
      .at 26 "Getwd() (dir string, err error)"] },
  { name := "path.go", funcs := [
      .at 19 "MkdirAll(path string, perm FileMode) error",
      .at 73 "RemoveAll(path string) error"] },
  { name := "path_unix.go", funcs := [
      .at 15 "IsPathSeparator(c uint8) bool"],
    extra := [
      "const PathSeparator = '/'",
      "const PathListSeparator = ':'"] },
  { name := "pipe2_unix.go", funcs := [
      .at 13 "Pipe() (r *File, w *File, err error)"] },
  { name := "proc.go", funcs := [
      .at 31 "Getuid() int",
      .at 36 "Geteuid() int",
      .at 41 "Getgid() int",
      .at 46 "Getegid() int",
      .at 52 "Getgroups() ([]int, error)",
      .at 62 "Exit(code int)"],
    extra := [
      "var Args []string"] },
  { name := "exec_posix_state.go", types := [.at 60 "ProcessState"] },
  { name := "root.go", types := [.at 60 "Root"], funcs := [
      .at 25 "OpenInRoot(dir, name string) (*File, error)",
      .at 82 "OpenRoot(name string) (*Root, error)"] },
  { name := "stat.go", funcs := [
      .at 11 "Stat(name string) (FileInfo, error)",
      .at 24 "Lstat(name string) (FileInfo, error)"] },
  { name := "sys.go", funcs := [
      .at 8 "Hostname() (name string, err error)"] },
  { name := "tempfile.go", funcs := [
      .at 35 "CreateTemp(dir, pattern string) (*File, error)",
      .at 86 "MkdirTemp(dir, pattern string) (string, error)"] },
  { name := "types.go", imports := ["io/fs"],
    types := [
      .defined 19 "File" (structType ["file *file"]),
      { line := 22, name := "FileInfo", aliasOf := "fs.FileInfo" },
      { line := 28, name := "FileMode", aliasOf := "fs.FileMode" }],
    funcs := [
      .at 13 "Getpagesize() int",
      .at 69 "SameFile(fi1, fi2 FileInfo) bool"],
    extra := [
      "const ModeDir = fs.ModeDir",
      "const ModeAppend = fs.ModeAppend",
      "const ModeExclusive = fs.ModeExclusive",
      "const ModeTemporary = fs.ModeTemporary",
      "const ModeSymlink = fs.ModeSymlink",
      "const ModeDevice = fs.ModeDevice",
      "const ModeNamedPipe = fs.ModeNamedPipe",
      "const ModeSocket = fs.ModeSocket",
      "const ModeSetuid = fs.ModeSetuid",
      "const ModeSetgid = fs.ModeSetgid",
      "const ModeCharDevice = fs.ModeCharDevice",
      "const ModeSticky = fs.ModeSticky",
      "const ModeIrregular = fs.ModeIrregular",
      "const ModeType = fs.ModeType",
      "const ModePerm = fs.ModePerm"] }] }

/-- The deprecation of `filepath.HasPrefix`. -/
def hasPrefixDeprecation : List String :=
  ["// Deprecated: HasPrefix does not respect path boundaries and",
   "// does not ignore case when required."]

def pathFilepath : StdPackage := { path := "path/filepath", complete := true, files := [
  { name := "match.go", imports := ["errors"], funcs := [
      .at 44 "Match(pattern, name string) (matched bool, err error)",
      .at 243 "Glob(pattern string) (matches []string, err error)"],
    extra := [
      "var ErrBadPattern = errors.New(\"syntax error in pattern\")"] },
  { name := "path.go", imports := ["io/fs"],
    types := [.defined 380 "WalkFunc" "func(path string, info fs.FileInfo, err error) error"],
    funcs := [
      .at 55 "Clean(path string) string",
      .at 73 "IsLocal(path string) bool",
      .at 85 "Localize(path string) (string, error)",
      .at 92 "ToSlash(path string) string",
      .at 102 "FromSlash(path string) string",
      .at 110 "SplitList(path string) []string",
      .at 119 "Split(path string) (dir, file string)",
      .at 130 "Join(elem ...string) string",
      .at 138 "Ext(path string) string",
      .at 147 "EvalSymlinks(path string) (string, error)",
      .at 152 "IsAbs(path string) bool",
      .at 161 "Abs(path string) (string, error)",
      .at 184 "Rel(basepath, targpath string) (string, error)",
      .at 395 "WalkDir(root string, fn fs.WalkDirFunc) error",
      .at 422 "Walk(root string, fn WalkFunc) error",
      .at 455 "Base(path string) string",
      .at 465 "Dir(path string) string",
      .at 473 "VolumeName(path string) string"],
    extra := [
      "const Separator = '/'",
      "const ListSeparator = ':'",
      "var SkipDir error = fs.SkipDir",
      "var SkipAll error = fs.SkipAll"] },
  { name := "path_unix.go", funcs := [
      { line := 17, decl := "func HasPrefix(p, prefix string) bool",
        deprecated := hasPrefixDeprecation }] }] }

def path : StdPackage := { path := "path", complete := true, files := [
  { name := "match.go", imports := ["errors"], extra := [
      "var ErrBadPattern = errors.New(\"syntax error in pattern\")",
      "func Match(pattern, name string) (matched bool, err error)"] },
  { name := "path.go", extra := [
      "func Clean(path string) string",
      "func Split(path string) (dir, file string)",
      "func Join(elem ...string) string",
      "func Ext(path string) string",
      "func Base(path string) string",
      "func IsAbs(path string) bool",
      "func Dir(path string) string"] }] }

end StaticWrap.Stdlib
