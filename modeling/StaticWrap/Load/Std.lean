import StaticWrap.Text.Basic
/-!
**The standard library as a catalogue.**

The packages of the standard library are known by import path (`stdPaths`); a package's name
is the last element of its path, or the one before a major version element (`math/rand/v2`
is `rand`). For some packages the catalogue also knows the declarations: each file with its
imports, its exported types and the signatures of its exported functions, each at the line
where the declaration starts, and further declarations whose place does not matter
(methods, constants, variables, functions whose line is not known). `StdFile.source` writes
such a file back as Go source, with every declaration on its own line, so that it reads like
the file it describes: functions get no body, a deprecated function the deprecation
paragraph of its doc comment, and the further declarations come after the others.

A type is given with its definition when that is known; one without is shapeless: its name
is known, its structure and methods are not, and it is written with an empty struct as its
definition. A package is complete when the catalogue declares every exported name it has.
-/

namespace StaticWrap.Load

/-- An exported function of a catalogued file. -/
structure StdFunc where
  line : Nat
  /-- The declaration without body, as `func Name(params) results`. -/
  decl : String
  /-- The lines of the deprecation paragraph of its doc comment, each with its `//`. -/
  deprecated : List String := []

/-- A function declared at a line with the signature `Name(params) results`. -/
def StdFunc.at (line : Nat) (signature : String) : StdFunc := { line, decl := "func " ++ signature }

/-- An exported type of a catalogued file. -/
structure StdType where
  line : Nat
  name : String
  /-- The type parameter list, as `[T any]`, or empty. -/
  params : String := ""
  /-- The type it is an alias of, or empty for a defined type. -/
  aliasOf : String := ""
  /-- The definition of a defined type (the text after its name and parameters), or empty
  when it is not known. -/
  body : String := ""

/-- A defined type declared at a line, whose definition is not known. -/
def StdType.at (line : Nat) (name : String) : StdType := { line, name }

/-- A defined type declared at a line with its definition. -/
def StdType.defined (line : Nat) (name body : String) : StdType := { line, name, body }

/-- Parts between braces, separated by semicolons. -/
def braced (parts : List String) : String := "\x7b" ++ "; ".intercalate parts ++ "\x7d"

/-- A struct type of fields, each `name type`. -/
def structType (fields : List String) : String := "struct" ++ braced fields

/-- An interface type of methods and embedded types. -/
def ifaceType (elems : List String) : String := "interface" ++ braced elems

/-- The type's structure is not known. -/
def StdType.isShapeless (t : StdType) : Bool := t.aliasOf.isEmpty && t.body.isEmpty

/-- A catalogued file of a standard library package. -/
structure StdFile where
  name : String
  imports : List String := []
  types : List StdType := []
  funcs : List StdFunc := []
  /-- Declarations whose line does not matter, each one line of Go source. -/
  extra : List String := []

/-- A catalogued package of the standard library. -/
structure StdPackage where
  path : String
  files : List StdFile
  /-- Every exported name of the package is declared. -/
  complete : Bool := false

/-- The names of the types of a package whose structure is not known. -/
def StdPackage.shapelessTypes (p : StdPackage) : List String :=
  p.files.flatMap fun f => (f.types.filter (·.isShapeless)).map (·.name)

/-- The import paths of the standard library, internal packages included. -/
def stdPaths : List String :=
  Text.fields ("archive/tar archive/zip bufio bytes cmp compress/bzip2 compress/flate " ++
    "compress/gzip compress/lzw compress/zlib container/heap container/list container/ring " ++
    "context crypto crypto/aes crypto/cipher crypto/des crypto/dsa crypto/ecdh crypto/ecdsa " ++
    "crypto/ed25519 crypto/elliptic crypto/fips140 crypto/hkdf crypto/hmac crypto/md5 " ++
    "crypto/mlkem crypto/pbkdf2 crypto/rand crypto/rc4 crypto/rsa crypto/sha1 crypto/sha256 " ++
    "crypto/sha3 crypto/sha512 crypto/subtle crypto/tls crypto/x509 crypto/x509/pkix " ++
    "database/sql database/sql/driver debug/buildinfo debug/dwarf debug/elf debug/gosym " ++
    "debug/macho debug/pe debug/plan9obj embed encoding encoding/ascii85 encoding/asn1 " ++
    "encoding/base32 encoding/base64 encoding/binary encoding/csv encoding/gob encoding/hex " ++
    "encoding/json encoding/pem encoding/xml errors expvar flag fmt go/ast go/build " ++
    "go/build/constraint go/constant go/doc go/doc/comment go/format go/importer go/parser " ++
    "go/printer go/scanner go/token go/types go/version hash hash/adler32 hash/crc32 " ++
    "hash/crc64 hash/fnv hash/maphash html html/template image image/color " ++
    "image/color/palette image/draw image/gif image/jpeg image/png index/suffixarray io " ++
    "io/fs io/ioutil iter log log/slog log/syslog maps math math/big math/bits math/cmplx " ++
    "math/rand math/rand/v2 mime mime/multipart mime/quotedprintable net net/http " ++
    "net/http/cgi net/http/cookiejar net/http/fcgi net/http/httptest net/http/httptrace " ++
    "net/http/httputil net/http/pprof net/mail net/netip net/rpc net/rpc/jsonrpc net/smtp " ++
    "net/textproto net/url os os/exec os/signal os/user path path/filepath plugin reflect " ++
    "regexp regexp/syntax runtime runtime/cgo runtime/coverage runtime/debug runtime/metrics " ++
    "runtime/pprof runtime/race runtime/trace slices sort strconv strings structs sync " ++
    "sync/atomic syscall testing testing/fstest testing/iotest testing/quick testing/slogtest " ++
    "testing/synctest text/scanner text/tabwriter text/template text/template/parse time " ++
    "time/tzdata unicode unicode/utf16 unicode/utf8 unique unsafe weak internal/abi " ++
    "internal/asan internal/bisect internal/buildcfg internal/bytealg internal/byteorder " ++
    "internal/cfg internal/chacha8rand internal/coverage internal/cpu internal/dag " ++
    "internal/diff internal/filepathlite internal/fmtsort internal/fuzz internal/goarch " ++
    "internal/godebug internal/godebugs internal/goexperiment internal/goos internal/goroot " ++
    "internal/gover internal/goversion internal/itoa internal/lazyregexp internal/lazytemplate " ++
    "internal/msan internal/nettrace internal/obscuretestdata internal/oserror internal/pkgbits " ++
    "internal/platform internal/poll internal/profile internal/profilerecord internal/race " ++
    "internal/reflectlite internal/runtime/atomic internal/runtime/maps " ++
    "internal/runtime/math internal/runtime/sys internal/saferio internal/singleflight " ++
    "internal/stringslite internal/sync internal/synctest internal/syscall/execenv " ++
    "internal/syscall/unix internal/sysinfo internal/testenv internal/testlog internal/trace " ++
    "internal/txtar internal/types/errors internal/unsafeheader internal/weak internal/xcoff " ++
    "internal/zstd")

/-- The path names a package of the standard library. -/
def isStdPath (path : String) : Bool := stdPaths.contains path

/-- A path element that marks a major version: `v` and digits. -/
def isVersionElement (e : String) : Bool :=
  match e.toList with
  | 'v' :: ds => !ds.isEmpty && ds.all Char.isDigit
  | _ => false

/-- The name of a standard library package. -/
def stdName (path : String) : String :=
  match (Text.splitOn path "/").reverse with
  | last :: prev :: _ => if isVersionElement last then prev else last
  | [last] => last
  | [] => path

/-- The empty struct, the definition a shapeless type gets. -/
def emptyStruct : String := "struct\x7b\x7d"

/-- The lines of a catalogued declaration: where it starts and its text. -/
def StdFile.entries (f : StdFile) : List (Nat × List String) :=
  let types := f.types.map fun t =>
    (t.line, ["type " ++ t.name ++ t.params ++
      (if !t.aliasOf.isEmpty then " = " ++ t.aliasOf
       else if t.body.isEmpty then " " ++ emptyStruct else " " ++ t.body)])
  let funcs := f.funcs.map fun fn => (fn.line - fn.deprecated.length, fn.deprecated ++ [fn.decl])
  (types ++ funcs).mergeSort fun a b => a.1 ≤ b.1

/-- Go source of a catalogued file: the package clause and imports on the first line, then
each declaration from its line on (or from the next free line when two would overlap), then
the further declarations. -/
def StdFile.source (f : StdFile) (pkgName : String) : String :=
  let header := "package " ++ pkgName ++
    String.join (f.imports.map fun i => "; import \"" ++ i ++ "\"")
  let (lines, _) := f.entries.foldl (fun (acc : List String × Nat) (line, text) =>
    let (out, next) := acc
    let pad := List.replicate (line - next) ""
    (out ++ pad ++ text, max line next + text.length)) ([header], 2)
  "\n".intercalate (lines ++ f.extra) ++ "\n"

end StaticWrap.Load
