import StaticWrap.Load.Std
/-!
**The catalogue of `hash` and `hash/crc32`.**

The interfaces every hash function implements, and the 32-bit cyclic redundancy check with its
polynomial tables: the exported types, constants and functions by file, each function at the
line of its declaration. Both packages are complete.
-/

namespace StaticWrap.Stdlib

open StaticWrap.Load

def hash : StdPackage := { path := "hash", complete := true, files := [
  { name := "hash.go", imports := ["io"], types := [
      .defined 27 "Hash" (ifaceType ["io.Writer", "Sum(b []byte) []byte", "Reset()",
        "Size() int", "BlockSize() int"]),
      .defined 50 "Hash32" (ifaceType ["Hash", "Sum32() uint32"]),
      .defined 56 "Hash64" (ifaceType ["Hash", "Sum64() uint64"]),
      .defined 65 "Cloner" (ifaceType ["Hash", "Clone() (Cloner, error)"]),
      .defined 80 "XOF" (ifaceType ["io.Writer", "io.Reader", "Reset()", "BlockSize() int"])] }] }

def hashCrc32 : StdPackage := { path := "hash/crc32", complete := true, files := [
  { name := "crc32.go", imports := ["hash"],
    types := [.defined 44 "Table" "[256]uint32"],
    funcs := [
      .at 122 "MakeTable(poly uint32) *Table",
      .at 146 "New(tab *Table) hash.Hash32",
      .at 158 "NewIEEE() hash.Hash32",
      .at 217 "Update(crc uint32, tab *Table, p []byte) uint32",
      .at 239 "Checksum(data []byte, tab *Table) uint32",
      .at 243 "ChecksumIEEE(data []byte) uint32"],
    extra := [
      "const Size = 4",
      "const IEEE = 0xedb88320",
      "const Castagnoli = 0x82f63b78",
      "const Koopman = 0xeb31d82e",
      "var IEEETable *Table"] }] }

end StaticWrap.Stdlib
