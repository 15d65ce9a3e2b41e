import StaticWrap.Build.Constraint
/-!
**Which source files a build uses.**

The build targets linux on amd64 with the gc compiler and cgo off, knows the release tags
`go1.1` to `go1.25`, and takes extra tags from the user.

* `goodOSArchFile`: a file name ending in `_GOOS`, `_GOARCH` or `_GOOS_GOARCH` (before a
  `_test` suffix and the extension) is only built for that system and architecture.
* `shouldBuild`: the file's `//go:build` line decides; without one, every `// +build` line
  in the leading comment block (before its last blank line) must hold. A malformed
  `//go:build` line, or two of them, is a fault.
* `matchFile`: a `.go` file whose name does not start with `_` or `.`, that suits the system
  and architecture and whose constraints hold. A fault counts as a match: the file is then
  read and its fault reported there.
-/

namespace StaticWrap.Build

/-- The operating systems a file name can be specific to. -/
def knownOS : List String :=
  ["aix", "android", "darwin", "dragonfly", "freebsd", "hurd", "illumos", "ios", "js", "linux",
   "nacl", "netbsd", "openbsd", "plan9", "solaris", "wasip1", "windows", "zos"]

/-- The architectures a file name can be specific to. -/
def knownArch : List String :=
  ["386", "amd64", "amd64p32", "arm", "armbe", "arm64", "arm64be", "loong64", "mips", "mipsle",
   "mips64", "mips64le", "mips64p32", "mips64p32le", "ppc", "ppc64", "ppc64le", "riscv",
   "riscv64", "s390", "s390x", "sparc", "sparc64", "wasm"]

/-- The tags the toolchain itself sets. -/
def toolTags : List String :=
  ["amd64.v1", "goexperiment.regabiwrappers", "goexperiment.regabiargs",
   "goexperiment.aliastypeparams", "goexperiment.swissmap", "goexperiment.synchashtriemap",
   "goexperiment.dwarf5"]

def releaseTags : List String := (List.range 25).map fun i => "go1." ++ toString (i + 1)

/-- The tag is set for a build with the given extra tags; `boringcrypto` is an old name of
`goexperiment.boringcrypto`. -/
def matchTag (extra : List String) (name : String) : Bool :=
  let name := if name == "boringcrypto" then "goexperiment.boringcrypto" else name
  name == "linux" || name == "amd64" || name == "gc" || name == "unix" ||
    extra.contains name || toolTags.contains name || releaseTags.contains name

/-- The file name suits the system and architecture. -/
def goodOSArchFile (extra : List String) (name : String) : Bool :=
  let name := (Text.splitOn name ".").headD ""
  match Text.indexOf? name "_" with
  | none => true
  | some i =>
    let l := Text.splitOn (Text.dropChars name i) "_"
    let l := if l.getLast? == some "test" then l.dropLast else l
    let n := l.length
    let last := l.getD (n - 1) ""
    let before := l.getD (n - 2) ""
    if n ≥ 2 && knownOS.contains before && knownArch.contains last then
      matchTag extra last && matchTag extra before
    else if n ≥ 1 && (knownOS.contains last || knownArch.contains last) then matchTag extra last
    else true

def isGoBuildLine (line : String) : Bool :=
  match Text.cutPrefix? line "//go:build" with
  | none => false
  | some rest => rest.isEmpty || (Text.trimSpace rest).length < rest.length

/-- What the leading comments of a file say: the `//go:build` line if any, the text before
the last blank line of the leading block, and whether there were two `//go:build` lines. -/
structure Header where
  goBuild : Option String := none
  plusBlock : List String := []
  twice : Bool := false

/-- Dropping a prefix never lengthens a list. -/
theorem length_dropWhile_le {α : Type} (p : α → Bool) (l : List α) :
    (l.dropWhile p).length ≤ l.length := by
  induction l with
  | nil => simp
  | cons a t ih =>
    simp only [List.dropWhile_cons]
    split
    · simp; omega
    · simp

/-- The rest of a line once block comments are skipped: none when the line ends inside a
comment or in a line comment, or the text that is not a comment. -/
def skipComments : List Char → Bool → Option (List Char) × Bool
  | [], inBlock => (none, inBlock)
  | c :: l, true =>
    match h : Text.findList ['*', '/'] (c :: l) 0 with
    | some i =>
      have := length_dropWhile_le Text.isSpace (l.drop (i + 1))
      have : (l.drop (i + 1)).length ≤ l.length := by simp
      skipComments ((l.drop (i + 1)).dropWhile Text.isSpace) false
    | none => (none, true)
  | '/' :: '/' :: _, false => (none, false)
  | '/' :: '*' :: rest, false =>
    have := length_dropWhile_le Text.isSpace rest
    skipComments (rest.dropWhile Text.isSpace) true
  | l, false => (some l, false)
  termination_by l _ => l.length
  decreasing_by
    all_goals simp_wf
    all_goals omega

/-- Scans the leading lines of a file. `seen` holds the lines so far and `block` those before
the last blank line. -/
def scanHeader (h : Header) (seen : List String) (ended inBlock : Bool) :
    List String → Header
  | [] => h
  | raw :: rest =>
    let line := Text.trimSpace raw
    if line.isEmpty && !ended then
      scanHeader { h with plusBlock := seen ++ [raw] } (seen ++ [raw]) ended inBlock rest
    else
      let ended := ended || !Text.hasPrefix line "//"
      let h :=
        if !inBlock && isGoBuildLine line then
          if h.goBuild.isSome then { h with twice := true } else { h with goBuild := some line }
        else h
      match skipComments line.toList inBlock with
      | (some _, _) => h
      | (none, inBlock) => scanHeader h (seen ++ [raw]) ended inBlock rest

/-- The constraints of a file hold; none when they are malformed. -/
def shouldBuild (extra : List String) (content : String) : Option Bool :=
  let h := scanHeader {} [] false false (Text.splitOn content "\n")
  if h.twice then none
  else
    match h.goBuild with
    | some line => do
      let text ← goBuildText? line
      let x ← parseExpr text
      pure (x.eval (matchTag extra))
    | none =>
      some (h.plusBlock.all fun raw =>
        let line := Text.trimSpace raw
        if !Text.hasPrefix line "//" || !Text.containsText line "+build" then true
        else
          match plusBuildText? line with
          | none => true
          | some text =>
            match plusBuildExpr text with
            | some x => x.eval (matchTag extra)
            | none => true)

/-- The build uses the file, or cannot tell. -/
def matchFile (extra : List String) (name content : String) : Bool :=
  if Text.hasPrefix name "_" || Text.hasPrefix name "." then false
  else if !Text.hasSuffix name ".go" then false
  else if !goodOSArchFile extra name then false
  else if content.toList.contains (Char.ofNat 0) then true
  else (shouldBuild extra content).getD true

end StaticWrap.Build
