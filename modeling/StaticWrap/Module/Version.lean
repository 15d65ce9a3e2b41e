import StaticWrap.Text.Quote
/-!
**Module versions.**

* `canonical?`: the canonical form `vMAJOR.MINOR.PATCH[-pre]` of a semantic version, where
  `v1` and `v1.2` stand for `v1.0.0` and `v1.2.0`; build metadata is dropped, except that
  `+incompatible` is kept.
* `splitPathVersion`: the major-version suffix of a module path (`/v2`, or `.v2` for
  `gopkg.in` paths), or none when the path ends in a malformed one.
* `checkVersion`: the fault of the version of a `require`, `exclude` or `replace` line, if any:
  it must be canonical up to shorthand, and agree with the path's major-version suffix.
-/

namespace StaticWrap.GoMod.Version

/-- An ASCII digit. -/
def isDigit (c : Char) : Bool := '0' ≤ c && c ≤ '9'

/-- A run of digits without a leading zero (or a single zero). -/
def isNumber (l : List Char) : Bool :=
  !l.isEmpty && l.all isDigit && (l.length == 1 || l.head? != some '0')

/-- A dot-separated identifier list of a pre-release or build part. -/
def isIdentList (numeric : Bool) (s : List Char) : Bool :=
  let parts := (Text.splitOn (String.ofList s) ".").map String.toList
  parts.all fun p =>
    !p.isEmpty && p.all (fun c => Text.isLetter c && c.toNat < 128 || isDigit c || c == '-') &&
      (!numeric || !(p.all isDigit) || isNumber p)

/-- The parts of a semantic version: major, minor, patch, pre-release and build. -/
structure Parts where
  major : String
  minor : String
  patch : String
  pre : String
  build : String
  /-- The version used the `vN` or `vN.M` shorthand. -/
  short : Bool
  deriving Repr

/-- Splits a version without its `v` at the first of the given characters. -/
def cutAt (cs : List Char) (l : List Char) : List Char × List Char :=
  (l.takeWhile (fun c => !cs.contains c), l.dropWhile (fun c => !cs.contains c))

/-- The parts of a semantic version. -/
def parse? (v : String) : Option Parts := do
  let l ← match v.toList with
    | 'v' :: rest => some rest
    | _ => none
  let (major, rest) := cutAt ['.', '-', '+'] l
  if !isNumber major then none
  match rest with
  | [] => pure ⟨String.ofList major, "0", "0", "", "", true⟩
  | '.' :: rest =>
    let (minor, rest) := cutAt ['.', '-', '+'] rest
    if !isNumber minor then none
    match rest with
    | [] => pure ⟨String.ofList major, String.ofList minor, "0", "", "", true⟩
    | '.' :: rest =>
      let (patch, rest) := cutAt ['-', '+'] rest
      if !isNumber patch then none
      let (pre, rest) := match rest with
        | '-' :: more => let (p, r) := cutAt ['+'] more; ('-' :: p, r)
        | r => ([], r)
      if !pre.isEmpty && !isIdentList true (pre.drop 1) then none
      let build := match rest with
        | '+' :: more => '+' :: more
        | _ => []
      if !rest.isEmpty && (rest.head? != some '+' || !isIdentList false (build.drop 1)) then none
      pure ⟨String.ofList major, String.ofList minor, String.ofList patch, String.ofList pre,
        String.ofList build, false⟩
    | _ => none
  | _ => none

/-- The canonical form of a module version. -/
def canonical? (v : String) : Option String := do
  let p ← parse? v
  let base := "v" ++ p.major ++ "." ++ p.minor ++ "." ++ p.patch ++ p.pre
  pure (if p.build == "+incompatible" then base ++ "+incompatible" else base)

/-- The major version of a version, `v0` for none. -/
def major (v : String) : String :=
  match parse? v with
  | some p => "v" ++ p.major
  | none => ""

/-- The build part of a version. -/
def buildOf (v : String) : String :=
  match parse? v with
  | some p => p.build
  | none => ""

/-- A Go version as the `go` line wants it. -/
def isGoVersion (v : String) : Bool :=
  let l := v.toList
  let (a, rest) := (l.takeWhile isDigit, l.dropWhile isDigit)
  a.head? != some '0' && !a.isEmpty &&
    match rest with
    | '.' :: rest =>
      let (b, rest) := (rest.takeWhile isDigit, rest.dropWhile isDigit)
      isNumber b &&
        let tail : List Char := match rest with
          | '.' :: more => if isNumber (more.takeWhile isDigit) then more.dropWhile isDigit else ['!']
          | r => r
        tail.isEmpty ||
          (let letters := tail.takeWhile (fun c => 'a' ≤ c && c ≤ 'z')
           let digits := tail.drop letters.length
           !letters.isEmpty && !digits.isEmpty && digits.all isDigit)
    | _ => false

/-- The `MAJOR.MINOR` prefix of a loosely written Go version. -/
def laxGoVersion? (v : String) : Option String :=
  let l := match v.toList with
    | 'v' :: rest => rest
    | r => r
  let a := l.takeWhile isDigit
  let rest := l.drop a.length
  match rest with
  | '.' :: more =>
    let b := more.takeWhile isDigit
    let tail := more.drop b.length
    if a.head? != some '0' && !a.isEmpty && isNumber b && !tail.isEmpty && !isDigit (tail.headD '0') then
      some (String.ofList (a ++ '.' :: b))
    else none
  | _ => none

/-- The major-version suffix of a `gopkg.in` path. -/
def splitGopkgIn (path : String) : Option String :=
  let l := path.toList
  let l := match Text.cutSuffix? path "-unstable" with
    | some p => p.toList
    | none => l
  let digits := (l.reverse.takeWhile isDigit).reverse
  let before := l.take (l.length - digits.length)
  match before.reverse with
  | 'v' :: '.' :: _ =>
    let m := '.' :: 'v' :: digits
    if digits.isEmpty || (digits.head? == some '0' && m != ['.', 'v', '0']) then none
    else some (String.ofList m)
  | _ => none

/-- The major-version suffix of a module path (empty for none), or none when malformed. -/
def splitPathVersion (path : String) : Option String :=
  if Text.hasPrefix path "gopkg.in/" then splitGopkgIn path
  else
    let l := path.toList
    let tail := (l.reverse.takeWhile (fun c => isDigit c || c == '.')).reverse
    let before := l.take (l.length - tail.length)
    match before.reverse with
    | 'v' :: '/' :: _ =>
      if tail.isEmpty then some ""
      else
        let m := '/' :: 'v' :: tail
        if tail.contains '.' || tail.head? == some '0' || m == ['/', 'v', '1'] then none
        else some (String.ofList m)
    | _ => some ""

/-- The canonical form of a possibly quoted version on a line of `verb` for `path`, or the
fault. -/
def canonicalOrFault (verb path raw : String) : Except String String :=
  let unq : Except String String :=
    if Text.hasPrefix raw "\"" then
      match Text.unquote? raw with
      | some t => .ok t
      | none => .error "invalid syntax"
    else if raw.toList.any (fun c => c == '"' || c == '\'' || c == Text.backQuote) then
      .error "unquoted string cannot contain quote"
    else .ok raw
  let pre := verb ++ " " ++ path ++ ": "
  match unq with
  | .error e => .error (pre ++ "version " ++ Text.quote raw ++ " invalid: " ++ e)
  | .ok v =>
    match canonical? v with
    | none => .error (pre ++ "version " ++ Text.quote v ++ " invalid: must be of the form v1.2.3")
    | some cv => .ok cv

/-- The fault of the version of a `require`, `exclude` or `replace` line (named by `verb`)
against its path, if any. -/
def checkVersion (verb path raw : String) : Option String :=
  let pre := verb ++ " " ++ path ++ ": "
  match canonicalOrFault verb path raw with
  | .error e => some e
  | .ok cv =>
    match splitPathVersion path with
    | none => some "invalid module path"
    | some pm =>
      let pm := if Text.hasPrefix pm ".v" then Text.trimSuffix pm "-unstable" else pm
      if Text.hasPrefix cv "v0.0.0-" && pm == ".v1" then none
      else
        let m := major cv
        if pm.isEmpty then
          if m == "v0" || m == "v1" || buildOf cv == "+incompatible" then none
          else some (pre ++ "version " ++ Text.quote cv ++ " invalid: should be v0 or v1, not " ++ m)
        else if m == Text.dropChars pm 1 then none
        else some (pre ++ "version " ++ Text.quote cv ++ " invalid: should be " ++ Text.dropChars pm 1 ++
          ", not " ++ m)

end StaticWrap.GoMod.Version
