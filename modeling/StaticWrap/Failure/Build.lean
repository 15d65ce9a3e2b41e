import StaticWrap.Failure.Search
/-!
**Building failures.**

The helpers give each kind of failure its message and code:

* `operationFailure op item`: `failed to op item`, unknown class.
* `parseFailure item`: `failed to parse item`, syntax class.
* `generateFailure what item stage`: `failed to generate item`.
* `fileFailure op path`: `failed to op file 'path'`, with the operation and path as context.
* `templateFailure name op`: `failed to op template 'name'`, template class.
* `configFailure kind op`: `failed to op configuration 'kind'`, with context.
* `targetFailure target reason`: `cannot resolve target 'target': reason`.
* `formatFailure`: a text made from a format and one failure: `%w`, `%v` and `%s` show the
  failure, `%%` a percent sign; the result wraps the failure only when a `%w` showed it.
-/

namespace StaticWrap

/-- A coded error with a class, a message and a cause. -/
def codedFailure (code : ErrorCode) (message : String) (cause : Option Failure) : Failure :=
  .coded { code := code, message := message } cause

/-- Sets a context entry of a coded error, replacing an entry with the same key. -/
def Coded.withContext (c : Coded) (key value : String) : Coded :=
  if c.context.any (·.1 == key) then
    { c with context := c.context.map fun e => if e.1 == key then (key, value) else e }
  else { c with context := c.context ++ [(key, value)] }

def operationFailure (op item : String) (cause : Option Failure) : Failure :=
  codedFailure .unknown ("failed to " ++ op ++ " " ++ item) cause

def parseFailure (item : String) (cause : Option Failure) : Failure :=
  .coded { shape := .parse, code := .parse, message := "failed to parse " ++ item } cause

def generateFailure (what item stage : String) (cause : Option Failure) : Failure :=
  .coded { shape := .generation what item stage, code := .generation,
           message := "failed to generate " ++ item } cause

/-- A failed file operation. -/
def fileFailure (op path : String) (cause : Option Failure) : Failure :=
  .coded ((({ code := .fileSystem, message := "failed to " ++ op ++ " file '" ++ path ++ "'" } :
    Coded).withContext "operation" op).withContext "path" path) cause

/-- A failed template operation. -/
def templateFailure (name op : String) (cause : Option Failure) : Failure :=
  .coded { shape := .generation "template" name op, code := .template,
           message := "failed to " ++ op ++ " template '" ++ name ++ "'" } cause

/-- A failed configuration operation. -/
def configFailure (kind op : String) (cause : Option Failure) : Failure :=
  .coded ((({ code := .configuration,
               message := "failed to " ++ op ++ " configuration '" ++ kind ++ "'" } :
    Coded).withContext "config_type" kind).withContext "operation" op) cause

/-- A target that cannot be resolved. -/
def targetFailure (target reason : String) (cause : Option Failure) : Failure :=
  .coded { shape := .target target, code := .targetResolution,
           message := "cannot resolve target '" ++ target ++ "': " ++ reason } cause

/-- A target whose package could not be loaded. -/
def targetLoadFailure (target : String) (cause : Option Failure) : Failure :=
  targetFailure target "package could not be loaded" cause

/-- The type name the default format shows for an extra or mismatched failure. -/
def Failure.typeName : Failure → String
  | .plain _ => "*errors.errorString"
  | .wrapped .. => "*fmt.wrapError"
  | .coded c _ =>
    match c.shape with
    | .plain => "*errors.BaseError"
    | .parse => "*errors.SyntaxError"
    | .target _ => "*errors.TargetError"
    | .generation .. => "*errors.GenerationError"
  | .several _ => "*errors.MultipleErrors"
  | .problem .. => "*models.GeneratorError"
  | .marker _ => "*annotations.Error"
  | .field _ => "*utils.ValidationError"
  | .skip .. => "*walker.SkipError"

/-- The text of a format with one failure argument; says whether the argument was consumed
and whether a `%w` consumed it. -/
def formatWith (arg : Option Failure) : List Char → Bool → String × Bool × Bool
  | [], used => ("", used, false)
  | '%' :: '%' :: rest, used =>
    let (t, u, w) := formatWith arg rest used
    ("%" ++ t, u, w)
  | '%' :: v :: rest, used =>
    if used then
      let (t, u, w) := formatWith arg rest used
      ("%!" ++ String.ofList [v] ++ "(MISSING)" ++ t, u, w)
    else
      let shown :=
        match arg with
        | some e =>
          if v == 'w' || v == 'v' || v == 's' then e.message
          else "%!" ++ String.ofList [v] ++ "(" ++ e.typeName ++ "=" ++ e.message ++ ")"
        | none => if v == 'v' then "<nil>" else "%!" ++ String.ofList [v] ++ "(<nil>)"
      let (t, u, w) := formatWith arg rest true
      (shown ++ t, u, w || (v == 'w' && arg.isSome))
  | ['%'], used => ("%!(NOVERB)", used, false)
  | c :: rest, used =>
    let (t, u, w) := formatWith arg rest used
    (String.ofList [c] ++ t, u, w)

/-- A failure whose text comes from a format and one failure. -/
def formatFailure (format : String) (arg : Option Failure) : Failure :=
  let (text, used, wraps) := formatWith arg format.toList false
  let text :=
    if used then text
    else
      match arg with
      | some e => text ++ "%!(EXTRA " ++ e.typeName ++ "=" ++ e.message ++ ")"
      | none => text ++ "%!(EXTRA <nil>)"
  match arg, wraps with
  | some e, true => .wrapped text e
  | _, _ => .plain text

/-- A collection of coded errors; other failures are left out. -/
def collectCoded (es : List Failure) : Failure :=
  .several (es.filter fun e => e.codedParts.isSome)

end StaticWrap
