import StaticWrap.Marker.Grammar
import StaticWrap.Marker.Schema
import StaticWrap.Text.Basic
/-!
**Reading a marker comment against the registered schemas.**

Reading goes in stages, and the first stage that refuses decides the fault:

1. the comment, trimmed, is cut into tokens and read by the grammar; a fault there is a syntax
   fault at the comment's position moved right by the token's column;
2. the kind word must be `static`;
3. a parameter may appear once (the second occurrence is refused at its own column);
4. each known parameter's value is converted to its declared type (in name order; the first
   failure is refused alone);
5. the converted marker is checked: required parameters, unknown parameters, types and value
   rules (in name order, all faults collected), then, when those pass, the schema's combination
   rules.

* `Annotation`: the kind, the converted parameters, the position and the trimmed text.
* `readMarker`: the annotation, or the fault.
-/

namespace StaticWrap.Marker

/-- A marker read and checked: its kind, its parameters by name, its position and its text. -/
structure Annotation where
  kind : Kind
  params : Params
  location : Location
  raw : String
  deriving DecidableEq, Repr

/-- The hint printed with every syntax fault of the grammar. -/
def formatHint : String :=
  "Use format: //mockable::static [-Target=<import path>] [-Type=<Type>] [-Name=<Name>] " ++
    "[-Include=<globs>] [-Exclude=<globs>]"

/-- The position moved right by a column inside the comment. -/
def Location.shift (l : Location) (column : Nat) : Location :=
  if column = 0 then l else { l with column := l.column + column - 1 }

/-- The syntax fault of a cutting fault. -/
def LexFault.toFault (loc : Location) : LexFault → Fault
  | .noRule sample col =>
    .one (.grammar ("lexer: invalid input text " ++ Text.quote sample) (loc.shift col) formatHint)
  | .badQuote lit col =>
    .one (.grammar ("invalid quoted string " ++ Text.quote lit ++ ": invalid syntax")
      (loc.shift col) formatHint)
  | .emptyQuote => .crash

def convertTo (t : ParamType) (v : Value) : Except String Value :=
  match t with
  | .text => match v with
    | .text s => .ok (.text s)
    | _ => .error "a value is required"
  | .flag => match v.asFlag with
    | .ok b => .ok (.flag b)
    | .error e => .error e.message
  | .textList => match v with
    | .flag _ => .error "a list of values is required"
    | _ => match v.asList with
      | .ok items => .ok (.list (items.getD []))
      | .error e => .error e.message
  | .other n _ => .error ("unsupported target type: " ++ toString n)

/-- Converts the known parameters to their declared types, in name order. -/
def convertParams (schema : Schema) (loc : Location) : Params → Except Fault Params
  | [] => .ok []
  | (name, v) :: rest =>
    match schema.params.lookup name with
    | none => (convertParams schema loc rest).map ((name, v) :: ·)
    | some spec =>
      match convertTo spec.type v with
      | .ok v' => (convertParams schema loc rest).map ((name, v') :: ·)
      | .error hint =>
        .error (.one (.invalid name ("value convertible to " ++ spec.type.name)
          (v.display ++ " (" ++ v.typeName ++ ")") loc hint))

/-- Adds the defaults of parameters that are not given. -/
def applyDefaults (schema : Schema) (ps : Params) : Params :=
  ps ++ schema.params.filterMap fun (name, spec) =>
    match spec.default?, ps.lookup name with
    | some d, none => some (name, d)
    | _, _ => none

/-- The hint for a value of the wrong type. -/
def typeHint (name : String) : ParamType → String
  | .text => "Provide a value with -" ++ name ++ "=<value>"
  | .flag => "Use -" ++ name ++ " or -" ++ name ++ "=true"
  | .textList => "Provide comma-separated values"
  | .other _ _ => ""

/-- The known parameters, as they are offered in a hint. -/
def knownParams (schema : Schema) : String :=
  ", ".intercalate ((Text.sortTexts (schema.params.map (·.1))).map ("-" ++ ·))

/-- The faults of one given parameter. -/
def paramFaults (schema : Schema) (loc : Location) (name : String) (v : Value) : List Single :=
  match schema.params.lookup name with
  | none =>
    [.invalid name "known parameter" ("unknown parameter '" ++ name ++ "'") loc
      ("Remove -" ++ name ++ " or use one of: " ++ knownParams schema)]
  | some spec =>
    if !spec.type.admits v then [.invalid name spec.type.name v.typeName loc (typeHint name spec.type)]
    else
      match spec.rule? with
      | none => []
      | some r =>
        match r.check v with
        | .ok () => []
        | .error f => [.invalid name "valid value" v.display loc f.text]

/-- Checks converted parameters against the schema, collecting every fault. -/
def checkParams (schema : Schema) (loc : Location) (ps : Params) : List Single :=
  let missing := (Text.sortBy (·.1) schema.params).filterMap fun (name, spec) =>
    if spec.required && (ps.lookup name).isNone then
      some (.invalid name ("required parameter of type " ++ spec.type.name) "missing" loc
        ("Add -" ++ name ++ "=<value> to the annotation"))
    else none
  let given := (Text.sortBy (·.1) ps).flatMap fun (name, v) => paramFaults schema loc name v
  let faults := missing ++ given
  if faults.isEmpty then
    schema.combinations.filterMap fun c =>
      (c.check ps).map fun msg =>
        .schema msg loc "Check annotation parameters and their combinations"
  else faults

/-- Converts and checks the parameters of a marker against the schema of its kind. -/
def validate (registry : Registry) (kind : Kind) (loc : Location) (ps : Params) :
    Except Fault Params :=
  match registry.get? kind with
  | none => .error (.one (.schema ("annotation type " ++ kind.name ++ " is not registered") loc ""))
  | some schema => do
    let converted ← convertParams schema loc (Text.sortBy (·.1) ps)
    let full := applyDefaults schema converted
    match checkParams schema loc full with
    | [] => .ok full
    | faults => .error (.several faults)

/-- Collects the written parameters, refusing a parameter given twice. -/
def collectParams (loc : Location) : Params → List WrittenParam → Except Fault Params
  | acc, [] => .ok acc
  | acc, p :: ps =>
    if (acc.lookup p.name).isSome then
      .error (.one (.invalid p.name "a single occurrence" "repeated parameter" (loc.shift p.column)
        ("Remove the extra -" ++ p.name)))
    else
      let v := match p.value? with
        | some s => Value.text s
        | none => Value.flag true
      collectParams loc (acc ++ [(p.name, v)]) ps

/-- Reads a marker comment at a position and checks it against the registry. -/
def readMarker (registry : Registry) (comment : String) (loc : Location) :
    Except Fault Annotation := do
  let raw := Text.trimSpace comment
  let tokens ← match lexMarker raw with
    | .ok ts => .ok ts
    | .error f => .error (f.toFault loc)
  let written ← match parseTokens tokens with
    | .ok w => .ok w
    | .error g => .error (.one (.grammar g.message (loc.shift g.column) formatHint))
  let kind ← if written.kind == "static" then .ok Kind.static
    else .error (.one (.grammar ("unknown marker 'mockable::" ++ written.kind ++ "'") loc
      "Use //mockable::static"))
  if (registry.get? kind).isNone then
    .error (.one (.schema ("annotation type '" ++ kind.name ++ "' is not registered") loc ""))
  let params ← collectParams loc [] written.params
  let checked ← validate registry kind loc params
  return { kind, params := checked, location := loc, raw }

end StaticWrap.Marker

namespace StaticWrap.Marker

/-- A comment is a marker candidate: a line comment whose text, after blanks, starts with
`mockable::`. -/
def isMarker (comment : String) : Bool :=
  match Text.cutPrefix? (Text.trimSpace comment) "//" with
  | some rest => Text.hasPrefix (Text.trimSpace rest) "mockable::"
  | none => false

end StaticWrap.Marker
