import StaticWrap.Marker.Fault
import StaticWrap.Check.Field
/-!
**Marker schemas and their registry.**

A schema names the parameters a kind of marker accepts: for each, its type (text, flag or list
of texts), whether it is required, an optional default, and an optional rule its value must
follow. A schema may also carry rules about the parameters together, and example markers.

The built-in `static` schema accepts `-Target` (an import path), `-Type` (an exported
identifier), `-Name` (an identifier), `-Include` and `-Exclude` (non-empty lists of globs); a
`-Type` needs a `-Target`, and no glob may be both included and excluded.

* `Registry.register` refuses a schema registered under another kind, a kind registered twice,
  and a schema with an unnamed parameter, a parameter of unknown type, a required parameter with
  a default, or a default of the wrong type (parameters taken in name order).
* `Registry.kinds` lists the registered kinds by number.
-/

namespace StaticWrap.Marker

/-- The type of a parameter, a number; the known types are numbered from 0 to 2, and every
other number is an unknown type. -/
inductive ParamType where
  | text
  | flag
  | textList
  | other (n : Int) (unknown : n < 0 ∨ 2 < n)
  deriving DecidableEq, Repr

/-- The type with a number. -/
def ParamType.ofInt (n : Int) : ParamType :=
  if unknown : n < 0 ∨ 2 < n then .other n unknown
  else match n.toNat with
    | 0 => .text
    | 1 => .flag
    | _ => .textList

/-- The number of a type. -/
def ParamType.toInt : ParamType → Int
  | .text => 0
  | .flag => 1
  | .textList => 2
  | .other n _ => n

@[simp, grind =] theorem ParamType.toInt_ofInt (n : Int) : (ParamType.ofInt n).toInt = n := by
  unfold ParamType.ofInt
  split
  · rfl
  · -- a known number is one of 0, 1 and 2
    obtain rfl | rfl | rfl : n = 0 ∨ n = 1 ∨ n = 2 := by omega
    all_goals rfl

/-- Types and their numbers correspond one to one. -/
@[simp, grind =] theorem ParamType.ofInt_toInt (t : ParamType) : ParamType.ofInt t.toInt = t := by
  cases t with
  | other n unknown => simp [ParamType.ofInt, ParamType.toInt, unknown]
  | _ => rfl

def ParamType.name : ParamType → String
  | .text => "string"
  | .flag => "bool"
  | .textList => "[]string"
  | .other _ _ => "unknown"

/-- The value has the type. -/
def ParamType.admits : ParamType → Value → Bool
  | .text, .text _ => true
  | .flag, .flag _ => true
  | .textList, .list _ => true
  | _, _ => false

/-- A reason a value breaks a parameter rule: a field check's fault, or a plain reason. -/
inductive RuleFault where
  | field (f : Check.FieldFault)
  | plain (msg : String)
  deriving DecidableEq, Repr

def RuleFault.text : RuleFault → String
  | .field f => f.text
  | .plain msg => msg

/-- A rule that the value of one parameter must follow. -/
inductive Rule where
  | importPath
  | exportedName
  | identifier
  | patterns
  deriving DecidableEq, Repr

/-- Lifts a field check's result. -/
def liftField (r : Except Check.FieldFault Unit) : Except RuleFault Unit :=
  match r with
  | .ok () => .ok ()
  | .error f => .error (.field f)

/-- Checks a value against a rule. -/
def Rule.check : Rule → Value → Except RuleFault Unit
  | .importPath, .text s => liftField (Check.importPath "Target" s)
  | .exportedName, .text s => liftField (Check.exportedIdentifier "Type" s)
  | .identifier, .text s => liftField (Check.identifier "Name" s)
  | .patterns, .list [] => .error (.plain "needs at least one pattern")
  | .patterns, .list items =>
    liftField (Check.eachItem "patterns" (Check.globPattern "pattern") items)
  | .patterns, v => .error (.plain ("must be a list of patterns, got " ++ v.typeName))
  | _, v => .error (.plain ("must be a string, got " ++ v.typeName))

/-- What a schema says of one parameter. -/
structure ParamSpec where
  type : ParamType
  required : Bool := false
  default? : Option Value := none
  rule? : Option Rule := none
  deriving DecidableEq, Repr

/-- A rule about the parameters of a marker together. -/
inductive Combination where
  /-- `-Type` needs `-Target`, and no pattern is both included and excluded. -/
  | staticTargets
  deriving DecidableEq, Repr

/-- The parameters of a marker, by name. -/
abbrev Params := List (String × Value)

def Params.get? (ps : Params) (name : String) : Option Value := ps.lookup name

/-- The items of a list parameter, or none. -/
def Params.items (ps : Params) (name : String) : List String :=
  match ps.get? name with
  | some (.list items) => items
  | _ => []

/-- The first pattern that is both included and excluded. -/
def overlap? (included excluded : List String) : Option String :=
  included.find? fun i => excluded.contains i

/-- Checks a combination rule. -/
def Combination.check : Combination → Params → Option String
  | .staticTargets, ps =>
    if (ps.get? "Type").isSome && (ps.get? "Target").isNone then
      some "-Type requires -Target; a marker without a target already wraps the annotated type"
    else
      (overlap? (ps.items "Include") (ps.items "Exclude")).map fun p =>
        "pattern '" ++ p ++ "' is both included and excluded"

/-- A schema: the accepted parameters in name order, the combination rules and examples. -/
structure Schema where
  kind : Kind
  params : List (String × ParamSpec)
  combinations : List Combination := []
  examples : List String := []
  deriving DecidableEq, Repr

/-- The examples of well-formed `static` markers. -/
def staticExamples : List String :=
  ["//mockable::static",
   "//mockable::static -Target=strconv",
   "//mockable::static -Target=math/rand -Name=MathRand",
   "//mockable::static -Target=github.com/jmoiron/sqlx -Type=DB",
   "//mockable::static -Target=os -Include=Read*,Write* -Exclude=ReadDir"]

/-- The built-in schema of `static` markers. -/
def staticSchema : Schema where
  kind := .static
  params :=
    [("Exclude", { type := .textList, rule? := some .patterns }),
     ("Include", { type := .textList, rule? := some .patterns }),
     ("Name", { type := .text, rule? := some .identifier }),
     ("Target", { type := .text, rule? := some .importPath }),
     ("Type", { type := .text, rule? := some .exportedName })]
  combinations := [.staticTargets]
  examples := staticExamples

/-- The registered schemas, by kind. -/
structure Registry where
  entries : List (Kind × Schema) := []
  deriving Repr

/-- The first fault of a schema's parameters, in name order. -/
def schemaFault? (params : List (String × ParamSpec)) : Option String :=
  params.findSome? fun (name, spec) =>
    if name.isEmpty then some "parameter name cannot be empty"
    else
      match spec.type with
      | .other n _ => some ("invalid parameter type for " ++ name ++ ": " ++ toString n)
      | t =>
        match spec.default? with
        | none => none
        | some d =>
          if spec.required then some ("required parameter " ++ name ++ " cannot declare a default")
          else if t.admits d then none
          else some ("default value for " ++ t.name ++ " parameter " ++ name ++ " has type " ++
            d.typeName)

def Registry.get? (r : Registry) (k : Kind) : Option Schema := r.entries.lookup k

/-- Registers a schema under a kind. -/
def Registry.register (r : Registry) (k : Kind) (s : Schema) : Except Fault Registry :=
  if s.kind ≠ k then .error (.registration k ("schema describes " ++ s.kind.name))
  else if (r.get? k).isSome then .error (.registration k "already registered")
  else match schemaFault? s.params with
    | some msg => .error (.registration k msg)
    | none => .ok { entries := r.entries ++ [(k, s)] }

/-- The registered kinds, by number. -/
def Registry.kinds (r : Registry) : List Kind :=
  (r.entries.map (·.1)).mergeSort fun a b => a.toInt ≤ b.toInt

/-- The registry holding the built-in schemas. -/
def Registry.builtin : Registry := { entries := [(.static, staticSchema)] }

end StaticWrap.Marker
