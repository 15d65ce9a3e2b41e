import StaticWrap.Marker.Value
/-!
**Faults of reading and checking a marker.**

A marker can be refused for its syntax, for one parameter (with what was expected, what was
found and a hint), for its schema, or when a schema cannot be registered; checking a marker
against its schema collects several faults at once. A marker whose quoted value is empty makes
the reader crash.

* `Fault.message`: the text of each fault; a hint follows after `. `.
* `Fault.code`: `SyntaxError`, `ValidationError`, `SchemaError`, `RegistrationError`; a
  collection takes the code of its first fault.
-/

namespace StaticWrap.Marker

/-- The kind of an annotation, a number; the only kind the program knows is `static`, number 0,
and every other number is an unknown kind. -/
inductive Kind where
  | static
  | other (n : Int) (unknown : n ≠ 0)
  deriving DecidableEq, Repr

/-- The number of a kind. -/
def Kind.toInt : Kind → Int
  | .static => 0
  | .other n _ => n

/-- The kind with a number. -/
def Kind.ofInt (n : Int) : Kind := if known : n = 0 then .static else .other n known

@[simp, grind =] theorem Kind.toInt_ofInt (n : Int) : (Kind.ofInt n).toInt = n := by
  unfold Kind.ofInt
  split
  · exact ‹n = 0›.symm
  · rfl

/-- Kinds and their numbers correspond one to one. -/
@[simp, grind =] theorem Kind.ofInt_toInt (k : Kind) : Kind.ofInt k.toInt = k := by
  cases k with
  | static => rfl
  | other n unknown => simp [Kind.ofInt, Kind.toInt, unknown]

def Kind.name : Kind → String
  | .static => "static"
  | .other _ _ => "unknown"

/-- The class of a fault. -/
inductive Code where
  | grammar
  | validation
  | schema
  | registration
  deriving DecidableEq, Repr

/-- The name of a fault class. -/
def Code.name : Code → String
  | .grammar => "SyntaxError"
  | .validation => "ValidationError"
  | .schema => "SchemaError"
  | .registration => "RegistrationError"

/-- The name of a fault class by its number; unknown numbers have a name of their own. -/
def codeName (n : Int) : String :=
  match n with
  | 0 => Code.grammar.name
  | 1 => Code.validation.name
  | 2 => Code.schema.name
  | 3 => Code.registration.name
  | _ => "UnknownError"

/-- A fault with a position and a hint. -/
inductive Single where
  /-- The marker does not follow the grammar. -/
  | grammar (msg : String) (loc : Location) (hint : String)
  /-- A parameter is unknown, repeated, of the wrong type or has a bad value. -/
  | invalid (param expected actual : String) (loc : Location) (hint : String)
  /-- The marker breaks a rule of its schema. -/
  | schema (msg : String) (loc : Location) (hint : String)
  deriving DecidableEq, Repr

/-- A hint after the text, when there is one. -/
def withHint (msg hint : String) : String := if hint.isEmpty then msg else msg ++ ". " ++ hint

/-- The text of a single fault. -/
def Single.message : Single → String
  | .grammar msg loc hint => withHint (loc.text ++ ": syntax error: " ++ msg) hint
  | .invalid p e a loc hint =>
    withHint (loc.text ++ ": parameter '" ++ p ++ "' is invalid: expected " ++ e ++ ", got " ++ a) hint
  | .schema msg loc hint => withHint (loc.text ++ ": " ++ msg) hint

/-- The class of a single fault. -/
def Single.code : Single → Code
  | .grammar .. => .grammar
  | .invalid .. => .validation
  | .schema .. => .schema

/-- The position of a single fault. -/
def Single.location : Single → Location
  | .grammar _ loc _ => loc
  | .invalid _ _ _ loc _ => loc
  | .schema _ loc _ => loc

/-- The hint of a single fault. -/
def Single.hint : Single → String
  | .grammar _ _ h => h
  | .invalid _ _ _ _ h => h
  | .schema _ _ h => h

/-- A fault of reading or checking a marker. -/
inductive Fault where
  | one (f : Single)
  /-- The faults found by checking a marker against its schema, in the order found. -/
  | several (faults : List Single)
  /-- A schema that cannot be registered. -/
  | registration (kind : Kind) (msg : String)
  /-- The reader crashed on an empty quoted value. -/
  | crash
  deriving DecidableEq, Repr

/-- The text of a fault. -/
def Fault.message : Fault → String
  | .one f => f.message
  | .several [] => "no errors"
  | .several [f] => f.message
  | .several fs => "multiple validation errors:\n" ++ "\n".intercalate (fs.map Single.message)
  | .registration k msg => "cannot register annotation " ++ k.name ++ ": " ++ msg
  | .crash => "runtime error: slice bounds out of range [:-1]"

/-- The faults a fault stands for: itself, or those it collects. -/
def Fault.parts : Fault → List Single
  | .one f => [f]
  | .several fs => fs
  | _ => []

end StaticWrap.Marker
