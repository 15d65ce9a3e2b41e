import StaticWrap.Model.Problem
import StaticWrap.Marker.Fault
import StaticWrap.Check.Field
/-!
**Failures: the errors the program passes around.**

A failure is one of: a plain text; a text that wraps a cause; a coded error (a class, a
message, a place, context entries and hints, with an optional cause, in four shapes: plain,
syntax, target, generation); a collection of coded errors; a problem with an optional cause; a
fault of a marker; a refused field; or a function that was skipped, with the reason.

* `Failure.message`: the text. A coded error shows its message, then `: cause`, all after
  `place: ` when the place has a file. A collection shows `no errors`, its only member, or
  `multiple errors (n total):` followed by numbered members.
* `Failure.cause?`: the one failure it wraps, if any; `Failure.inner`: all the failures it
  contains, in the order a search looks at them.
-/

namespace StaticWrap

/-- The class of a coded error, numbered from 0; other numbers read as unknown. -/
inductive ErrorCode where
  | unknown
  | parse
  | validation
  | registration
  | schema
  | generation
  | template
  | fileSystem
  | targetResolution
  | configuration
  | cancelled
  deriving DecidableEq, Repr, Inhabited

/-- The class with a number. -/
def ErrorCode.ofInt (n : Int) : ErrorCode :=
  match n with
  | 1 => .parse
  | 2 => .validation
  | 3 => .registration
  | 4 => .schema
  | 5 => .generation
  | 6 => .template
  | 7 => .fileSystem
  | 8 => .targetResolution
  | 9 => .configuration
  | 10 => .cancelled
  | _ => .unknown

/-- The name of a class. -/
def ErrorCode.name : ErrorCode → String
  | .unknown => "UnknownError"
  | .parse => "SyntaxError"
  | .validation => "ValidationError"
  | .registration => "RegistrationError"
  | .schema => "SchemaError"
  | .generation => "GenerationError"
  | .template => "TemplateError"
  | .fileSystem => "FileSystemError"
  | .targetResolution => "TargetResolutionError"
  | .configuration => "ConfigurationError"
  | .cancelled => "CancelledError"

/-- Where an error happened: a file, a line and a column, each optional. -/
structure Place where
  file : String := ""
  line : Int := 0
  column : Int := 0
  deriving DecidableEq, Repr, Inhabited

/-- A place has no file. -/
def Place.isEmpty (p : Place) : Bool := p.file.isEmpty

def Place.text (p : Place) : String :=
  if p.file.isEmpty then "unknown location"
  else if p.line == 0 then p.file
  else if p.column == 0 then p.file ++ ":" ++ toString p.line
  else p.file ++ ":" ++ toString p.line ++ ":" ++ toString p.column

/-- The shape of a coded error. -/
inductive Shape where
  | plain
  | parse
  /-- An error about a target that could not be resolved. -/
  | target (target : String)
  /-- An error while generating a file, with what was generated and at which stage. -/
  | generation (what file stage : String)
  deriving DecidableEq, Repr, Inhabited

/-- A coded error without its cause. -/
structure Coded where
  shape : Shape := .plain
  code : ErrorCode
  message : String
  place : Place := {}
  context : List (String × String) := []
  hints : List String := []
  deriving DecidableEq, Repr, Inhabited

/-- An error. -/
inductive Failure where
  | plain (text : String)
  /-- A text that wraps a cause; the text already shows the cause. -/
  | wrapped (text : String) (cause : Failure)
  | coded (c : Coded) (cause : Option Failure)
  | several (parts : List Failure)
  | problem (p : Model.Problem) (cause : Option Failure)
  | marker (f : Marker.Fault)
  | field (f : Check.FieldFault)
  | skip (func : String) (reason : Failure)
  deriving Repr, Inhabited

mutual

/-- The text of a failure. -/
def Failure.message : Failure → String
  | .plain t => t
  | .wrapped t _ => t
  | .coded c cause =>
    let msg := match cause with
      | some e => c.message ++ ": " ++ e.message
      | none => c.message
    if c.place.isEmpty then msg else c.place.text ++ ": " ++ msg
  | .several parts => severalMessage parts
  | .problem p _ => p.text
  | .marker f => f.message
  | .field f => f.text
  | .skip func reason => func ++ ": " ++ reason.message

/-- The text of a collection. -/
def severalMessage : List Failure → String
  | [] => "no errors"
  | [e] => e.message
  | es => "multiple errors (" ++ toString es.length ++ " total):\n" ++ numberedMessages 1 es

/-- Numbered lines, one per member. -/
def numberedMessages (i : Nat) : List Failure → String
  | [] => ""
  | [e] => "  " ++ toString i ++ ". " ++ e.message
  | e :: es => "  " ++ toString i ++ ". " ++ e.message ++ "\n" ++ numberedMessages (i + 1) es

end

/-- The one failure this failure wraps, if any. -/
def Failure.cause? : Failure → Option Failure
  | .wrapped _ c => some c
  | .coded _ c => c
  | .problem _ c => c
  | .skip _ r => some r
  | _ => none

/-- The failures this failure contains directly, in search order. -/
def Failure.inner : Failure → List Failure
  | .several parts => parts
  | e => e.cause?.toList

end StaticWrap
