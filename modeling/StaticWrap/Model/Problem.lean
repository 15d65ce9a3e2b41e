import StaticWrap.Text.Basic
/-!
**Problems reported to the user.**

A problem names its class, the file and line it concerns, a message, suggestions and context
entries (a key and the shown value). Its text starts with `file:line: ` when both are known,
with `file: ` when only the file is.

* `ProblemType`: annotation syntax, validation, generation, file system, target resolution,
  configuration, numbered from 0; other numbers are unknown.
-/

namespace StaticWrap.Model

/-- The class of a problem, a number: the known classes are numbered from 0 to 5, and every
other number is an unknown class. -/
inductive ProblemType where
  | annotationSyntax
  | validation
  | generation
  | fileSystem
  | targetResolution
  | configuration
  | other (n : Int) (unknown : n < 0 ∨ 5 < n)
  deriving DecidableEq, Repr, Inhabited

/-- The class with a number. -/
def ProblemType.ofInt (n : Int) : ProblemType :=
  if unknown : n < 0 ∨ 5 < n then .other n unknown
  else match n.toNat with
    | 0 => .annotationSyntax
    | 1 => .validation
    | 2 => .generation
    | 3 => .fileSystem
    | 4 => .targetResolution
    | _ => .configuration

/-- The name of a problem class. -/
def ProblemType.name : ProblemType → String
  | .annotationSyntax => "AnnotationSyntax"
  | .validation => "Validation"
  | .generation => "Generation"
  | .fileSystem => "FileSystem"
  | .targetResolution => "TargetResolution"
  | .configuration => "Configuration"
  | .other _ _ => "Unknown"

/-- A problem: class, file, line, message, suggestions and context entries. -/
structure Problem where
  type : ProblemType
  file : String := ""
  line : Int := 0
  message : String
  suggestions : List String := []
  context : List (String × String) := []
  deriving DecidableEq, Repr, Inhabited

def Problem.text (p : Problem) : String :=
  if !p.file.isEmpty && p.line > 0 then p.file ++ ":" ++ toString p.line ++ ": " ++ p.message
  else if !p.file.isEmpty then p.file ++ ": " ++ p.message
  else p.message

end StaticWrap.Model
