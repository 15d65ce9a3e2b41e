import StaticWrap.Text.Basic
/-!
**Marker parameter values.**

A parameter of a marker holds a text, a flag (`-Name` without a value holds `true`), a list of
texts, or nothing. Each value has a type name and a display text, used in fault messages:
`string`, `bool`, `[]string` and `<nil>`; the display of a list is its items between brackets,
separated by spaces.

* `Value.asFlag`: a flag, or a text among `true 1 yes on` / `false 0 no off` in any case.
* `Value.asList`: a list, or a text cut at commas with blank items dropped; `none` when a text
  holds no item at all.
* `Location.text`: `file:line:column`, or `line:column` without a file.
-/

namespace StaticWrap.Marker

/-- A position in a source file; the line and column count from 1. -/
structure Location where
  file : String := ""
  line : Int := 0
  column : Int := 0
  deriving DecidableEq, Repr, Inhabited

/-- The position as text. -/
def Location.text (l : Location) : String :=
  if l.file.isEmpty then toString l.line ++ ":" ++ toString l.column
  else l.file ++ ":" ++ toString l.line ++ ":" ++ toString l.column

/-- The value of a marker parameter. -/
inductive Value where
  | null
  | text (s : String)
  | flag (b : Bool)
  | list (items : List String)
  deriving DecidableEq, Repr, Inhabited

def Value.typeName : Value → String
  | .null => "<nil>"
  | .text _ => "string"
  | .flag _ => "bool"
  | .list _ => "[]string"

/-- The display text of a value. -/
def Value.display : Value → String
  | .null => "<nil>"
  | .text s => s
  | .flag b => if b then "true" else "false"
  | .list items => "[" ++ " ".intercalate items ++ "]"

/-- A fault of converting a value. -/
inductive ConvertFault where
  | badFlagText (s : String)
  | notConvertible (value : Value) (target : String)
  deriving DecidableEq, Repr

/-- The text of a conversion fault. -/
def ConvertFault.message : ConvertFault → String
  | .badFlagText s => "invalid boolean string: " ++ s
  | .notConvertible v target => "cannot convert " ++ v.typeName ++ " to " ++ target

def Value.asFlag : Value → Except ConvertFault Bool
  | .flag b => .ok b
  | .text s =>
    let l := Text.lower s
    if ["true", "1", "yes", "on"].contains l then .ok true
    else if ["false", "0", "no", "off"].contains l then .ok false
    else .error (.badFlagText s)
  | v => .error (.notConvertible v "bool")

/-- The items of a comma-separated text, trimmed, with blank items dropped. -/
def splitItems (s : String) : List String :=
  ((Text.splitOn s ",").map Text.trimSpace).filter (!·.isEmpty)

/-- The value as a list; `none` when a text holds no item at all. -/
def Value.asList : Value → Except ConvertFault (Option (List String))
  | .list items => .ok (some items)
  | .text s =>
    let items := splitItems s
    .ok (if items.isEmpty then none else some items)
  | v => .error (.notConvertible v "[]string")

end StaticWrap.Marker
