import StaticWrap.Text.Basic
import StaticWrap.Number.Shortest
/-!
**Values of a settings file.**

A settings file is a tree of values: nothing, truth values, whole numbers, binary64 numbers,
texts, dates and times, lists and maps with text keys (in file order). The file formats read
into this one type, and the settings are decoded from it.

Whole numbers are kept in the signed 64-bit range; a format that reads a whole number above it
and below `2^64` keeps it apart (`uint`), since decoding treats the two differently.

* `Value.typeName`: the name a decoding fault gives the kind of a value.
* `Value.lookup`: the entry of a map under a key, compared without regard to case.
-/

namespace StaticWrap.Settings

/-- A value of a settings file. -/
inductive Value where
  | null
  | bool (b : Bool)
  /-- A whole number in the signed 64-bit range. -/
  | int (n : Int)
  /-- A whole number above the signed 64-bit range and below `2^64`. -/
  | uint (n : Nat)
  | float (x : Number.Binary64)
  | text (s : String)
  /-- A date or a time of day, which has no text form in the settings; named by its type. -/
  | moment (typeName : String)
  | list (items : List Value)
  | map (entries : List (String × Value))
  deriving Repr, Inhabited

/-- The name a decoding fault gives the kind of a value. -/
def Value.typeName : Value → String
  | .null => "<nil>"
  | .bool _ => "bool"
  | .int _ => "int"
  | .uint _ => "uint64"
  | .float _ => "float64"
  | .text _ => "string"
  | .moment n => n
  | .list _ => "[]interface \x7b\x7d"
  | .map _ => "map[string]interface \x7b\x7d"

/-- The entry of a map under a key, compared without regard to case; the last entry wins. -/
def Value.lookup (v : Value) (key : String) : Option Value :=
  match v with
  | .map entries => (entries.reverse.find? fun e => Text.lower e.1 == Text.lower key).map (·.2)
  | _ => none

end StaticWrap.Settings
