import StaticWrap.Check.ImportPath
import StaticWrap.Go.Ident
import StaticWrap.Glob.Basic
/-!
**Checks of a named field.**

A field check looks at one text value and either accepts it or names the field with a reason.
The reasons are: the value is empty; it is not an identifier; it is not exported; it is not a
well-formed import path (`checkImportPath`); it is not a readable glob (`Glob.compile`). A
check of each item of a list names the failing item as `field[i]` and carries the item's own
fault text.

* `FieldFault.text`: `validation error for field 'f': reason`, or `validation error: reason`
  when the field has no name.
-/

namespace StaticWrap.Check

/-- A value that a field check refused, with the reason. -/
structure FieldFault where
  field : String
  message : String
  deriving DecidableEq, Repr

def FieldFault.text (f : FieldFault) : String :=
  if f.field.isEmpty then "validation error: " ++ f.message
  else "validation error for field '" ++ f.field ++ "': " ++ f.message

/-- The value is not empty. -/
def notEmpty (field v : String) : Except FieldFault Unit :=
  if v.isEmpty then .error ⟨field, "cannot be empty"⟩ else .ok ()

/-- The value is an identifier. -/
def identifier (field v : String) : Except FieldFault Unit :=
  if v.isEmpty then .error ⟨field, "cannot be empty"⟩
  else if !Go.isIdentifier v then .error ⟨field, "must be a valid Go identifier"⟩
  else .ok ()

/-- The value is an exported identifier. -/
def exportedIdentifier (field v : String) : Except FieldFault Unit := do
  identifier field v
  if !Go.isExported v then .error ⟨field, "must be exported"⟩

/-- The value is a well-formed import path. -/
def importPath (field v : String) : Except FieldFault Unit :=
  if v.isEmpty then .error ⟨field, "cannot be empty"⟩
  else match checkImportPath v with
    | some f => .error ⟨field, f.describe v⟩
    | none => .ok ()

/-- The value is a readable glob pattern. -/
def globPattern (field v : String) : Except FieldFault Unit :=
  match Glob.compile v with
  | .error f => .error ⟨field, "invalid glob pattern: " ++ f.message⟩
  | .ok _ => .ok ()

/-- Every item passes the check; the first failing item is named `field[i]`. -/
def eachItem (field : String) (check : String → Except FieldFault Unit) :
    List String → Except FieldFault Unit :=
  go 0
where
  /-- Checks the items from position `i` on. -/
  go (i : Nat) : List String → Except FieldFault Unit
    | [] => .ok ()
    | v :: vs =>
      match check v with
      | .error f => .error ⟨field ++ "[" ++ toString i ++ "]", f.text⟩
      | .ok () => go (i + 1) vs

end StaticWrap.Check
