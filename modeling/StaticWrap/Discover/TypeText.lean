import StaticWrap.GoSource.PrintNodes
import StaticWrap.Model.Package
import StaticWrap.Model.Names
import StaticWrap.Model.TypeParam
import StaticWrap.Text.Quote
/-!
**Type text taken from the source.**

A type written in a file is printed in canonical layout, and every package name it qualifies
with (`pkg.Name`) becomes a placeholder `$N.` into a list of package references, so the text
no longer depends on the names the file gave its imports.

* `fileImports`: the names a file's imports are used under. An import without a name is used
  under the name guessed from its path (and that name is taken as the package's own); a
  renamed import leaves the package's own name unknown; blank and dot imports name nothing.
  A later import of the same name wins.
* `qualify`: replaces `name.` by what a qualifier function writes for the package `name`
  stands for (`refText`: its placeholder), where `name` is an ASCII identifier not preceded by
  a word character, a dot or `$`; names that stand for no import are left alone.
* `exprText` (`typeText` with placeholders), `typeParamsText`, `embedsText`: the text of a
  type, of a type parameter list, and of the embedded fields of a struct type.
-/

namespace StaticWrap.Discover

open StaticWrap.GoSource
open StaticWrap.Model

/-- Sets the reference a name stands for, replacing an earlier one. -/
def setImport (m : List (String × PackageRef)) (name : String) (ref : PackageRef) :
    List (String × PackageRef) :=
  if m.any (·.1 == name) then m.map fun (k, v) => if k == name then (k, ref) else (k, v)
  else m ++ [(name, ref)]

/-- The packages a file's imports stand for, by the name they are used under. -/
def fileImports (f : File) : List (String × PackageRef) :=
  f.imports.foldl (fun m s =>
    match s with
    | .importSpec _ name _ lit _ _ =>
      match Text.unquote? lit with
      | none => m
      | some path =>
        let guess := guessPackageName path
        match name with
        | none => setImport m guess ⟨path, guess⟩
        | some n => if n.name == "_" || n.name == "." then m else setImport m n.name ⟨path, ""⟩
    | _ => m) []

/-- ASCII letters, digits and the underscore. -/
def isWordChar (c : Char) : Bool := c.isAlphanum || c == '_'

/-- A character that can start an ASCII identifier. -/
def isIdentStart (c : Char) : Bool := c.isAlpha || c == '_'

/-- An ASCII identifier at the start of the characters, directly followed by a dot: the
identifier and what follows the dot. -/
def identDot (l : List Char) : Option (List Char × List Char) :=
  match l with
  | c :: _ =>
    if !isIdentStart c then none
    else
      let ident := l.takeWhile isWordChar
      match l.drop ident.length with
      | '.' :: rest => some (ident, rest)
      | _ => none
  | [] => none

section Qualifier

variable {m : Type → Type} [Monad m] (q : PackageRef → m String)

/-- The text for a qualifier `ident.`: what `q` writes for the import it names, else itself. -/
def qualifierFor (imports : List (String × PackageRef)) (ident : List Char) : m (List Char) :=
  match imports.find? (·.1 == String.ofList ident) with
  | some (_, ref) => do pure ((← q ref).toList ++ ['.'])
  | none => pure (ident ++ ['.'])

/-- Replaces the qualifiers of a text from the given position on; `atStart` tells that the
position is the start of the text. `fuel` is the number of characters left. -/
def qualifyChars (imports : List (String × PackageRef)) :
    Nat → List Char → Bool → m (List Char)
  | 0, cs, _ => pure cs
  | _ + 1, [], _ => pure []
  | n + 1, c :: rest, atStart => do
    match (if atStart then identDot (c :: rest) else none) with
    | some (ident, after) =>
      let written ← qualifierFor q imports ident
      let tail ← qualifyChars imports n after false
      pure (written ++ tail)
    | none =>
      if !(isWordChar c || c == '.' || c == '$') then
        match identDot rest with
        | some (ident, after) =>
          let written ← qualifierFor q imports ident
          let tail ← qualifyChars imports n after false
          pure (c :: written ++ tail)
        | none =>
          let tail ← qualifyChars imports n rest false
          pure (c :: tail)
      else
        let tail ← qualifyChars imports n rest false
        pure (c :: tail)

/-- Replaces the qualifiers of a text by what `q` writes. -/
def qualify (imports : List (String × PackageRef)) (text : String) : m String := do
  let cs ← qualifyChars q imports text.length text.toList true
  pure (String.ofList cs)

/-- The text of a type of a file, its qualifiers written by `q`. -/
def exprText (lines : Lines) (imports : List (String × PackageRef)) (e : Expr) : m String :=
  qualify q imports (printExprText lines e)

/-- The type parameters of a list, each name with the text of its constraint. -/
def typeParamsText (lines : Lines) (imports : List (String × PackageRef)) :
    Option FieldList → m (List TypeParam)
  | none => pure []
  | some fl => do
    let mut out : List TypeParam := []
    for f in fl.list do
      let c ← exprText q lines imports f.type
      out := out ++ f.names.map fun n => ⟨n.name, c⟩
    pure out

/-- The embedded fields of a struct type. -/
def embedsText (lines : Lines) (imports : List (String × PackageRef)) :
    Expr → m (List String)
  | .struct _ fl => do
    let mut out : List String := []
    for f in fl.list do
      if f.names.isEmpty then out := out ++ [← exprText q lines imports f.type]
    pure out
  | _ => pure []

end Qualifier

/-- The text of a type of a file, its qualifiers numbered in a list of package references. -/
def typeText (lines : Lines) (imports : List (String × PackageRef)) (e : Expr) :
    StateM (List PackageRef) String :=
  exprText refText lines imports e

end StaticWrap.Discover
