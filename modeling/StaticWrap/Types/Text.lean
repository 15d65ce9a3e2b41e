import StaticWrap.Types.Basic
import StaticWrap.Model.Package
import StaticWrap.Model.TypeParam
import StaticWrap.Text.Quote
/-!
**The text of a type.**

A type is written the way the type checker writes it, every package qualifier being what a
qualifier function `q` gives for the package (in a monad, so that it may number the packages:
`refText` writes a placeholder `$N` into a list of package references, the first use of a
package adding it):

* a named type or alias: `$N.Name`, without qualifier when predeclared, then its type
  arguments as `[A, B]`; a type parameter: its name;
* `*T`, `[]T`, `[N]T`, `map[K]V`, `chan T`, `<-chan T`, `chan<- T` (a receive-only channel
  inside a two-way one is parenthesised);
* `func(a A, B) R` and `func() (R, S)`: each parameter on its own with its name when it has
  one, `...T` for a variadic last one; one unnamed result stands alone;
* `struct{a A; B "tag"}` and `interface{M() R; E}` (methods, already sorted, before the
  embedded types); an interface implied by a constraint with one element is that element;
* a union: its terms joined by ` | `, with `~` where it applies.

`typeParamsOf` gives the constraint texts of a type parameter list.
-/

namespace StaticWrap.Types

open StaticWrap.Model
open StaticWrap.GoSource

section Qualifier

variable {m : Type → Type} [Monad m] (q : PackageRef → m String)

/-- The qualified name of an object, its package written by `q`. -/
def objText (o : TypeObj) : m String :=
  if o.isPredeclared then pure o.name
  else do pure ((← q ⟨o.pkgPath, o.pkgName⟩) ++ "." ++ o.name)

/-- A type argument list, empty when there are none. -/
def argsOf (xs : List String) : String :=
  if xs.isEmpty then "" else "[" ++ ", ".intercalate xs ++ "]"

mutual

/-- The text of a type. -/
def typeText : GoType → m String
  | .basic n => pure n
  | .named o args => do
    let n ← objText q o
    let a ← typesText args
    pure (n ++ argsOf a)
  | .aliased o args => do
    let n ← objText q o
    let a ← typesText args
    pure (n ++ argsOf a)
  | .param n => pure n
  | .pointer e => do pure ("*" ++ (← typeText e))
  | .slice e => do pure ("[]" ++ (← typeText e))
  | .array n e => do pure ("[" ++ toString n ++ "]" ++ (← typeText e))
  | .map k v => do
    let kt ← typeText k
    let vt ← typeText v
    pure ("map[" ++ kt ++ "]" ++ vt)
  | .chan dir e => do
    let et ← typeText e
    pure (match dir, e with
      | .send, _ => "chan<- " ++ et
      | .recv, _ => "<-chan " ++ et
      | .both, .chan .recv _ => "chan (" ++ et ++ ")"
      | .both, _ => "chan " ++ et)
  | .func sig => do pure ("func" ++ (← sigText sig))
  | .struct fields => do
    let fs ← fieldsText fields
    pure ("struct\x7b" ++ "; ".intercalate fs ++ "\x7d")
  | .iface implicit methods embeddeds => do
    let ms ← methodsText methods
    let es ← typesText embeddeds
    pure (if implicit && methods.isEmpty && embeddeds.length == 1 then "".intercalate es
      else "interface\x7b" ++ "; ".intercalate (ms ++ es) ++ "\x7d")
  | .union terms => do
    let ts ← termsText terms
    pure (" | ".intercalate ts)
  | .invalid => pure "invalid type"

/-- The texts of a list of types. -/
def typesText : List GoType → m (List String)
  | [] => pure []
  | t :: ts => do
    let a ← typeText t
    let b ← typesText ts
    pure (a :: b)

/-- A signature without `func`: parameters, then the results. -/
def sigText : FuncType → m String
  | .mk params results variadic => do
    let ps ← varsText params variadic
    let rs ← varsText results false
    let res := match results with
      | [] => ""
      | [.mk "" _] => " " ++ "".intercalate rs
      | _ => " (" ++ ", ".intercalate rs ++ ")"
    pure ("(" ++ ", ".intercalate ps ++ ")" ++ res)

/-- Parameters or results, each with its name when it has one; the last of a variadic list
as `...T`. -/
def varsText : List Var → Bool → m (List String)
  | [], _ => pure []
  | .mk name t :: rest, variadic => do
    let whole ← typeText t
    -- the text of a slice is `[]` and its element's text
    let body := match t with
      | .slice _ => if rest.isEmpty && variadic then "..." ++ Text.dropChars whole 2 else whole
      | _ => whole
    let here := (if name.isEmpty then "" else name ++ " ") ++ body
    let more ← varsText rest variadic
    pure (here :: more)

/-- The fields of a struct. -/
def fieldsText : List StructField → m (List String)
  | [] => pure []
  | .mk name _ embedded t tag :: rest => do
    let body ← typeText t
    let here := (if embedded then "" else name ++ " ") ++ body ++
      (if tag.isEmpty then "" else " " ++ Text.quote tag)
    let more ← fieldsText rest
    pure (here :: more)

/-- The methods of an interface, each its name and signature. -/
def methodsText : List Method → m (List String)
  | [] => pure []
  | .mk name _ sig :: rest => do
    let s ← sigText sig
    let more ← methodsText rest
    pure ((name ++ s) :: more)

/-- The terms of a union. -/
def termsText : List Term → m (List String)
  | [] => pure []
  | .mk tilde t :: rest => do
    let s ← typeText t
    let more ← termsText rest
    pure (((if tilde then "~" else "") ++ s) :: more)

end

/-- A type parameter list with constraint texts. -/
def typeParamsOf : List (String × GoType) → m (List TypeParam)
  | [] => pure []
  | (n, c) :: rest => do
    let ct ← typeText q c
    let more ← typeParamsOf rest
    pure (⟨n, ct⟩ :: more)

end Qualifier

end StaticWrap.Types
