import StaticWrap.Model.Fact
import StaticWrap.Go.Ident
/-!
**Rendering a function's signature for the generated code.**

* `normalizeParams`: a parameter without a usable name (`""` or `_`) is named `pN` after its
  position; one whose name is reserved (an import qualifier the forwarding body uses) gets an
  underscore. A renamed parameter then takes underscores until its name is neither taken by
  another parameter nor a keyword nor reserved. Other parameters are kept as they are.
* `paramsText`: `x *int, ys ...string`; `resultsText`: nothing, `T`, or `(T1, T2)`.
* `declarationText`: `Name(params) results`, shared by the interface and the wrapper method.
* `argumentsText`: the names, with a variadic tail spread (`ys...`).
* `callText`: `qualifier.Name[TypeArgs](args)`.
* `deprecationLines`: the notice as comment lines, blank lines written `//`.
-/

namespace StaticWrap.Render

open StaticWrap.Model

/-- Appends underscores to a name while it is blocked; `fuel` bounds the attempts, and a
blocked set of `n` names is passed within `n + 1` attempts. -/
def unblock (blocked : String → Bool) : Nat → String → String
  | 0, name => name
  | fuel + 1, name => if blocked name then unblock blocked fuel (name ++ "_") else name

/-- Renames parameters without a usable name or with a reserved one. `taken` holds the names
in use; the index counts positions. -/
def renameParams (reserved : List String) (taken : List String) (i : Nat) :
    List Param → List Param
  | [] => []
  | p :: ps =>
    let start :=
      if p.name.isEmpty || p.name == "_" then some ("p" ++ toString i)
      else if reserved.contains p.name then some (p.name ++ "_")
      else none
    match start with
    | none => p :: renameParams reserved taken (i + 1) ps
    | some s =>
      let blocked := fun n => taken.contains n || Go.isKeyword n || reserved.contains n
      let name := unblock blocked (taken.length + reserved.length + Go.keywords.length + 1) s
      { p with name := name } :: renameParams reserved (name :: taken) (i + 1) ps

/-- Names every parameter and keeps clear of reserved names and keywords. -/
def normalizeParams (params : List Param) (reserved : List String) : List Param :=
  renameParams reserved ((params.map (·.name)).filter fun n => !n.isEmpty && n != "_") 0 params

/-- A parameter list without parentheses. -/
def paramsText (params : List Param) : String :=
  ", ".intercalate (params.map fun p =>
    p.name ++ (if p.passing == .variadic then " ..." else " ") ++ p.type)

/-- A result list: empty, one type, or several in parentheses. -/
def resultsText : List String → String
  | [] => ""
  | [r] => r
  | rs => "(" ++ ", ".intercalate rs ++ ")"

/-- `Name(params) results`. -/
def declarationText (f : Fact) : String :=
  let results := resultsText f.results
  f.name ++ "(" ++ paramsText f.params ++ ")" ++ (if results.isEmpty then "" else " " ++ results)

/-- The forwarded arguments, with a variadic tail spread. -/
def argumentsText (params : List Param) : String :=
  ", ".intercalate (params.map fun p => p.name ++ (if p.passing == .variadic then "..." else ""))

/-- The forwarded call. -/
def callText (f : Fact) : String :=
  (if f.qualifier.isEmpty then "" else f.qualifier ++ ".") ++ f.name ++ argsText f.typeParams ++
    "(" ++ argumentsText f.params ++ ")"

/-- The deprecation notice as comment lines. -/
def deprecationLines (f : Fact) : List String :=
  if !f.isDeprecated then []
  else
    (Text.splitOn (Text.trimRightChars ['\n'] f.deprecated) "\n").map fun line =>
      let line := Text.trimRightChars [' ', '\t'] line
      if line.isEmpty then "//" else "// " ++ line

end StaticWrap.Render
