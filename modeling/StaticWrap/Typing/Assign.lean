import StaticWrap.Typing.Env
/-!
**Assignability.**

When a value may stand where a type is expected, by the rules of the language:

* an untyped value takes the type of its place if it can (`implicitType`): a constant must
  be representable there (a fraction into a whole-number type is *truncated*, a number
  beyond the range *overflows*), `nil` needs a pointer, function, slice, map, channel or
  interface, and a non-constant untyped value a type of its own kind;
* a typed value is assignable (`assignable`) to an identical type, to a type with an
  identical underlying type when one of the two has no name, to an interface it implements,
  and a two-way channel to a channel type of the same element type when one has no name.

Each verdict is `yes`, `no` with the cause a message shows, or `unknown` when it depends on
something this reading does not know; an unknown verdict never leads to a fault.
-/

namespace StaticWrap.Typing

open StaticWrap.GoSource
open StaticWrap.Types
open StaticWrap.Load

/-- The kinds of untyped numbers, from the narrowest. -/
def numericRank : String → Option Nat
  | "untyped int" => some 0
  | "untyped rune" => some 1
  | "untyped float" => some 2
  | "untyped complex" => some 3
  | _ => none

/-- The type is boolean. -/
def isBooleanName (n : String) : Bool := n == "bool" || n == "untyped bool"

/-- The type is a string type. -/
def isStringName (n : String) : Bool := n == "string" || n == "untyped string"

/-- The type is numeric (untyped kinds included). -/
def isNumericBasic (n : String) : Bool := isNumericName (basicIdentity n) || (numericRank n).isSome

/-- The type is a whole-number type (untyped kinds included). -/
def isIntegerBasic (n : String) : Bool :=
  isIntegerName (basicIdentity n) || n == "untyped int" || n == "untyped rune"

/-- The type's values may be `nil`. -/
def hasNil (w : World) (t : GoType) : Option Bool :=
  match underlying w 16 t with
  | .pointer _ | .func _ | .slice _ | .map _ _ | .chan _ _ | .iface _ _ _ => some true
  | .basic "untyped nil" => some true
  | .invalid => none
  | _ => some false

/-- Whether a constant of the basic kind `fromKind` is representable in the basic type
`name`. When it is not and both are numbers, the kinds say why: a value of a kind that is
not whole going into a whole-number type is truncated (even when the value is whole), any
other number overflows. -/
def representation (fromKind : String) (v : ConstValue) (name : String) : Except Misfit Unit :=
  match fitsBasic v name with
  | .ok () => .ok ()
  | .error m =>
    if isNumericBasic fromKind && isNumericBasic name then
      if !isIntegerBasic fromKind && isIntegerBasic name then .error .truncated
      else .error .overflows
    else .error m

/-- The outcome of giving an untyped value a type. -/
inductive Implicit where
  | ok (t : GoType)
  | fault (m : Misfit)
  | unknown

/-- The type an untyped operand takes at a place of type `target`. -/
def implicitType (w : World) (x : Operand) (target : GoType) : Implicit :=
  if !x.type.isUntyped then .ok x.type
  else if target.isUntyped then
    match x.type, target with
    | .basic a, .basic b =>
      if a == b then .ok target
      else match numericRank a, numericRank b with
        | some i, some j => .ok (if i ≥ j then x.type else target)
        | _, _ => .fault .mismatch
    | _, _ => .unknown
  else
    match underlying w 16 target with
    | .basic n =>
      match x.value? with
      | some v =>
        let fromKind := match x.type with
          | .basic k => k
          | _ => ""
        match representation fromKind v (basicIdentity n) with
        | .ok () => .ok target
        | .error m => .fault m
      | none =>
        match x.type with
        | .basic "untyped bool" => if isBooleanName n then .ok target else .fault .mismatch
        | .basic "untyped string" => if isStringName n then .ok target else .fault .mismatch
        | .basic "untyped nil" => .fault .mismatch
        | .basic k => if (numericRank k).isSome then
            (if isNumericBasic n then .ok target else .fault .mismatch) else .unknown
        | _ => .unknown
    | .iface _ ms es =>
      if x.isNil then .ok untypedNil
      else if ms.isEmpty && es.isEmpty then .ok x.type.defaultType
      else .fault .mismatch
    | .pointer _ | .func _ | .slice _ | .map _ _ | .chan _ _ =>
      if x.isNil then .ok untypedNil else .fault .mismatch
    | .invalid | .param _ | .union _ => .unknown
    | _ => .fault .mismatch

/-- The outcome of a check that may depend on what is not known. -/
inductive Verdict where
  | yes
  | no (cause : String)
  | unknown

/-- The methods of an interface type, when all are known (no embedded elements). -/
def ifaceMethods? (w : World) (t : GoType) : Option (List Method) :=
  match underlying w 16 t with
  | .iface _ ms [] => some ms
  | _ => none

/-- The methods of a type that is not an interface, each with whether its receiver is a
pointer: a named type's declared methods (none promoted), or none at all for a type
without a name; `none` when they are not known. -/
def concreteMethods? (w : World) (t : GoType) : Option (List (String × FuncType × Bool)) :=
  match unalias w 8 t with
  | .named obj _ =>
    match underlying w 16 t with
    | .struct fs => if simpleStruct fs then declaredMethods? w obj else none
    | .invalid => none
    | _ => declaredMethods? w obj
  | .basic _ => some []
  | .pointer _ | .slice _ | .array _ _ | .map _ _ | .chan _ _ | .func _ => some []
  | .struct fs => if simpleStruct fs then some [] else none
  | _ => none

/-- A method as a cause shows it: its name, then its signature without parameter names;
one named result keeps its parentheses. -/
def methodMessage (own name : String) : FuncType → String
  | .mk ps rs variadic =>
    let params := typeMessage own (.func (.mk (ps.map fun (.mk _ t) => .mk "" t) [] variadic))
    let results := match rs with
      | [] => ""
      | [.mk "" t] => " " ++ typeMessage own t
      | _ => " (" ++ ", ".intercalate (rs.map fun (.mk _ t) => typeMessage own t) ++ ")"
    name ++ Text.dropChars params 4 ++ results

/-- The cause for a method present with another signature than the interface's. -/
def wrongTypeCause (own name : String) (found wanted : FuncType) : String :=
  let h := methodMessage own name found
  let w := methodMessage own name wanted
  if h == w then "(wrong type for method " ++ name ++ ")"
  else "(wrong type for method " ++ name ++ ")\n\t\thave " ++ h ++ "\n\t\twant " ++ w

/-- A signature mentions a type that is not known. -/
def sigHasUnknown (sig : FuncType) : Bool := hasUnknown 16 (.func sig)

/-- Whether a value of type `v` has the methods of the interface type `t`, with the cause of
a failure in parentheses. The interface's methods are taken in order and the first that
fails gives the cause: missing (perhaps present with its name spelled otherwise), present
with a pointer receiver on a value, present with another signature, or a field where a
method is wanted. -/
def methodsCause (w : World) (own : String) (v t : GoType) : Verdict :=
  match ifaceMethods? w t with
  | none => .unknown
  | some [] => .yes
  | some want =>
    let fail (cause : String) : Verdict := .no cause
    let missing (name : String) := fail ("(missing method " ++ name ++ ")")
    match ifaceMethods? w v with
    | some present =>
      let rec viaIface : List Method → Verdict
        | [] => .yes
        | .mk name _ sig :: rest =>
          match present.find? (·.name == name) with
          | none => missing name
          | some (.mk _ _ hsig) =>
            if identicalSig w 16 hsig sig then viaIface rest
            else if sigHasUnknown hsig || sigHasUnknown sig then .unknown
            else fail (wrongTypeCause own name hsig sig)
      viaIface want
    | none =>
      match pointerToInterface? w v (typeMessage own v) with
      | some why => fail ("(" ++ why ++ ")")
      | none =>
      let (base, isPtr) := match unalias w 8 v with
        | .pointer e => (e, true)
        | e => (e, false)
      let methods? := if isPtr then
          match unalias w 8 base with
          | .named _ _ => concreteMethods? w base
          | _ => some []
        else concreteMethods? w base
      let fields := match underlying w 16 base with
        | .struct fs => fs.map fun (fd : StructField) => match fd with
          | .mk n _ _ _ _ => n
        | _ => []
      match methods? with
      | none => .unknown
      | some present =>
        let rec go : List Method → Verdict
          | [] => .yes
          | .mk name _ sig :: rest =>
            match present.find? (·.1 == name) with
            | some (_, hsig, ptrRecv) =>
              if ptrRecv && !isPtr then fail ("(method " ++ name ++ " has pointer receiver)")
              else if identicalSig w 16 hsig sig then go rest
              else if sigHasUnknown hsig || sigHasUnknown sig then .unknown
              else fail (wrongTypeCause own name hsig sig)
            | none =>
              if fields.contains name then
                fail ("(" ++ typeMessage own v ++ "." ++ name ++ " is a field, not a method)")
              else match present.find? (fun (h : String × FuncType × Bool) => sameFolded h.1 name) with
                | some (alt, asig, ptrRecv) =>
                  if ptrRecv && !isPtr then missing name
                  else fail ("(missing method " ++ name ++ ")\n\t\thave " ++
                    methodMessage own alt asig ++ "\n\t\twant " ++ methodMessage own name sig)
                | none => missing name
        go want

/-- Whether a value of type `v` implements the interface type `t`, with the cause of a
failure as `V does not implement T (...)`. -/
def implementsIface (w : World) (own : String) (v t : GoType) : Verdict :=
  match methodsCause w own v t with
  | .no cause => .no (typeMessage own v ++ " does not implement " ++ typeMessage own t ++ " " ++ cause)
  | r => r

/-- Whether a typed operand is assignable to `t`. -/
def assignableTyped (w : World) (own : String) (x : Operand) (t : GoType) : Verdict :=
  let v := x.type
  if hasUnknown 16 v || hasUnknown 16 t then .unknown
  else if identical w 32 v t then .yes
  else
    let vu := underlying w 16 v
    let tu := underlying w 16 t
    let named := hasName w v && hasName w t
    match vu, tu with
    | .invalid, _ | _, .invalid =>
      -- a definition is not known: the value's type might be an interface or a channel
      match tu with
      | .iface _ _ _ => implementsIface w own v t
      | _ => .unknown
    | _, .iface _ _ _ =>
      if !named && identical w 32 vu tu then .yes else implementsIface w own v t
    | .iface _ _ _, _ =>
      match implementsIface w own t v with
      | .yes => .no ""
      | .no _ => .no "need type assertion"
      | .unknown => .unknown
    | _, _ =>
      if identical w 32 vu tu && !named then .yes
      else match vu, tu with
        | .chan .both e, .chan _ f =>
          if identical w 32 e f then (if named then .no "" else .yes) else .no ""
        | _, _ => .no ""

end StaticWrap.Typing
