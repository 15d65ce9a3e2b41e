import StaticWrap.Text.Duration
import StaticWrap.Text.Basic
import StaticWrap.Text.Quote
/-!
**Command-line flags.**

A flag has a long name, an optional one-letter shorthand, a kind of value, a usage line and
the text of its default. Arguments are read from left to right:

* `--` ends the flags; every argument after it is positional, and so is `-` and every
  argument that does not start with `-`;
* `--name=value`, or `--name value` for a flag that needs a value; a truth flag alone means
  `true`;
* `-x`, a run of shorthands `-xyz`, `-x=value`, `-xvalue` and `-x value`.

A truth value is one of `1 t T TRUE true True 0 f F FALSE false False`; a duration is read by
`parseDuration`; a list takes comma-separated fields (double quotes protect commas) and
grows with each use of its flag. An unknown flag, a missing value or a value that does not
read is a fault that ends the reading.

* `parseArgs`: the values given and the positional arguments.
* `flagUsages`: the flag lines of a help text, sorted by name, usages aligned in one column.
-/

namespace StaticWrap.Command

/-- The kind of value a flag takes. -/
inductive FlagKind where
  | bool
  | text
  | texts
  | duration
  deriving DecidableEq, Repr, Inhabited

/-- The word a help text shows for the value of a kind; a truth flag shows none. -/
def FlagKind.valueName : FlagKind → String
  | .bool => ""
  | .text => "string"
  | .texts => "strings"
  | .duration => "duration"

/-- A flag: its name, shorthand, kind, usage line and the text of its default value (empty
when the default is the zero value, which a help text leaves out). -/
structure Flag where
  name : String
  short : Option Char := none
  kind : FlagKind
  usage : String
  default : String := ""
  deriving Repr, Inhabited

/-- A value given on the command line. -/
inductive FlagValue where
  | bool (b : Bool)
  | text (s : String)
  | texts (items : List String)
  | duration (nanos : Int)
  deriving Repr, Inhabited

/-- The flags given, by name, and the positional arguments, in order. -/
structure Parsed where
  values : List (String × FlagValue) := []
  args : List String := []
  deriving Repr, Inhabited

/-- The value given for a flag. -/
def Parsed.get? (p : Parsed) (name : String) : Option FlagValue :=
  (p.values.find? (·.1 == name)).map (·.2)

/-- The flag was given as true. -/
def Parsed.isSet (p : Parsed) (name : String) : Bool :=
  match p.get? name with
  | some (.bool b) => b
  | _ => false

/-- The text of a flag given as text, or the empty text. -/
def Parsed.text (p : Parsed) (name : String) : String :=
  match p.get? name with
  | some (.text s) => s
  | _ => ""

/-- A truth value in one of its spellings. -/
def parseBool (s : String) : Option Bool :=
  if ["1", "t", "T", "TRUE", "true", "True"].contains s then some true
  else if ["0", "f", "F", "FALSE", "false", "False"].contains s then some false
  else none

/-- The fields of a comma-separated record; a field in double quotes may hold commas and
doubled quotes. A bare quote in a plain field, or text after a closing quote, is a fault. -/
def csvFields : Nat → List Char → Option (List String)
  | 0, _ => some []
  | fuel + 1, chars =>
    match chars with
    | '"' :: rest =>
      let rec quoted : List Char → List Char → Option (List Char × List Char)
        | [], _ => none
        | '"' :: '"' :: r, acc => quoted r ('"' :: acc)
        | '"' :: r, acc => some (acc.reverse, r)
        | c :: r, acc => quoted r (c :: acc)
      match quoted rest [] with
      | none => none
      | some (field, after) =>
        match after with
        | [] => some [String.ofList field]
        | ',' :: more => (csvFields fuel more).map (String.ofList field :: ·)
        | _ => none
    | _ =>
      let field := chars.takeWhile (· != ',')
      if field.contains '"' then none
      else match chars.drop field.length with
        | ',' :: more => (csvFields fuel more).map (String.ofList field :: ·)
        | _ => some [String.ofList field]

/-- The items a list flag's value adds. -/
def listItems (s : String) : Option (List String) :=
  if s.isEmpty then some []
  else
    let line := s.toList.takeWhile (· != '\n')
    csvFields (line.length + 1) line

/-- Records the value of a flag: a list grows, any other value replaces the last. -/
def Parsed.record (p : Parsed) (f : Flag) (raw : String) : Option Parsed :=
  let value : Option FlagValue := match f.kind with
    | .bool => (parseBool raw).map .bool
    | .text => some (.text raw)
    | .duration => match Text.parseDuration raw with
      | .ok d => some (.duration d)
      | .error _ => none
    | .texts => (listItems raw).map fun items =>
      match p.get? f.name with
      | some (.texts old) => .texts (old ++ items)
      | _ => .texts items
  value.map fun v =>
    { p with values := (p.values.filter (·.1 != f.name)) ++ [(f.name, v)] }

/-- Reads a run of shorthands; `fuel` bounds its length. -/
def shorthands (flags : List Flag) : Nat → List Char → List String → Parsed →
    Except String (List String × Parsed)
  | 0, _, args, p => .ok (args, p)
  | _, [], args, p => .ok (args, p)
  | fuel + 1, c :: rest, args, p =>
    match flags.find? (·.short == some c) with
    | none => .error ("unknown shorthand flag: " ++ Text.quoteChar c)
    | some f =>
      let (raw, rest, args) : Option String × List Char × List String :=
        match rest with
        | '=' :: v => (some (String.ofList v), [], args)
        | _ =>
          if f.kind == .bool then (some "true", rest, args)
          else if !rest.isEmpty then (some (String.ofList rest), [], args)
          else match args with
            | a :: more => (some a, [], more)
            | [] => (none, [], [])
      match raw with
      | none => .error ("flag needs an argument: " ++ Text.quoteChar c)
      | some raw =>
        match p.record f raw with
        | none => .error ("invalid argument " ++ Text.quote raw ++ " for -" ++ String.singleton c)
        | some p => shorthands flags fuel rest args p

/-- Reads the arguments; `fuel` bounds their number. -/
def parseArgsWith (flags : List Flag) : Nat → List String → Parsed → Except String Parsed
  | 0, _, p => .ok p
  | _, [], p => .ok p
  | fuel + 1, a :: rest, p =>
    match a.toList with
    | '-' :: '-' :: [] => .ok { p with args := p.args ++ rest }
    | '-' :: '-' :: name =>
      let (key, given) := match name.span (· != '=') with
        | (k, '=' :: v) => (String.ofList k, some (String.ofList v))
        | (k, _) => (String.ofList k, none)
      if key.isEmpty || Text.hasPrefix key "-" then .error ("bad flag syntax: " ++ a)
      else match flags.find? (·.name == key) with
        | none => .error ("unknown flag: --" ++ key)
        | some f =>
          let (raw, rest) : Option String × List String :=
            match given with
            | some v => (some v, rest)
            | none =>
              if f.kind == .bool then (some "true", rest)
              else match rest with
                | v :: more => (some v, more)
                | [] => (none, [])
          match raw with
          | none => .error ("flag needs an argument: " ++ a)
          | some raw =>
            match p.record f raw with
            | none => .error ("invalid argument " ++ Text.quote raw ++ " for --" ++ key)
            | some p => parseArgsWith flags fuel rest p
    | '-' :: c :: more =>
      match shorthands flags (more.length + 2) (c :: more) rest p with
      | .error e => .error e
      | .ok (rest, p) => parseArgsWith flags fuel rest p
    | _ => parseArgsWith flags fuel rest { p with args := p.args ++ [a] }

/-- The flags given and the positional arguments. -/
def parseArgs (flags : List Flag) (args : List String) : Except String Parsed :=
  parseArgsWith flags (args.length + 1) args {}

/-- The part of a flag's help line before its usage. -/
def Flag.head (f : Flag) : String :=
  (match f.short with
   | some c => "  -" ++ String.singleton c ++ ", --" ++ f.name
   | none => "      --" ++ f.name) ++
  (if f.kind.valueName.isEmpty then "" else " " ++ f.kind.valueName)

/-- The usage of a flag with its default, quoted for a text flag. -/
def Flag.tail (f : Flag) : String :=
  f.usage ++
    (if f.default.isEmpty then ""
     else if f.kind == .text then " (default " ++ Text.quote f.default ++ ")"
     else " (default " ++ f.default ++ ")")

/-- The flag lines of a help text: sorted by name, each usage two columns after the longest
head. -/
def flagUsages (flags : List Flag) : String :=
  let sorted := Text.sortBy (·.name) flags
  let width := (sorted.map (·.head.length)).foldl max 0
  String.join (sorted.map fun f =>
    f.head ++ String.ofList (List.replicate (width - f.head.length + 3) ' ') ++ f.tail ++ "\n")

end StaticWrap.Command
