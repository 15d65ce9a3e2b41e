import StaticWrap.Settings.Yaml
import StaticWrap.Text.Duration
import StaticWrap.Settings.Json
import StaticWrap.Settings.Toml
import StaticWrap.Settings.Dotenv
import StaticWrap.Run.Config
import StaticWrap.Disk.Tree
/-!
**Loading the settings of a run.**

Each setting is taken from the first of these that has it: a flag given on the command line,
an environment variable `MOCKABLE_<KEY>` that is not empty, the settings file, the default.

The settings file is the one named by `--config`, read in the format its extension names;
without `--config`, it is the first file of `.mockable.json`, `.mockable.toml`,
`.mockable.yaml`, …, `.mockable` in the working directory, read as YAML, and there need not be one. A file
that cannot be read or parsed fails the loading (`failed to read configuration …`).

Values are then decoded loosely into the settings: a text from a number or truth value, a
truth value from a number or a text in one of its spellings, a list from one value or from a
comma-separated text, a duration from a whole number of nanoseconds or a duration text. The
faults of all fields are reported together (`failed to decode configuration …`). Last, the
settings are checked (`Config.validate`).
-/

namespace StaticWrap.Settings

open StaticWrap.Disk

/-- The extensions a settings file may have. -/
def supportedExtensions : List String :=
  ["json", "toml", "yaml", "yml", "properties", "props", "prop", "hcl", "tfvars", "dotenv", "env",
   "ini"]

/-- The settings a document of a format holds; `env` is the environment of the run, which
assignment files may refer to. -/
def readFormat (env : List (String × String)) (format text : String) :
    Except String (List (String × Value)) :=
  match Text.lower format with
  | "yaml" => Yaml.read text
  | "yml" => Yaml.read text
  | "json" => Json.read text
  | "toml" => Toml.read text
  | "dotenv" => Dotenv.read env text
  | "env" => Dotenv.read env text
  | _ => .error "decoder not found for this format"

/-- The name the faults of loading give the settings file. -/
def fileLabel (path : String) : String := if path.isEmpty then ".mockable.yaml" else path

/-- The names looked for when no settings file is named: the name with each extension, then
the bare name. -/
def searchedNames (base : String) : List String :=
  supportedExtensions.map (fun e => base ++ "." ++ e) ++ [base]

/-- The format a named settings file is read in: its extension without the dot. -/
def formatOf (path : String) : String := Text.dropChars (Text.extension path) 1

/-- Reads a settings file at a path as the command names it. -/
def readFile (t : Tree) (env : List (String × String)) (cwd path format : String) :
    Except String (List (String × Value)) :=
  let abs := t.absolute cwd path
  match t.readFile abs with
  | .ok text =>
    match readFormat env format text with
    | .ok entries => .ok entries
    | .error e => .error ("While parsing config: " ++ e)
  | .error _ =>
    if t.isDir abs then .error ("read " ++ path ++ ": is a directory")
    else .error ("open " ++ path ++ ": no such file or directory")

/-- The entries of the settings file, if there is one. -/
def settingsFile (t : Tree) (env : List (String × String)) (cwd path base : String) :
    Except Failure (List (String × Value)) :=
  let fail (e : String) : Except Failure (List (String × Value)) :=
    .error (configFailure (fileLabel path) "read" (some (.plain e)))
  if !path.isEmpty then
    let format := formatOf path
    if !supportedExtensions.contains format then
      fail ("Unsupported Config Type " ++ Text.quote format)
    else match readFile t env cwd path format with
      | .ok entries => .ok entries
      | .error e => fail e
  else
    match (searchedNames base).find? fun n => t.isFile (t.absolute cwd n) with
    | none => .ok []
    | some name =>
      match readFile t env cwd name "yaml" with
      | .ok entries => .ok entries
      | .error e => fail e

/-- The keys of the settings, in the order their fields are decoded. -/
def settingKeys : List String :=
  ["directories", "module", "output", "tags", "verbose", "quiet", "watch", "level", "debounce"]

/-- The default of a setting. -/
def defaultValue (key : String) : Value :=
  match key with
  | "directories" => .list [.text "./..."]
  | "output" => .text Run.defaultOutput
  | "debounce" => .int 300000000
  | "tags" => .list []
  | "verbose" => .bool false
  | "quiet" => .bool false
  | "watch" => .bool false
  | _ => .text ""

/-- The environment variable of a setting. -/
def envName (key : String) : String := "MOCKABLE_" ++ Text.upper key

/-- The value of a setting: from a flag, the environment, the file, or the default. -/
def settingValue (given : List (String × Value)) (env : List (String × String))
    (file : List (String × Value)) (key : String) : Value :=
  match given.find? (·.1 == key) with
  | some (_, v) => v
  | none =>
    match env.find? (fun e => e.1 == envName key && !e.2.isEmpty) with
    | some (_, v) => .text v
    | none =>
      match (Value.map file).lookup key with
      | some .null => defaultValue key
      | some v => v
      | none => defaultValue key

/-- A fault for a value of a kind the field cannot take. -/
def unconvertible (name expected : String) (v : Value) : String :=
  "'" ++ name ++ "' expected type '" ++ expected ++ "', got unconvertible type '" ++ v.typeName ++ "'"

/-- A text decoded loosely. -/
def decodeText (name : String) : Value → Except String String
  | .text s => .ok s
  | .null => .ok ""
  | .bool b => .ok (if b then "1" else "0")
  | .int n => .ok (toString n)
  | .uint n => .ok (toString n)
  | .float x => .ok x.positional
  | v => .error (unconvertible name "string" v)

/-- A truth value decoded loosely. -/
def decodeBool (name : String) : Value → Except String Bool
  | .bool b => .ok b
  | .null => .ok false
  | .int n => .ok (n != 0)
  | .uint n => .ok (n != 0)
  | .float x => .ok !x.isZero
  | .text s =>
    if s.isEmpty then .ok false
    else match parseBoolText s with
      | some b => .ok b
      | none => .error ("'" ++ name ++ "' cannot parse value as 'bool': strconv.ParseBool: invalid syntax")
  | v => .error (unconvertible name "bool" v)
where
  /-- A truth value in one of its spellings. -/
  parseBoolText (s : String) : Option Bool :=
    if ["1", "t", "T", "TRUE", "true", "True"].contains s then some true
    else if ["0", "f", "F", "FALSE", "false", "False"].contains s then some false
    else none

/-- A duration text's fault without the text itself. -/
def durationFault (e : String) : String :=
  if Text.hasPrefix e "time: unknown unit " then "time: unknown unit"
  else match Text.lastIndexOf? e " " with
    | some i => Text.takeChars e i
    | none => e

/-- A duration decoded loosely. -/
def decodeDuration (name : String) : Value → Except String Int
  | .int n => .ok n
  | .null => .ok 0
  | .bool b => .ok (if b then 1 else 0)
  | .uint n => .ok (if n ≥ Nat.pow 2 63 then (n : Int) - Int.pow 2 64 else n)
  | .float x =>
    match x.truncate? with
    | some n => .ok (if n < -(Int.pow 2 63) || n ≥ Int.pow 2 63 then -(Int.pow 2 63) else n)
    | none => .ok (-(Int.pow 2 63))
  | .text s =>
    match Text.parseDuration s with
    | .ok d => .ok d
    | .error e => .error ("'" ++ name ++ "' " ++ durationFault e)
  | v => .error (unconvertible name "time.Duration" v)

/-- A list of texts decoded loosely: each item of a list, the comma-separated parts of a
text, or a single other value. -/
def decodeTexts (name : String) : Value → Except (List String) (List String)
  | .list items =>
    let results := items.zipIdx.map fun (v, i) => decodeText (name ++ "[" ++ toString i ++ "]") v
    let faults := results.filterMap fun r => match r with
      | .error e => some e
      | .ok _ => none
    if faults.isEmpty then .ok (results.filterMap fun r => match r with
      | .ok s => some s
      | .error _ => none)
    else .error faults
  | .text s => .ok (if s.isEmpty then [] else Text.splitOn s ",")
  | .null => .ok []
  | .map _ => .error ["'" ++ name ++ "': source data must be an array or slice, got map"]
  | v => match decodeText (name ++ "[0]") v with
    | .ok s => .ok [s]
    | .error e => .error [e]

/-- The faults of a decoded field. -/
def faultsOf {α : Type} : Except String α → List String
  | .error e => [e]
  | .ok _ => []

/-- The settings decoded from the value of each key. -/
def decodeConfig (get : String → Value) : Except (List String) Run.Config :=
  let directories := decodeTexts "directories" (get "directories")
  let module := decodeText "module" (get "module")
  let output := decodeText "output" (get "output")
  let tags := decodeTexts "tags" (get "tags")
  let verbose := decodeBool "verbose" (get "verbose")
  let quiet := decodeBool "quiet" (get "quiet")
  let watch := decodeBool "watch" (get "watch")
  let level := decodeText "level" (get "level")
  let debounce := decodeDuration "debounce" (get "debounce")
  let listFaults (r : Except (List String) (List String)) : List String :=
    match r with
    | .error es => es
    | .ok _ => []
  let faults := listFaults directories ++ faultsOf module ++ faultsOf output ++ listFaults tags ++
    faultsOf verbose ++ faultsOf quiet ++ faultsOf watch ++ faultsOf level ++ faultsOf debounce
  match directories, module, output, tags, verbose, quiet, watch, level, debounce with
  | .ok directories, .ok module, .ok output, .ok tags, .ok verbose, .ok quiet, .ok watch,
    .ok level, .ok debounce =>
    .ok { directories, module, output, tags, verbose, quiet, watch, level, debounce }
  | _, _, _, _, _, _, _, _, _ => .error faults

/-- Loads the settings: the file named by `path` (or found in `cwd`), the environment and the
flags given, checked. -/
def load (t : Tree) (cwd : String) (env : List (String × String)) (path : String)
    (given : List (String × Value)) : Except Failure Run.Config := do
  let file ← settingsFile t env cwd path ".mockable"
  match decodeConfig (settingValue given env file) with
  | .error faults =>
    throw (configFailure (fileLabel path) "decode"
      (some (.plain ("decoding failed due to the following error(s):\n\n" ++
        "\n".intercalate faults))))
  | .ok config =>
    config.validate
    pure config

end StaticWrap.Settings
