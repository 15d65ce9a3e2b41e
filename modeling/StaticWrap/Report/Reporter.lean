import StaticWrap.Failure.Search
import StaticWrap.Report.Summary
/-!
**Reports for the user.**

* `warningText`: `! message`.
* `problemText`: the warning line of a problem; in verbose mode followed by the cause and the
  suggestions of the first problem inside it, or the hints of the first coded error.
* `errorText`: the full report of a failed pass. It describes the first problem inside the
  failure when there is one (class title, message, cause, place, context, suggestions, help
  for the class, chain of causes), else the first coded error (class, message, place,
  context, hints, chain), else the bare message with a hint when it mentions modules or
  directories. Cause and chain are shown in verbose mode only.
* `successText`: the closing lines of a pass.

Context entries are listed with the type, function, target and package first, then the others
in key order; a key is shown in title case (`some_key` as `Some Key`).
-/

namespace StaticWrap.Report

open StaticWrap.Model

/-- The warning line. -/
def warningText (msg : String) : String := "! " ++ msg ++ "\n"

/-- A key part with its first character in upper case. A character that takes several bytes
is shown as one replacement character per byte, since only its first byte is converted. -/
def titlePart (part : String) : String :=
  match part.toList with
  | [] => ""
  | c :: rest =>
    if c.toNat < 128 then String.ofList (Text.toUpper c :: rest)
    else String.ofList (List.replicate c.utf8Size (Char.ofNat 0xFFFD) ++ rest)

/-- The display name of a context key. -/
def contextLabel (key : String) : String :=
  match key with
  | "type_name" => "Type"
  | "function_name" => "Function"
  | "package_directory" => "Package"
  | _ => " ".intercalate ((Text.splitOn key "_").map titlePart)

/-- The keys shown first, in order. -/
def leadingKeys : List String := ["type_name", "function_name", "target", "package_directory"]

/-- The context block. -/
def contextText (ctx : List (String × String)) : String :=
  let first := leadingKeys.filterMap fun k => (ctx.find? (·.1 == k))
  let rest := Text.sortBy (·.1) (ctx.filter fun e => !leadingKeys.contains e.1)
  "Context:\n" ++
    String.join ((first ++ rest).map fun (k, v) => "   " ++ contextLabel k ++ ": " ++ v ++ "\n") ++
    "\n"

/-- The suggestions block: numbered, with further lines indented and blank ones dropped. -/
def suggestionsText (hints : List String) : String :=
  let one := fun (i : Nat) (h : String) =>
    match Text.splitOn h "\n" with
    | [] => ""
    | l :: ls =>
      "   " ++ toString (i + 1) ++ ". " ++ l ++ "\n" ++
        String.join ((ls.filter fun l => !(Text.trimSpace l).isEmpty).map fun l => "      " ++ l ++ "\n")
  "Suggestions:\n" ++ String.join (hints.mapIdx one) ++ "\n"

/-- The chain of causes, numbered. -/
def chainText : Option Failure → String
  | none => ""
  | some e =>
    "\nError Chain:\n" ++
      String.join ((e :: e.chain).mapIdx fun i f => "    " ++ toString (i + 1) ++ ". " ++ f.message ++ "\n")

/-- The title of a problem class. -/
def problemTitle : ProblemType → String
  | .annotationSyntax => "Annotation Syntax Error"
  | .validation => "Validation Error"
  | .generation => "Code Generation Error"
  | .fileSystem => "File System Error"
  | .targetResolution => "Target Resolution Error"
  | .configuration => "Configuration Error"
  | .other _ _ => "Unknown Error"

/-- A title line underlined with dashes. -/
def typeHeading (title : String) : String :=
  "Type: " ++ title ++ "\n" ++ Text.repeatText "-" (title.utf8ByteSize + 6) ++ "\n\n"

def classHelp : ProblemType → String
  | .annotationSyntax | .validation =>
    "Marker Syntax Help:\n  - Markers must start with //mockable::static\n" ++
    "  - Markers go on type declarations, one per type\n  - Parameters use the -Name=value form\n\n"
  | .targetResolution =>
    "Target Requirements:\n" ++
    "  - -Target must be an import path the annotated package can import\n" ++
    "  - Run 'go mod tidy' so the target module is available\n" ++
    "  - -Type must name an exported type of the target package\n\n"
  | _ => ""

def problemReport (verbose : Bool) (p : Problem) (cause : Option Failure) : String :=
  typeHeading (problemTitle p.type) ++
  "Message: " ++ p.message ++ "\n\n" ++
  (match cause with
   | some c => if verbose then "Underlying cause: " ++ c.message ++ "\n\n" else ""
   | none => "") ++
  (if p.file.isEmpty then ""
   else if p.line > 0 then "Location: " ++ p.file ++ ":" ++ toString p.line ++ "\n\n"
   else "File: " ++ p.file ++ "\n\n") ++
  (if p.context.isEmpty then "" else contextText p.context) ++
  (if p.suggestions.isEmpty then "" else suggestionsText p.suggestions) ++
  classHelp p.type ++
  "For more help:\n  - Run with --verbose for more detailed output\n" ++
  (if verbose then chainText cause else "")

/-- The report of a coded error. -/
def codedReport (verbose : Bool) (e : Failure) (c : Coded) (cause : Option Failure) : String :=
  typeHeading c.code.name ++
  "Message: " ++ e.message ++ "\n\n" ++
  (if c.place.isEmpty then "" else "Location: " ++ c.place.text ++ "\n\n") ++
  (if c.context.isEmpty then "" else contextText c.context) ++
  (if c.hints.isEmpty then "" else suggestionsText c.hints) ++
  (if verbose then chainText cause else "")

/-- The report of any other failure. -/
def basicReport (e : Failure) : String :=
  let msg := Text.lower e.message
  "Message: " ++ e.message ++ "\n\n" ++
  (if Text.containsText msg "go.mod" || Text.containsText msg "module" then
    "This appears to be a module-related issue.\nCommon solutions:\n" ++
    "  - Check your go.mod file\n  - Run from inside the module or pass --module\n\n"
  else if Text.containsText msg "no such file" || Text.containsText msg "directory" then
    "This appears to be a directory-related issue.\nCommon solutions:\n" ++
    "  - Check that the directories exist\n  - Use './...' to scan recursively\n\n"
  else "")

/-- The full report of a failed pass. -/
def errorText (verbose : Bool) (e : Failure) : String :=
  "\nERROR: Code Generation Failed\n=============================\n\n" ++
  (match e.firstProblem with
   | some (p, cause) => problemReport verbose p cause
   | none =>
     match e.firstCoded with
     | some f@(.coded c cause) => codedReport verbose f c cause
     | _ => basicReport e) ++
  "\n"

/-- The warning line of a problem, with details in verbose mode. -/
def problemText (verbose : Bool) (e : Failure) : String :=
  warningText e.message ++
  (if !verbose then ""
   else
     let (causeLine, hints) :=
       match e.firstProblem with
       | some (p, cause) =>
         ((match cause with
           | some c => "    cause: " ++ c.message ++ "\n"
           | none => ""), p.suggestions)
       | none =>
         match e.firstCoded with
         | some (.coded c _) => ("", c.hints)
         | _ => ("", [])
     causeLine ++ String.join (hints.map fun h => "    " ++ h ++ "\n"))

/-- The package directory a skipped package's error names. -/
def skippedDirectory (e : Failure) : String :=
  match e with
  | .coded c _ => ((c.context.find? (·.1 == "package_directory")).map (·.2)).getD "<nil>"
  | _ => "<nil>"

/-- The closing lines of a pass whose duration is shown as `elapsed`. -/
def successLines (s : PassSummary) (elapsed : String) : String :=
  "\nPass " ++ s.passId ++ " completed in " ++ elapsed ++ "\n" ++
  "Processed " ++ toString s.packagesProcessed ++ " packages, found " ++ toString s.markersFound ++
    " markers\n" ++
  "Generated " ++ toString s.unitsGenerated ++ " wrappers with " ++ toString s.methodsWrapped ++
    " methods\n" ++
  (if s.functionsSkipped > 0 then
    "Skipped " ++ toString s.functionsSkipped ++ " functions that cannot be wrapped\n" else "") ++
  (if s.problems > 0 then "Reported " ++ toString s.problems ++ " problems\n" else "") ++
  (if s.skippedPackages.isEmpty then ""
   else "\nSkipped packages:\n" ++
     String.join (s.skippedPackages.map fun e => "  - " ++ skippedDirectory e ++ "\n")) ++
  (if s.generatedFiles.isEmpty then ""
   else "\nWritten files:\n" ++ String.join (s.generatedFiles.map fun f => "  - " ++ f ++ "\n")) ++
  (if s.removedFiles.isEmpty then ""
   else "\nRemoved files:\n" ++ String.join (s.removedFiles.map fun f => "  - " ++ f ++ "\n"))

/-- The closing lines of a pass. -/
def successText (s : PassSummary) : String := successLines s (Text.durationText s.durationMs)

end StaticWrap.Report
