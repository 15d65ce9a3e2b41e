import StaticWrap.Failure.Build
import StaticWrap.Check.Field
import StaticWrap.Report.Diagnostics
import StaticWrap.Run.Watch
/-!
**The settings of a run.**

Directories to scan, the module path (empty: read from `go.mod`), the output file name, build
tags, verbosity switches, an explicit log level, watch mode and the debounce delay (in
nanoseconds).

* `Config.validate`: verbose and quiet exclude each other; the level must be a known name; the
  module path must be a well-formed import path; the output name must start with the
  generated-file prefix and end with `.go`; the delay must not be negative.
* `Config.logLevel`: the explicit level when it is known, else error when quiet, verbose when
  verbose, info otherwise.
-/

namespace StaticWrap.Run

/-- The default output file name. -/
def defaultOutput : String := "autogen_mockable.go"

/-- The settings of a run. -/
structure Config where
  directories : List String := ["./..."]
  module : String := ""
  output : String := defaultOutput
  tags : List String := []
  verbose : Bool := false
  quiet : Bool := false
  watch : Bool := false
  level : String := ""
  /-- The quiet period of watch mode, in nanoseconds. -/
  debounce : Int := 300000000
  deriving Repr, Inhabited

def configError (message : String) (cause : Option Failure) : Failure :=
  codedFailure .configuration message cause

/-- Checks the settings. -/
def Config.validate (c : Config) : Except Failure Unit :=
  if c.verbose && c.quiet then .error (configError "verbose and quiet cannot be combined" none)
  else
    match (if c.level.isEmpty then .ok .info else Report.parseLevel c.level) with
    | .error e => .error (configError "invalid level" (some (.plain e)))
    | .ok _ =>
      match (if c.module.isEmpty then .ok () else Check.importPath "module" c.module) with
      | .error f => .error (configError "invalid module path" (some (.field f)))
      | .ok () =>
        if !c.output.isEmpty &&
            (!Text.hasPrefix c.output generatedPrefix || !Text.hasSuffix c.output ".go") then
          let message := "output " ++ Text.quote c.output ++ " must start with " ++
            Text.quote generatedPrefix ++ " and end with .go"
          let hint := "Generated files are only skipped by discovery when they carry the prefix"
          .error (.coded ⟨.plain, .configuration, message, {}, [], [hint]⟩ none)
        else if c.debounce < 0 then
          .error (configError "debounce must not be negative" none)
        else .ok ()

/-- The log level the settings ask for. -/
def Config.logLevel (c : Config) : Report.Level :=
  match Report.parseLevel c.level with
  | .ok l => if c.level.isEmpty then (if c.quiet then .error else if c.verbose then .verbose else .info) else l
  | .error _ => if c.quiet then .error else if c.verbose then .verbose else .info

end StaticWrap.Run
