import StaticWrap.Command.Flags
import StaticWrap.Run.Config
/-!
**The command's interface: its flags and help.**

* `flags`: the flags the command reads, `--help` included.
* `usageText`: the usage line, the examples and the flag lines; it follows a fault that the
  command reports with its usage.
* `helpText`: the description followed by the usage, shown for `--help`.
-/

namespace StaticWrap.Command

/-- The name of the settings file looked for in the working directory. -/
def settingsFileName : String := ".mockable"

/-- The debounce delay when none is set: 300 milliseconds. -/
def defaultDebounce : Int := 300000000

/-- The flags of the command. -/
def flags : List Flag :=
  [{ name := "config", kind := .text,
     usage := "config file (default is ./" ++ settingsFileName ++ ".yaml)" },
   { name := "module", kind := .text,
     usage := "custom module name for imports (defaults to the go.mod module)" },
   { name := "output", kind := .text, usage := "name of the generated file in each package",
     default := Run.defaultOutput },
   { name := "tags", kind := .texts, usage := "build tags used when loading marker targets" },
   { name := "verbose", short := some 'v', kind := .bool,
     usage := "enable verbose output and detailed error reporting" },
   { name := "quiet", short := some 'q', kind := .bool, usage := "only show errors" },
   { name := "level", kind := .text,
     usage := "diagnostic level: silent, error, warn, info, verbose or debug" },
   { name := "watch", short := some 'w', kind := .bool,
     usage := "regenerate whenever Go sources change" },
   { name := "debounce", kind := .duration, usage := "quiet period before watch mode regenerates",
     default := Text.nanosText defaultDebounce },
   { name := "clean", kind := .bool, usage := "delete generated files instead of generating them" },
   { name := "help", short := some 'h', kind := .bool, usage := "help for mockable" }]

/-- What the command does, shown at the top of its help. -/
def description : String :=
  "mockable scans Go packages for //mockable::static markers and writes\n" ++
  "an interface plus a wrapper struct for every marked type, so code that\n" ++
  "calls package-level functions can depend on something it can replace in tests.\n" ++
  "\n" ++
  "  //mockable::static                          wraps the functions associated with the type\n" ++
  "  //mockable::static -Target=os -Include=Read* wraps the functions of another package\n" ++
  "\n" ++
  "Directory patterns:\n" ++
  "  ./...              current directory and all subdirectories\n" ++
  "  ./internal/...     internal directory and all its subdirectories\n" ++
  "  ./pkg/repo         only the given directory"

/-- Examples of use. -/
def examples : String :=
  "  mockable ./...\n" ++
  "  mockable --verbose ./internal/...\n" ++
  "  mockable --module github.com/myorg/myapp ./...\n" ++
  "  mockable --watch ./...\n" ++
  "  mockable --clean ./..."

/-- The usage line, the examples and the flag lines. -/
def usageText : String :=
  "Usage:\n  mockable [flags] <directory-paths...>\n\nExamples:\n" ++ examples ++ "\n\nFlags:\n" ++
    Text.trimRightBy Char.isWhitespace (flagUsages flags) ++ "\n"

/-- The help text: the description and the usage. -/
def helpText : String := description ++ "\n\n" ++ usageText

end StaticWrap.Command
