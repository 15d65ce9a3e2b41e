import StaticWrap.Command.Interface
import StaticWrap.Settings.Load
import StaticWrap.Run.Pass
import StaticWrap.Run.Clean
/-!
**Running the command.**

`plan` reads the arguments and settings, and `run` then does one of these, in order:

1. a flag that cannot be read ends the run with status 1 and no output;
2. `--help` prints the help text;
3. the settings are loaded (`Settings.load`); a fault is reported in full on the error
   stream, status 1;
4. the positional arguments, when there are any, replace the directories of the settings; no
   directory at all is a fault reported with the usage;
5. `--clean` removes the generated files of the directories;
6. watch mode starts watching the directories' roots and runs a first pass; what follows is
   left to the caller (`watchPass` runs each later pass);
7. otherwise one generation pass runs: in verbose mode the settings are listed first and the
   pass's closing lines follow it; at info level and above a summary ends the output. A failed
   pass is reported in full on the error stream, status 1.

The log goes to the standard output, its error messages and the reporter's problems and
failures to the error stream.
-/

namespace StaticWrap.Command

open StaticWrap.Disk

/-- What the command is run with: its arguments, environment and working directory, and the
texts it shows for a pass's identity and its duration. -/
structure Invocation where
  args : List String
  env : List (String × String) := []
  cwd : String
  passId : String := ""
  elapsed : String := ""

/-- What a run leaves: the exit status, the two output streams, the files, and in watch mode
the generator that later passes go on with. -/
structure Outcome where
  exit : Nat := 0
  stdout : String := ""
  stderr : String := ""
  tree : Tree
  watching : Option (Run.Generator × List String) := none

/-- The flags that set settings, as settings values. -/
def givenSettings (p : Parsed) : List (String × Settings.Value) :=
  p.values.filterMap fun (name, v) =>
    if !Settings.settingKeys.contains name then none
    else some (name, match v with
      | .bool b => .bool b
      | .text s => .text s
      | .texts items => .list (items.map .text)
      | .duration d => .int d)

/-- Lists the settings of a verbose run. -/
def configurationSection (c : Run.Config) (log : Report.Log) : Report.Log :=
  let log := (log.heading "Configuration").deeper
  let log := log.item ("Target directories: " ++ ", ".intercalate c.directories)
  let log := if c.module.isEmpty then log else log.item ("Custom module: " ++ c.module)
  let log := if c.output == Run.defaultOutput then log else log.item ("Output file: " ++ c.output)
  let log := if c.tags.isEmpty then log else log.item ("Build tags: " ++ ",".intercalate c.tags)
  log.shallower

/-- The log of a run at the settings' level, its error messages kept apart. -/
def runLog (c : Run.Config) : Report.Log := { level := c.logLevel, splitErrors := true }

/-- Removes the generated files of the directories. -/
def runClean (inv : Invocation) (c : Run.Config) (t : Tree) : Outcome :=
  let log := (runLog c).startStep "Cleaning generated files"
  let cleaning := Run.cleanGenerated t inv.cwd c.output c.directories
  match cleaning.fault with
  | some e =>
    let log := (log.endStep false "").error ("Clean operation failed: " ++ e.message)
    { exit := 1, stdout := log.text, stderr := log.errText, tree := cleaning.tree }
  | none =>
    let log := log.endStep true (toString cleaning.removed.length ++ " files")
    let log := if cleaning.removed.isEmpty then log else log.subheading "Removed files"
    let log := (cleaning.removed.foldl (fun (l : Report.Log) f => l.item f) log.deeper).shallower
    let log := log.success ("All " ++ c.output ++ " files have been removed")
    { stdout := log.text, stderr := log.errText, tree := cleaning.tree }

/-- The log of a generation run: verbose runs list their settings first. -/
def passLog (c : Run.Config) : Report.Log :=
  if c.verbose then configurationSection c (runLog c) else runLog c

/-- The report of a generation pass whose duration is shown as `elapsed`. -/
def passOutcome (c : Run.Config) (o : Run.PassOutcome) (elapsed : String) : Outcome :=
  match o.result with
  | .error e =>
    { exit := 1, stdout := o.log.text,
      stderr := o.log.errText ++ o.reports ++ Report.errorText c.verbose e, tree := o.tree }
  | .ok s =>
    let success := if c.verbose then Report.successLines s elapsed else ""
    let summary := if o.log.level.admits .info then
        Report.Log.summaryText "Generation Complete!" s.stats
      else ""
    { stdout := o.log.text ++ success ++ summary, stderr := o.log.errText ++ o.reports,
      tree := o.tree }

/-- Runs one generation pass and reports it. -/
def runOnce (inv : Invocation) (c : Run.Config) (t : Tree) : Outcome :=
  passOutcome c (({ config := c } : Run.Generator).runPass t inv.cwd inv.passId (passLog c))
    inv.elapsed

/-- A pass of watch mode: the generator after it, the files, and what it wrote to each
stream. A pass ends with a one-line account, or with its failure in full. -/
def watchPass (inv : Invocation) (g : Run.Generator) (t : Tree) (log : Report.Log) :
    Run.Generator × Tree × Report.Log × String :=
  let o := g.runPass t inv.cwd inv.passId log
  match o.result with
  | .error e =>
    let log := o.log.error ("pass failed: " ++ e.message)
    (o.generator, o.tree, log, o.reports ++ Report.errorText g.config.verbose e)
  | .ok s =>
    let log := o.log.success ("Pass " ++ s.passId ++ ": " ++ toString s.unitsGenerated ++
      " wrappers, " ++ toString s.generatedFiles.length ++ " files written, " ++
      toString s.filesUnchanged ++ " unchanged, " ++ toString s.removedFiles.length ++ " removed")
    (o.generator, o.tree, log, o.reports)

/-- Starts watch mode: every root must exist; then the first pass runs. -/
def runWatch (inv : Invocation) (c : Run.Config) (t : Tree) : Outcome :=
  let roots := Run.roots t inv.cwd c.directories
  let log := runLog c
  match roots.find? fun r => !t.exists? r with
  | some missing =>
    let log := log.error ("Cannot start watching: lstat " ++ missing ++ ": no such file or directory")
    { exit := 1, stdout := log.text, stderr := log.errText, tree := t }
  | none =>
    let log := log.info ("Watching " ++ ", ".intercalate roots ++ " (ctrl-c to stop)")
    let (g, tree, log, reports) := watchPass inv { config := c } t log
    { stdout := log.text, stderr := log.errText ++ reports, tree, watching := some (g, roots) }

/-- What a run comes to once its arguments and settings are read: an outcome already, or a
generation pass, or watch mode, with the settings. -/
inductive Plan where
  | done (o : Outcome)
  | generate (c : Run.Config)
  | watch (c : Run.Config)

/-- Reads the arguments and the settings. -/
def plan (inv : Invocation) (t : Tree) : Plan :=
  match parseArgs flags inv.args with
  | .error _ => .done { exit := 1, tree := t }
  | .ok parsed =>
    if parsed.isSet "help" then .done { stdout := helpText, tree := t }
    else
      match Settings.load t inv.cwd inv.env (parsed.text "config") (givenSettings parsed) with
      | .error e => .done { exit := 1, stderr := Report.errorText false e, tree := t }
      | .ok c =>
        let c := if parsed.args.isEmpty then c else { c with directories := parsed.args }
        if c.directories.isEmpty then
          .done { exit := 1, tree := t,
                  stderr := "Error: at least one directory path is required\n\n" ++ usageText }
        else if parsed.isSet "clean" then .done (runClean inv c t)
        else if c.watch then .watch c
        else .generate c

/-- Runs the command over a tree of files; watch mode stops after its first pass. -/
def run (inv : Invocation) (t : Tree) : Outcome :=
  match plan inv t with
  | .done o => o
  | .generate c => runOnce inv c t
  | .watch c => runWatch inv c t

end StaticWrap.Command
