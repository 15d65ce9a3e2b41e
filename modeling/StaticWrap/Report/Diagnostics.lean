import StaticWrap.Text.Basic
import StaticWrap.Text.Quote
/-!
**The diagnostics log.**

The log has a level, from silent to debug; a message is written only when the log's level is
at least the message's. Messages are `[LEVEL] text` lines, after the indentation (two spaces
per step) and before the text a label when one is set. Sections, list items and progress
lines are plain lines at the info level (the start of a step only at the verbose level).

* `parseLevel`: `silent`, `error` or `quiet`, `warn` or `warning`, `info` or empty, `verbose`,
  `debug`, in any case and with white space around; anything else is refused.
* `Log.endStep`: marks the open step done (`✓`) or failed (`✗`), with a detail in
  parentheses; nothing is written when no step is open.
* `Log.summary`: a title and the counters in key order, each `   key: value`, then a blank
  line.
-/

namespace StaticWrap.Report

/-- How much the log writes. -/
inductive Level where
  | silent
  | error
  | warn
  | info
  | verbose
  | debug
  deriving DecidableEq, Repr, Inhabited

def Level.rank : Level → Nat
  | .silent => 0
  | .error => 1
  | .warn => 2
  | .info => 3
  | .verbose => 4
  | .debug => 5

/-- The log writes messages of level `m`. -/
def Level.admits (l m : Level) : Bool := m.rank ≤ l.rank

/-- The tag of a message level. -/
def Level.tag : Level → String
  | .silent => "SILENT"
  | .error => "ERROR"
  | .warn => "WARN"
  | .info => "INFO"
  | .verbose => "VERBOSE"
  | .debug => "DEBUG"

/-- Reads a level name. -/
def parseLevel (s : String) : Except String Level :=
  match Text.lower (Text.trimSpace s) with
  | "silent" => .ok .silent
  | "error" | "quiet" => .ok .error
  | "warn" | "warning" => .ok .warn
  | "" | "info" => .ok .info
  | "verbose" => .ok .verbose
  | "debug" => .ok .debug
  | _ => .error ("unknown diagnostic level " ++ Text.quote s)

/-- A level name, or info when the name is unknown. -/
def levelOrInfo (s : String) : Level :=
  match parseLevel s with
  | .ok l => l
  | .error _ => .info

/-- The log: its level, indentation, label, open step and what it wrote. Error messages go to
a stream of their own when `splitErrors` is set. -/
structure Log where
  level : Level
  indent : Nat := 0
  label : String := ""
  step : String := ""
  text : String := ""
  splitErrors : Bool := false
  errText : String := ""
  deriving Repr, Inhabited

namespace Log

/-- The indentation of a line. -/
def margin (d : Log) : String := Text.repeatText "  " d.indent

/-- Appends text. -/
def emit (d : Log) (s : String) : Log := { d with text := d.text ++ s }

/-- Writes a line after the indentation. -/
def line (d : Log) (s : String) : Log := d.emit (d.margin ++ s ++ "\n")

/-- Writes a message of a level, when the log admits it. Success messages have the info
level and their own tag. -/
def message (d : Log) (lvl : Level) (tag msg : String) : Log :=
  if d.level.admits lvl then
    d.emit (d.margin ++ "[" ++ tag ++ "] " ++ (if d.label.isEmpty then "" else d.label ++ " ") ++
      msg ++ "\n")
  else d

/-- An error message, on the error stream when the log keeps one. -/
def error (d : Log) (msg : String) : Log :=
  if d.splitErrors then
    let written := ({ d with text := "" }.message .error "ERROR" msg).text
    { d with errText := d.errText ++ written }
  else d.message .error "ERROR" msg

def warn (d : Log) (msg : String) : Log := d.message .warn "WARN" msg

/-- An information message. -/
def info (d : Log) (msg : String) : Log := d.message .info "INFO" msg

/-- A success message. -/
def success (d : Log) (msg : String) : Log := d.message .info "SUCCESS" msg

/-- A verbose message. -/
def verbose (d : Log) (msg : String) : Log := d.message .verbose "VERBOSE" msg

/-- A debug message. -/
def debug (d : Log) (msg : String) : Log := d.message .debug "DEBUG" msg

/-- Opens a step. -/
def startStep (d : Log) (step : String) : Log :=
  let d := { d with step := step }
  if d.level.admits .verbose then d.line (step ++ "...") else d

/-- Closes the open step. -/
def endStep (d : Log) (ok : Bool) (detail : String) : Log :=
  let step := d.step
  let d := { d with step := "" }
  if step.isEmpty || !d.level.admits .info then d
  else
    d.line ((if ok then "✓" else "✗") ++ " " ++ step ++
      (if detail.isEmpty then "" else " (" ++ detail ++ ")"))

/-- A section title. -/
def heading (d : Log) (title : String) : Log :=
  if d.level.admits .info then d.line title else d

/-- A subsection title. -/
def subheading (d : Log) (title : String) : Log :=
  if d.level.admits .info then d.line ("\n" ++ title ++ ":") else d

/-- A list item. -/
def item (d : Log) (s : String) : Log :=
  if d.level.admits .info then d.line ("- " ++ s) else d

/-- Indents further lines one step more. -/
def deeper (d : Log) : Log := { d with indent := d.indent + 1 }

/-- Indents further lines one step less. -/
def shallower (d : Log) : Log := { d with indent := d.indent - 1 }

/-- Sets the label written before messages. -/
def setLabel (d : Log) (label : String) : Log := { d with label := label }

/-- The text of a summary: the title and the counters in key order. -/
def summaryText (title : String) (stats : List (String × String)) : String :=
  "\n" ++ title ++ "\n" ++
    String.join ((Text.sortBy (·.1) stats).map fun (k, v) => "   " ++ k ++ ": " ++ v ++ "\n") ++ "\n"

/-- Writes a summary at the info level. -/
def summary (d : Log) (title : String) (stats : List (String × String)) : Log :=
  if d.level.admits .info then d.emit (summaryText title stats) else d

end Log

end StaticWrap.Report
