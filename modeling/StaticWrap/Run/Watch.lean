import StaticWrap.Text.SlashPath
/-!
**Which file events can change the generated files.**

Writing, creating, removing or renaming a file matters when the file is a `go.mod`, or a Go
source that is neither a test nor a generated file (`autogen_` prefix). A change of mode alone
never matters.

* `relevant`: the event can change the output.
-/

namespace StaticWrap.Run

/-- What happened to a file. -/
inductive FileOp where
  | create
  | write
  | remove
  | rename
  | chmod
  deriving DecidableEq, Repr

/-- The prefix of every generated file's name. -/
def generatedPrefix : String := "autogen_"

/-- An event with these operations on the named file can change the output. -/
def relevant (name : String) (ops : List FileOp) : Bool :=
  if !ops.any (fun o => o != .chmod) then false
  else
    let base := Text.baseName name
    base == "go.mod" ||
      (Text.hasSuffix base ".go" && !Text.hasSuffix base "_test.go" &&
        !Text.hasPrefix base generatedPrefix)

end StaticWrap.Run
