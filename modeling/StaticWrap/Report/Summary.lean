import StaticWrap.Failure.Basic
import StaticWrap.Text.Display
/-!
**The summary of a generation pass.**

It counts the packages processed, markers found, wrappers generated, methods wrapped,
functions skipped, problems and files left unchanged, and lists the packages that were
skipped (as the coded errors that skipped them) and the files written and removed.

* `PassSummary.stats`: the counters under their display names, for the closing summary.
-/

namespace StaticWrap.Report

/-- The summary of a pass. -/
structure PassSummary where
  passId : String := ""
  durationMs : Int := 0
  generation : Nat := 0
  packagesProcessed : Nat := 0
  markersFound : Nat := 0
  unitsGenerated : Nat := 0
  methodsWrapped : Nat := 0
  functionsSkipped : Nat := 0
  problems : Nat := 0
  filesUnchanged : Nat := 0
  skippedPackages : List Failure := []
  generatedFiles : List String := []
  removedFiles : List String := []
  deriving Inhabited

/-- The counters under their display names. -/
def PassSummary.stats (s : PassSummary) : List (String × String) :=
  [("Packages processed", toString s.packagesProcessed),
   ("Markers found", toString s.markersFound),
   ("Wrappers generated", toString s.unitsGenerated),
   ("Methods wrapped", toString s.methodsWrapped),
   ("Functions skipped", toString s.functionsSkipped),
   ("Packages skipped", toString s.skippedPackages.length),
   ("Problems", toString s.problems),
   ("Files written", toString s.generatedFiles.length),
   ("Files unchanged", toString s.filesUnchanged),
   ("Files removed", toString s.removedFiles.length)]

end StaticWrap.Report
