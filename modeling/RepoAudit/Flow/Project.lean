import RepoAudit.Directory
import RepoAudit.Flow.Session
import RepoAudit.Text.Case

/-!
Flows of a whole project: one analysis over all its Python files. Tests and examples are left
out by words in the names of directories and files.
-/
namespace RepoAudit

/-- Words that mark what is left out. -/
structure Exclusion where
  /-- A directory is left out if its path, from the start of the walk, holds one of these. -/
  directories : List Text
  files : List Text

/-- The words by which tests, examples and samples are left out. -/
def Exclusion.standard : Exclusion :=
  ⟨["test", "example", "sample"], ["test", "example", "sample"]⟩

/-- The same words for directories, while files that are samples stay in. -/
def Exclusion.keepingSamples : Exclusion := ⟨["test", "example", "sample"], ["test", "example"]⟩

/-- Whether a name holds one of the words, in any case. -/
def marked (words : List Text) (name : Text) : Bool :=
  words.any fun word => occursIn word name.lower

def Listing.pythonFiles (start : Text) (exclusion : Exclusion) (l : Listing) : List Text :=
  let path := l.path start
  if marked exclusion.directories path then []
  else (l.files.filter fun name =>
    (Text.ofString ".py").isSuffixOf name && !marked exclusion.files name).map
      fun name => Path.normal (Path.join path name)

/-- The paths of the Python files below a path, in the order of the walk. -/
def pythonFiles (disk : Disk) (start : Text) (exclusion : Exclusion) : List Text :=
  (disk.walk start).flatMap (Listing.pythonFiles start exclusion)

def findPythonFiles (disk : Disk) (start : Text) (exclusion : Exclusion) :
    Except Fault (List Text) := do
  Disk.checkStart start
  return pythonFiles disk start exclusion

/-- Two ways to analyse a project. -/
inductive Mode where
  /-- Files by the order of their paths; routes go to the enclosing function. -/
  | sorted
  /-- Files in the order of the walk; routes go to the function itself; scripts count as entry
  points. -/
  | walked
deriving DecidableEq, Repr

namespace Mode

/-- The files of a project, in the order in which they are analysed. -/
def files (mode : Mode) (disk : Disk) (start : Text) : List Text :=
  match mode with
  | sorted => Text.sort (pythonFiles disk start .standard)
  | walked => pythonFiles disk start .keepingSamples

def manner : Mode → Flask.Manner
  | sorted => .standard
  | walked => ⟨.own, false⟩

/-- Whether a file is an entry point of the project. -/
def isMain (mode : Mode) (path content : Text) : Bool :=
  Path.baseName path == "__main__.py"
    || (mode == walked && occursIn "if __name__ == \"__main__\"" content)

end Mode

section Analysis

variable [Output]

def analyzeFile (mode : Mode) (disk : Disk) (path : Text) : Step Analysis Unit := do
  let content ← Step.attempt (disk.readText path)
  Flask.visit mode.manner (← Step.attempt (readSource (.str content)))
  if mode.isMain path content then
    modify (·.addEntryPoint path)

def fileFaultLine (path : Text) (fault : Fault) : Text :=
  "Error processing " ++ path ++ ": " ++ fault.message

/-- Analyses one file and reports a fault. What was noted before the fault stays. -/
def addFile (mode : Mode) (disk : Disk) (path : Text) : Step Analysis Unit :=
  tryCatch (analyzeFile mode disk path) fun fault => Analysis.say (fileFaultLine path fault)

def analyzeProject (mode : Mode) (disk : Disk) (start : Text) : Step Analysis Unit := do
  Step.attempt (Disk.checkStart start)
  (mode.files disk start).forM (addFile mode disk)

def projectFlows (mode : Mode) (disk : Disk) (start : Text) : Except Fault Analysis :=
  let (result, analysis) := (analyzeProject mode disk start).perform {}
  result.map fun _ => analysis

end Analysis

/-- A line of a report on a project: a text, or a set under a label. -/
inductive ReportLine where
  | text (t : Text)
  | members (label : Text) (set : List Json)

def DataFlow.reportLines (f : DataFlow) : List ReportLine := [
  .text ("- From " ++ f.source.display ++ " to " ++ f.sink.display),
  .members "  Variables" f.carriers]

def TrustBoundary.reportLines (key : Text) (b : TrustBoundary) : List ReportLine := [
  .text ("\nBoundary: " ++ key), .members "Entry points" (b.entryPoints.map .str),
  .members "Exit points" (b.exitPoints.map .str), .members "Sanitizers" (b.sanitizers.map .str)]

def Analysis.report (a : Analysis) : List ReportLine :=
  .text "\nEntry Points:" ::
    (Text.sort a.entryPoints).map (fun (name : Text) => .text ("- " ++ name))
    ++ .text "\nData Flows:" :: a.flows.flatMap DataFlow.reportLines
    ++ .text "\nTrust Boundaries:" ::
      Flask.trustBoundaries.flatMap fun (key, boundary) => boundary.reportLines key

end RepoAudit
