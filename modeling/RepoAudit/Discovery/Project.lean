import RepoAudit.Discovery.Framework
import RepoAudit.Discovery.Inventory
import RepoAudit.Flow.Session

/-!
The discovery of a project: its inventory, its frameworks, and an analysis for the frameworks
that have an analyzer.
-/
namespace RepoAudit.Discovery

variable [Output]

/-- What is known of a project. -/
structure ProjectInfo where
  path : Text
  fileTree : List Text
  packageFiles : List (Text × Text)
  frameworks : List Text
  analyses : List (Text × Analysis)

def ProjectInfo.baseDirectory (p : ProjectInfo) : Text := Path.baseName p.path

def ProjectInfo.languages (p : ProjectInfo) : List (Text × Nat) :=
  Discovery.languages p.fileTree

/-- Whether a file may define routes in Express: a script among routes or one that starts the
application, and no test. -/
def isExpressFile (file : Text) : Bool :=
  (endsWith file ".js" || endsWith file ".ts") && !(Text.ofString "test").isPrefixOf file
    && !holdsAny file ["/tests/", "/frontend/", "spec."]
    && holdsAny file ["/routes/", "app.ts", "server.ts"]

/-- The analysis of a file with a report. A file that cannot be read is skipped. -/
def analyzeExpressFile (disk : Disk) (start file : Text) : Step Express.State Unit := do
  Express.say ("\nAnalyzing file: " ++ file)
  let path := Path.join start file
  tryCatch (do Express.analyze (.str (← Step.attempt (disk.readText path))) path) fun fault =>
    Express.say ("Error analyzing file " ++ file ++ ": " ++ fault.message)

/-- The analysis for one framework, if it has a result, and the report on it. Only for Express
there are files to look at. A name that cannot be printed ends the analysis without a result. -/
def analyzeFramework (disk : Disk) (start : Text) (files : List Text) (framework : Text) :
    Option (Text × Analysis) × List Text :=
  match Analyzer.forFramework? framework with
  | some .express =>
    match ((files.filter isExpressFile).forM (analyzeExpressFile disk start)).perform {} with
    | (.ok _, s) =>
      let a := s.analysis
      (if a.entryPoints.isEmpty && a.flows.isEmpty then none else some (framework, a), a.lines)
    | (.error fault, s) => (none, s.analysis.lines
        ++ ["Error analyzing " ++ framework ++ " framework: " ++ fault.message])
  | _ => (none, [])

/-- Discovers the project at a path. Next to what is known of it there is the report of the
analyses. -/
def discover (disk : Disk) (path : Text) : Except Fault (ProjectInfo × List Text) := do
  discard (Text.printed ("Analyzing path: " ++ path))
  let files ← listFiles disk path
  let packages := (packageFiles disk path).found
  let (result, detection) := (detectFrameworks files packages).perform {}
  result
  let results := detection.frameworks.map (analyzeFramework disk path files)
  return (⟨path, files, packages, detection.frameworks, results.filterMap (·.1)⟩,
    results.flatMap (·.2))

/-- Why nothing can be written below a path: there is no directory, or it may not be opened. -/
def writeFault? (disk : Disk) (directory path : Text) : Option Fault :=
  match disk.locate directory with
  | .ok (.directory _) => none
  | .ok (.barred true) => some (.accessDenied path)
  | .ok _ => some (.notDirectory path)
  | .error _ => some (.noSuchFile path)

/-- The report on writing the summary of a project below a directory: a line if that fails. -/
def summaryReport (disk : Disk) (directory : Text) : List Text :=
  (writeFault? disk directory (Path.join directory "project_context.json")).toList.map fun fault =>
    "Error writing project info to file: " ++ fault.message

end RepoAudit.Discovery
