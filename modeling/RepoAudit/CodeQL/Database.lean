import RepoAudit.CodeQL.Language
import RepoAudit.Host

/-!
CodeQL databases: how they are made and analysed. Both artefacts lie in the directory of the
project.
-/
namespace RepoAudit.CodeQL

variable {σ : Type} [Output]

/-- The wording of the reports on a command. -/
structure Wording where
  output : Text
  success : Text
  absent : Text
  failure : Text
  unexpected : Text

/-- Reports a fault that no command foresees. -/
def Wording.report (wording : Wording) (fault : Fault) : Work σ (Option Text) := do
  Work.say (wording.unexpected ++ fault.message)
  return none

/-- Reports the output of a command that succeeded, and whether the entry is at its path. -/
def confirm (host : Host σ) (wording : Wording) (output path : Text) : Work σ (Option Text) := do
  Work.say (wording.output ++ output)
  if (← Work.disk host).has path then
    Work.say (wording.success ++ path)
    return some path
  else
    Work.say wording.absent
    return none

/-- Runs a command that should make the entry at a path. The path is given only if the command
succeeded and the entry is there. -/
def produce (host : Host σ) (wording : Wording) (command : List Text) (path : Text) :
    Work σ (Option Text) := do
  match ← Work.execute host command with
  | .finished output => tryCatch (confirm host wording output path) wording.report
  | .failed exit errors =>
    Work.say (wording.failure ++ (Fault.commandFailed command exit).message)
    Work.say ("Error output: " ++ errors)
    return none
  | .faulted fault => wording.report fault

def databasePath (project : Text) : Text := Path.join project (Path.baseName project ++ "_db")

def createCommand (project language : Text) : List Text := [
  "codeql", "database", "create", "--language=" ++ language, "--source-root=" ++ project,
  databasePath project]

def creation : Wording where
  output := "Database creation output: "
  success := "Successfully created CodeQL database at: "
  absent := "Database creation failed: database directory not found"
  failure := "Error creating CodeQL database: "
  unexpected := "Unexpected error creating CodeQL database: "

def buildDatabase (host : Host σ) (project : Text) (counts : List (Text × Json)) :
    Work σ (Option Text) := do
  Work.say "\n=== Starting CodeQL Database Creation ==="
  match ← Step.attempt (mainLanguage counts) with
  | none =>
    Work.say "No supported language found for CodeQL analysis"
    return none
  | some language =>
    let command := createCommand project language
    Work.say ("Main language detected: " ++ language)
    Work.say ("Running CodeQL command: " ++ joinWith " " command)
    produce host creation command (databasePath project)

def resultsPath (database : Text) : Text :=
  let project := Path.directoryName database
  Path.join project (Path.baseName project ++ "-analysis.sarif")

def analyzeCommand (database language : Text) : List Text := [
  "codeql", "database", "analyze", "--format=sarif-latest",
  "--output=" ++ resultsPath database, "--", database, "codeql/" ++ language ++ "-queries"]

def analysis : Wording where
  output := "Analysis output: "
  success := "Successfully created SARIF output at: "
  absent := "Analysis failed: SARIF output file not found"
  failure := "Error running CodeQL analysis: "
  unexpected := "Unexpected error during CodeQL analysis: "

def analyzeDatabase (host : Host σ) (database language : Text) : Work σ (Option Text) := do
  let command := analyzeCommand database language
  Work.say "\n=== Starting CodeQL Analysis ==="
  Work.say ("Running CodeQL analysis command: " ++ joinWith " " command)
  produce host analysis command (resultsPath database)

end RepoAudit.CodeQL
