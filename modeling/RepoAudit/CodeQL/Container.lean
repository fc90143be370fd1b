import RepoAudit.Fault
import RepoAudit.Path

/-!
CodeQL in a container: the tool that analyses a repository without an installation.
-/
namespace RepoAudit.CodeQL

/-- A container that is run for a command. `volumes` are the directories that it sees. -/
structure Container where
  image : Text
  command : Text
  volumes : List (Text × Json)
  remove : Bool

def toolName : Text := "codeql"

def toolDescription : Text := "CodeQL static analysis tool"

def toolParameters : List (Text × Text) := [
  ("repo_path", "Path to the repository to analyze"),
  ("query_suite", "Name of the query suite to run")]

/-- The queries that are run if nothing is said. -/
def usualSuite : Text := "security-extended"

/-- The container that analyses the repository at an absolute path, which it cannot change. -/
def analysisContainer (repository suite : Text) : Container where
  image := "ghcr.io/microsoft/cstsectools-codeql-container:latest"
  command := "codeql database create db --language=python                      "
    ++ "&& codeql database analyze db " ++ suite ++ " --format=sarif-latest"
  volumes := [(Path.resolve repository, .obj [("bind", .str "/src"), ("mode", .str "ro")])]
  remove := true

/-- The result of the tool: findings, or why there are none. -/
inductive ToolResult where
  | success (findings : Json)
  | failed (fault : Fault)

def ToolResult.json : ToolResult → Json
  | success findings => .obj [
      ("tool", .str toolName), ("findings", findings), ("status", .str "success")]
  | failed fault => .obj [
      ("tool", .str toolName), ("error", .str fault.message), ("status", .str "failed")]

/-- Runs the tool in the given container. `run` tells why a container fails, and `parsed` what is
read from its output, if anything can read it. -/
def runTool (run : Container → Option Fault) (parsed : Option Json) (container : Container) :
    ToolResult :=
  match run container with
  | some fault => .failed fault
  | none => match parsed with
    | some findings => .success findings
    | none => .failed (.noAttribute "CodeQLTool" "_parse_results")

end RepoAudit.CodeQL
