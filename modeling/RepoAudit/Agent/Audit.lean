import RepoAudit.Agent.Prompt
import RepoAudit.Agent.Vulnerability

/-!
The agent that audits a repository: it has the project discovered, chooses tools by the test plan
of the project, runs them and reports.
-/
namespace RepoAudit.Agent

def auditTools : List Text := [
  "CodeQLTool", "SemgrepTool", "DependencyCheckTool", "VectorDBTool", "CVELookupTool",
  "DataFlowAnalyzerTool"]

/-- The configuration of the agent: the general one with its own instructions. Without a general
configuration there is none. -/
def auditConfig (general : Option Json) : Except Fault (List (Text × Json)) :=
  match general with
  | none => .error (.undefinedName "AGENT_CONFIG")
  | some config => do
    return setEntry "prompt" (.str vulnerabilityPrompt) (← config.unpacked)

/-- A step that the agent asks for. -/
inductive AuditCall where
  | discover (config : List (Text × Json)) (path : Json)
  | configure (plan : Json)
  | execute (tools : Json) (context : List (Text × Json)) (plan : Json)
  | metadata

/-- What the steps give. A step that the agent does not have gives nothing. -/
structure AuditSteps where
  discovered : Except Fault (List (Text × Json))
  selected : Option Json
  results : Option Json
  metadata : Option Json

/-- The report of the agent. -/
structure AuditReport where
  findings : Json
  context : List (Text × Json)
  metadata : Json

def stepResult (name : Text) (made : AuditCall) (result : Option Json) :
    Calling AuditCall Json :=
  match result with
  | some v => do
    call made
    return v
  | none => throw (.noAttribute "VulnerabilityAnalysisAgent" name)

def audit (steps : AuditSteps) (config : List (Text × Json)) (path : Json) :
    Calling AuditCall AuditReport := do
  call (.discover config path)
  let context ← Step.attempt steps.discovered
  let plan ← Step.attempt (Json.attributeOf "ProjectContext" context "test_coverage")
  let tools ← stepResult "_configure_tools" (.configure plan) steps.selected
  let findings ← stepResult "_execute_test_plan" (.execute tools context plan) steps.results
  let metadata ← stepResult "_generate_metadata" .metadata steps.metadata
  return ⟨findings, context, metadata⟩

end RepoAudit.Agent
