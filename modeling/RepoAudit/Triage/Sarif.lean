import RepoAudit.Directory
import RepoAudit.Json.Access
import RepoAudit.Json.Writer

/-!
Findings in SARIF documents, as they are put before a language model.
-/
namespace RepoAudit.Triage

def readDocument (disk : Disk) (path : Text) : Except Fault Json := do
  match Json.read (← disk.readText path) with
  | .error error => throw (.document error)
  | .ok sarif => return sarif

/-- The rules of a run by their ids. Of rules with the same id the last one counts. -/
def rulesOf (run : Json) : Except Fault (List (Json × Json)) := do
  let driver ← (← run.getD "tool" (.obj [])).getD "driver" (.obj [])
  (← (← driver.getD "rules" (.arr [])).elements).foldlM (fun rules rule => do
    let id ← (← rule.field "id").asKey
    return setEntry id rule rules) []

/-- The file of a result: that of its first location. -/
def locationOf (result : Json) : Except Fault Json := do
  let location ← (← result.getD "locations" (.arr [.obj []])).first
  let physical ← location.getD "physicalLocation" (.obj [])
  (← physical.getD "artifactLocation" (.obj [])).getD "uri" (.str "unknown")

/-- The summary of a result, with what its rule says. -/
def summarize (rules : List (Json × Json)) (result : Json) : Except Fault Json := do
  let ruleId ← result.getD "ruleId" (.str "unknown")
  let rule := (rules.lookup (← ruleId.asKey)).getD (.obj [])
  let description ← (← result.getD "message" (.obj [])).getD "text" (.str [])
  let category ← (← rule.getD "properties" (.obj [])).getD "tags" (.arr [])
  let location ← locationOf result
  let metadata ← rule.getD "properties" (.obj [])
  return .obj [("rule_id", ruleId), ("description", description), ("category", category),
    ("location", location), ("rule_metadata", metadata)]

def summariesOfRun (run : Json) : Except Fault (List Json) := do
  let results ← run.getD "results" (.arr [])
  let rules ← rulesOf run
  (← results.elements).mapM (summarize rules)

def summaries (sarif : Json) : Except Fault (List Json) := do
  return (← (← (← sarif.getD "runs" (.arr [])).elements).mapM summariesOfRun).flatten

def vulnerabilityContext (sarif : Json) : Except Fault Text := do
  return (Json.arr (← summaries sarif)).pretty

end RepoAudit.Triage
