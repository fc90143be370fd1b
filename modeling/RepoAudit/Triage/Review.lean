import RepoAudit.Step
import RepoAudit.Triage.Sarif

/-!
The review of SARIF results by a language model, in three questions. The third one builds on the
answers to the others.
-/
namespace RepoAudit.Triage

/-- A talk with a language model: the replies it still gives, and the prompts it was given. -/
structure Dialogue where
  replies : List (Except Fault Json)
  prompts : List Text := []

abbrev Conversation (α : Type) := Step Dialogue α

def ask (prompt : Text) : Conversation Json := do
  let d ← get
  match d.replies with
  | [] =>
    set { d with prompts := d.prompts ++ [prompt] }
    throw .popFromEmpty
  | reply :: replies =>
    set (Dialogue.mk replies (d.prompts ++ [prompt]))
    Step.attempt reply

/-- Lines of a prompt, all but the first indented. -/
def promptLines (first : Text) (rest : List Text) : Text :=
  joinWith "\n" (first :: rest.map fun line => "        " ++ line)

def severityPrompt (context : Text) : Text :=
  promptLines "Analyze these security findings and determine their severity:" [
    context, "", "For each vulnerability, provide:",
    "1. Severity rating (Critical/High/Medium/Low)", "2. Potential impact assessment",
    "3. Exploitability evaluation", "4. Confidence level and false positive likelihood", "",
    "Format your response as a JSON object."]

def patternPrompt (context : Text) : Text :=
  promptLines "Based on these security findings:" [
    context, "", "Identify:", "1. Common security patterns or gaps in the codebase",
    "2. Potential architectural weaknesses", "3. Recommendations for the threat model", "",
    "Format your response as a JSON object."]

def remediationPrompt (severity patterns : Json) : Text :=
  promptLines "Given these vulnerabilities and patterns:" [
    "Severity Analysis: " ++ severity.display, "Pattern Analysis: " ++ patterns.display, "",
    "Create a prioritized remediation plan considering:", "1. Severity of each issue",
    "2. Complexity of exploitation", "3. Business impact", "4. Dependencies between fixes",
    "5. Required effort for remediation", "", "Format your response as a JSON object."]

/-- The answers of a review. -/
structure Review where
  severity : Json
  patterns : Json
  remediation : Json

def review (sarif : Json) : Conversation Review := do
  let context ← Step.attempt (vulnerabilityContext sarif)
  let severity ← ask (severityPrompt context)
  let patterns ← ask (patternPrompt context)
  let remediation ← ask (remediationPrompt severity patterns)
  return ⟨severity, patterns, remediation⟩

def reviewFile (disk : Disk) (path : Text) : Conversation Review := do
  review (← Step.attempt (readDocument disk path))

def faultReport (path : Text) : Fault → Text
  | .noSuchFile _ => "SARIF file not found at: " ++ path
  | .document (.flaw ..) => "Error parsing SARIF file: Invalid JSON format"
  | fault => "Unexpected error during triage: " ++ fault.message

/-- A review with its report. A fault is reported and leaves no review; it remains a fault if its
report cannot be printed. -/
def analyzeResults [Output] (disk : Disk) (path : Text) (d : Dialogue) :
    Except Fault (Option Review × List Text × Dialogue) := do
  let started : Text := "\n=== Starting LLM-based Vulnerability Triage ==="
  match Step.perform (reviewFile disk path) d with
  | (.ok r, d) => return (some r, [started], d)
  | (.error fault, d) => return (none, [started, ← (faultReport path fault).printed], d)

end RepoAudit.Triage
