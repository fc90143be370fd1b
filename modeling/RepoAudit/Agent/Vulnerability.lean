import RepoAudit.Json.Access
import RepoAudit.Step
import RepoAudit.Text.Case

/-!
The analysis of one vulnerability: similar code and known weaknesses are looked up, and a language
model judges the finding with both at hand.
-/
namespace RepoAudit.Agent

def owaspCategories : List (Text × Text) := [
  ("sql_injection", "A03:2021-Injection"), ("xss", "A03:2021-Injection"),
  ("path_traversal", "A01:2021-Broken Access Control")]

/-- The OWASP category of a type of vulnerability, in any case of letters. -/
def owaspCategory (type : Text) : Text := (owaspCategories.lookup type.lower).getD "Unknown"

def owaspCategoryOf (v : Json) : Except Fault Text := do return owaspCategory (← v.text "lower")

/-- A request to one of the services. -/
inductive ServiceCall where
  | similarCode (code : Json)
  | weaknesses (type package : Json)
  | judge (prompt : Text)

/-- What the services answer. -/
structure ServiceAnswers where
  similar : Json
  weaknesses : Json
  judgement : Json

/-- A piece of work that calls services, and whose calls are known also when it ends in a
fault. -/
abbrev Calling (call α : Type) := Step (List call) α

def call {γ : Type} (c : γ) : Calling γ Unit := modify fun made => made ++ [c]

def criteria : List String := [
  "Provide a detailed analysis following these criteria:",
  "1. False Positive Assessment:",
  "   - Analyze the code context and pattern matching accuracy",
  "   - Consider architectural context and dependencies",
  "",
  "2. Exploitability Analysis:",
  "   - Required attack prerequisites",
  "   - Technical complexity",
  "   - Authentication/authorization barriers",
  "",
  "3. Impact Assessment:",
  "   - Potential business impact",
  "   - Data sensitivity concerns",
  "   - System compromise scope",
  "",
  "4. Risk-Based Priority:",
  "   - Assign Critical/High/Medium/Low with justification",
  "   - Consider both exploitability and impact",
  "",
  "5. Remediation Plan:",
  "   - Specific code-level fixes",
  "   - Security best practices",
  "   - Reference to OWASP guidelines",
  ""]

def analysisPrompt (code tool type package similar weaknesses : Json) (category : Text) : Text :=
  let details : List Text := [
    "",
    "As an expert security researcher, analyze this security finding in the context of the "
      ++ "codebase:",
    "",
    "Finding Details:",
    "- Code: " ++ code.display,
    "- Detection Tool: " ++ tool.display,
    "- Vulnerability Type: " ++ type.display,
    "- Affected Package: " ++ package.display,
    "",
    "Context:",
    "- Similar Code Patterns: " ++ similar.display,
    "- Related CVEs: " ++ weaknesses.display,
    "- OWASP Category: " ++ category,
    ""]
  joinWith "\n        " (details ++ criteria.map Text.ofString)

def analyzeVulnerability (answers : ServiceAnswers) (finding : List (Text × Json)) :
    Calling ServiceCall Json := do
  let read (name : Text) : Calling ServiceCall Json :=
    Step.attempt (Json.attributeOf "Finding" finding name)
  call (.similarCode (← read "code_snippet"))
  let type ← read "vulnerability_type"
  call (.weaknesses type (← read "affected_package"))
  let code ← read "code_snippet"
  let tool ← read "source_tool"
  let package ← read "affected_package"
  let category ← Step.attempt (owaspCategoryOf type)
  call (.judge (analysisPrompt code tool type package answers.similar answers.weaknesses
    category))
  return answers.judgement

end RepoAudit.Agent
