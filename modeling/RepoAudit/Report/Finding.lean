import RepoAudit.Json.Access
import RepoAudit.Record
import RepoAudit.Text.Case

/-!
Findings of security tools. The severity of a finding is one of four levels if the finding comes
from the results of a tool, and any value if it comes from a judgement.
-/
namespace RepoAudit

/-- How severe a finding is. -/
inductive Severity where
  | critical
  | high
  | medium
  | low
deriving DecidableEq, Repr

namespace Severity

def word : Severity → Text
  | critical => "CRITICAL"
  | high => "HIGH"
  | medium => "MEDIUM"
  | low => "LOW"

def ofWord (w : Text) : Except Fault Severity :=
  match [critical, high, medium, low].find? fun s => s.word == w with
  | some s => .ok s
  | none => .error (.unknownSeverity w)

/-- The severity in a result of a tool, in any case of letters. Without one it is medium. -/
def ofResult (result : Json) : Except Fault Severity := do
  ofWord (← (← result.getD "severity" (.str "MEDIUM")).text "upper").upper

end Severity

/-- A severity, or a value in its place. -/
inductive Rating where
  | rated (s : Severity)
  | unrated (v : Json)

namespace Rating

def json : Rating → Json
  | rated s => .str s.word
  | unrated v => v

def shown : Rating → Text
  | rated s => "<Severity." ++ s.word ++ ": " ++ s.word.quoted ++ ">"
  | unrated v => v.shown

/-- The word of a rating. Only a severity has one. -/
def word : Rating → Except Fault Text
  | rated s => .ok s.word
  | unrated v => .error (.noAttribute v.typeName "value")

end Rating

structure Finding where
  vulnerabilityType : Json
  severity : Rating
  affectedPackage : Json
  codeSnippet : Json
  filePath : Json
  lineNumber : Json
  description : Json

namespace Finding

def ofResult (result : Json) : Except Fault Finding := do
  let vulnerabilityType ← result.get "type"
  let severity ← Severity.ofResult result
  return {
    vulnerabilityType, severity := .rated severity
    affectedPackage := ← result.get "package"
    codeSnippet := ← result.get "code"
    filePath := ← result.get "file"
    lineNumber := ← result.get "line"
    description := ← result.get "description" }

def ofResults (results : Json) : Except Fault (List Finding) := do
  (← results.elements).mapM ofResult

def recordType : RecordType where
  name := "Finding"
  fields := [("vulnerability_type", none), ("severity", none), ("affected_package", none),
    ("code_snippet", none), ("file_path", none), ("line_number", none), ("description", none)]

/-- The finding that a judgement lists, with whatever it gives as severity. -/
def ofJudgement (v : Json) : Except Fault Finding := do
  let fields ← recordType.makeFrom "core.models.security_report" v
  let field (name : Text) : Json := (fields.lookup name).getD .null
  return ⟨field "vulnerability_type", .unrated (field "severity"), field "affected_package",
    field "code_snippet", field "file_path", field "line_number", field "description"⟩

def json (f : Finding) : Json := .obj [
  ("vulnerability_type", f.vulnerabilityType), ("severity", f.severity.json),
  ("affected_package", f.affectedPackage), ("code_snippet", f.codeSnippet),
  ("file_path", f.filePath), ("line_number", f.lineNumber), ("description", f.description)]

def shown (f : Finding) : Text := shownRecord "Finding" [
  ("vulnerability_type", f.vulnerabilityType.shown), ("severity", f.severity.shown),
  ("affected_package", f.affectedPackage.shown), ("code_snippet", f.codeSnippet.shown),
  ("file_path", f.filePath.shown), ("line_number", f.lineNumber.shown),
  ("description", f.description.shown)]

/-- A value, or a mark that there is none. -/
def orAbsent (v : Json) : Text := (v.orElse (.str "N/A")).display

/-- A finding as it is put before a language model. Its severity has to be one of the four. -/
def prompt (f : Finding) : Except Fault Text := do
  let severity ← f.severity.word
  return "Type: " ++ f.vulnerabilityType.display ++ "\nSeverity: " ++ severity
    ++ "\nPackage: " ++ orAbsent f.affectedPackage
    ++ "\nLocation: " ++ f.filePath.display ++ ":" ++ orAbsent f.lineNumber
    ++ "\nDescription: " ++ f.description.display
    ++ "\nCode: " ++ orAbsent f.codeSnippet ++ "\n"

end Finding

/-- A finding as it is stored, with the tool that made it. No fingerprint is computed yet. -/
structure StoredFinding where
  vulnerabilityType : Json
  severity : Severity
  affectedPackage : Json
  codeSnippet : Json
  filePath : Json
  lineNumber : Json
  description : Json
  sourceTool : Json
  fingerprint : Option Text := none

/-- The stored form of a result of a tool. -/
def StoredFinding.ofResult (tool result : Json) : Except Fault StoredFinding := do
  let vulnerabilityType ← result.get "type"
  let severity ← Severity.ofResult result
  return {
    vulnerabilityType, severity
    affectedPackage := ← result.get "package"
    codeSnippet := ← result.get "code"
    filePath := ← result.get "file"
    lineNumber := ← result.get "line"
    description := ← result.get "description"
    sourceTool := tool }

end RepoAudit
