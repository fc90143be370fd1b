import RepoAudit.Report.Finding

/-!
Security reports: findings in four groups and a summary.
-/
namespace RepoAudit

structure SecurityReport where
  critical : List Finding
  high : List Finding
  medium : List Finding
  low : List Finding
  summary : Json

namespace SecurityReport

def group (judgement : Json) (name : Text) : Except Fault (List Finding) := do
  (← (← judgement.getD name (.arr [])).elements).mapM Finding.ofJudgement

def ofJudgement (judgement : Json) : Except Fault SecurityReport := do
  let critical ← group judgement "critical"
  let high ← group judgement "high"
  let medium ← group judgement "medium"
  let low ← group judgement "low"
  return ⟨critical, high, medium, low, ← judgement.getD "summary" (.str [])⟩

/-- All findings of a report, the gravest group first. -/
def findings (r : SecurityReport) : List Finding := r.critical ++ r.high ++ r.medium ++ r.low

def json (r : SecurityReport) : Json :=
  let list (findings : List Finding) : Json := .arr (findings.map Finding.json)
  .obj [("critical_findings", list r.critical), ("high_priority_findings", list r.high),
    ("medium_priority_findings", list r.medium), ("low_priority_findings", list r.low),
    ("analysis_summary", r.summary)]

def shown (r : SecurityReport) : Text :=
  let list (findings : List Finding) : Text := bracketed '[' ']' (findings.map Finding.shown)
  shownRecord "SecurityReport" [
    ("critical_findings", list r.critical), ("high_priority_findings", list r.high),
    ("medium_priority_findings", list r.medium), ("low_priority_findings", list r.low),
    ("analysis_summary", r.summary.shown)]

end SecurityReport

end RepoAudit
