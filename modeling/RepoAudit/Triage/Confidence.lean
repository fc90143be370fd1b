import RepoAudit.Agent.Prompt
import RepoAudit.Json.Access
import RepoAudit.Json.Arithmetic
import RepoAudit.Record

/-!
Confidence in findings: a score between zero and one from what is known of the data flow, of
validation and sanitizers, and of similar code.
-/
namespace RepoAudit.Triage

def clamp (score : Float) : Float :=
  let low := if score < 1.0 then score else 1.0
  if low > 0.0 then low else 0.0

def share (part whole : Nat) : Float := Float.ofNat part / Float.ofNat whole

/-- Whether a member of an object counts as true. A missing one does not. -/
def flag (v : Json) (name : Text) : Except Fault Bool := do
  return (← v.getD name (.bool false)).truthy

def confidence (analysis : Json) : Except Fault Float := do
  let reachesSink ← flag (← analysis.field "data_flow") "reaches_sink"
  let sanitized ← flag (← analysis.field "data_flow") "has_sanitization"
  let validated ← flag (← analysis.field "ast_patterns") "has_validation"
  let effectiveness ← (← analysis.field "sanitizer_analysis").getD "effectiveness" (.int 0)
  let effective ← effectiveness.exceeds (.float 0.7)
  let similar ← (← analysis.field "similar_patterns").elements
  let safe := (← similar.mapM fun p => flag p "is_safe").count true
  let score := 0.0
  let score := if reachesSink then score + 0.4 else score
  let score := if sanitized then score - 0.3 else score
  let score := if validated then score + 0.2 else score
  let score := if effective then score - 0.2 else score
  let score := if similar.isEmpty then score else score + share safe similar.length * 0.2
  return clamp score

/-- The code around a finding and what is known of it. -/
structure FindingContext where
  sourceFile : Json
  sourceLines : Json
  syntaxContext : Json
  similarPatterns : Json
  sanitizerAnalysis : Json

namespace FindingContext

def recordType : RecordType where
  name := "FindingContext"
  fields := [("source_file", none), ("source_lines", none), ("ast_context", none),
    ("similar_patterns", none), ("sanitizer_analysis", none)]

def ofValue (v : Json) : Except Fault FindingContext := do
  let fields ← recordType.makeFrom "src.agents.triage.triage_agent" v
  let field (name : Text) : Json := (fields.lookup name).getD .null
  return ⟨field "source_file", field "source_lines", field "ast_context",
    field "similar_patterns", field "sanitizer_analysis"⟩

end FindingContext

/-- A search for code similar to some lines, among patterns of a type. -/
structure Query where
  lines : Json
  patternType : Json

/-- The steps of an analysis that are left open. -/
structure AnalysisSteps where
  /-- The context of a finding. -/
  context : Json → Except Fault FindingContext
  /-- The patterns in a context. -/
  patterns : FindingContext → Except Fault Json
  /-- What a search finds. -/
  similar : Query → Except Fault Json
  /-- The flow of data at a finding. -/
  dataFlow : Json → FindingContext → Except Fault Json
  /-- What is known of sanitizers in a context. -/
  sanitizers : FindingContext → Except Fault Json

def assess (steps : AnalysisSteps) (finding : Json) : Except Fault (Query × Float) := do
  let context ← steps.context finding
  let patterns ← steps.patterns context
  let query := ⟨context.sourceLines, ← finding.get "category"⟩
  let similar ← steps.similar query
  let flow ← steps.dataFlow finding context
  let sanitizers ← steps.sanitizers context
  let score ← confidence (.obj [("ast_patterns", patterns), ("similar_patterns", similar),
    ("data_flow", flow), ("sanitizer_analysis", sanitizers)])
  return (query, score)

/-- The key of a finding: its id, or its rule if it has none. -/
def findingKey (finding : Json) : Except Fault Json := do
  ((← finding.get "id").orElse (← finding.get "ruleId")).asKey

/-- The scores of findings and the queries made for them. -/
structure Scoring where
  scores : List (Json × Float) := []
  queries : List Query := []

/-- Scores one more finding. A finding with the key of an earlier one takes its place. -/
def Scoring.add (steps : AnalysisSteps) (s : Scoring) (finding : Json) :
    Except Fault Scoring := do
  let (query, score) ← assess steps finding
  let key ← findingKey finding
  return ⟨setEntry key score s.scores, s.queries ++ [query]⟩

def scoreFindings (steps : AnalysisSteps) (findings : Json) : Except Fault Scoring := do
  (← findings.elements).foldlM (Scoring.add steps) {}

def triageConfig (config : Json) : Except Fault Json :=
  config.withField "prompt" (.str Agent.triagePrompt)

end RepoAudit.Triage
