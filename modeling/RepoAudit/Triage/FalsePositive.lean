import RepoAudit.Slice
import RepoAudit.Step
import RepoAudit.Triage.Confidence
import RepoAudit.Triage.Sarif

/-!
How likely findings are false alarms: checks on the code around them, a search for similar code,
and scores from both.
-/
namespace RepoAudit.Triage.FalsePositive

def showsAny (node : Json) (marks : List Text) : Bool :=
  marks.any fun mark => occursIn mark node.display

def frameworkProtection (node : Json) : Bool :=
  showsAny node ["@PathVariable", "@RequestParam", "@Valid"]

/-- Whether a dangerous function is called. -/
def directUse (node : Json) : Bool :=
  showsAny node ["executeQuery(", "execute(", ".decode(", "eval("]

/-- Whether a check before use is missing, which is never found. -/
def missingValidation (_node : Json) : Bool := false

/-- Whether data is cleaned in a way that is easily evaded. -/
def weakSanitization (node : Json) : Bool := showsAny node ["split(", "replace(", "substring("]

def validationMethods : List Text := ["validate", "sanitize", "escape", "clean"]

def sanitizerMethods : List Text := ["prepareStatement", "createQuery", "encode"]

/-- Tells for each of some functions whether a node calls it. It may be missing. -/
abbrev CallSearch := Option (Json → List Text → Except Fault (List Bool))

def callsAny (search : CallSearch) (node : Json) (names : List Text) : Except Fault Bool :=
  match search with
  | some find => do return (← find node names).any id
  | none => .error (.noAttribute "CodeQLTriageAgent" "_find_method_calls")

def inputValidation (search : CallSearch) (node : Json) : Except Fault Bool :=
  callsAny search node validationMethods

/-- The patterns in a node, safe and unsafe ones apart. -/
def nodePatterns (search : CallSearch) (node : Json) : Except Fault Json := do
  let validation ← inputValidation search node
  let sanitizers ← callsAny search node sanitizerMethods
  return .obj [
    ("validation_patterns", .obj [("input_validation", .bool validation),
      ("sanitizer_calls", .bool sanitizers),
      ("framework_protection", .bool (frameworkProtection node))]),
    ("unsafe_patterns", .obj [("direct_use", .bool (directUse node)),
      ("missing_validation", .bool (missingValidation node)),
      ("weak_sanitization", .bool (weakSanitization node))])]

/-- What is asked of the outside during an analysis. -/
inductive Question where
  | node (file line : Json)
  | embed (text : Text)
  | similar (limit : Nat)

/-- What is known outside: the lines of files, the node at every place, the calls in a node, and
similar code. -/
structure Codebase where
  files : List (Text × List Json)
  node : Json
  calls : CallSearch
  similar : List Json

/-- An analysis, which remembers its questions also when it ends in a fault. -/
abbrev Inquiry (α : Type) := Step (List Question) α

def pose (q : Question) : Inquiry Unit := modify fun asked => asked ++ [q]

def Codebase.linesOf (c : Codebase) (file : Json) : Except Fault (List Json) := do
  match ← file.asKey with
  | .str name => match c.files.lookup name with
    | some lines => return lines
    | none => throw (.missingKey file)
  | _ => throw (.missingKey file)

/-- A number as the bound of a slice. -/
def bound (v : Json) : Except Fault Int :=
  match v.int? with
  | some n => .ok n
  | none => .error .sliceIndex

def margin : Json := .int 5

/-- The lines around a region: from five lines before its first line to five after its last. -/
def contextLines (lines : List Json) (region : Json) : Except Fault (List Json) := do
  let start ← (← region.field "startLine").subtract margin
  let stop ← (← region.field "endLine").add margin
  let start := if ← start.exceeds (.int 0) then start else .int 0
  let count : Json := .int lines.length
  let stop := if ← count.exceeds stop then stop else count
  return slice lines (← bound start) (← bound stop)

/-- Texts of lines, joined by line feeds. -/
def joinLines (lines : List Json) : Except Fault Text := do
  return joinWith "\n" (← Json.textItems lines)

def similarLimit : Nat := 5

def analyze (c : Codebase) (result : Json) : Inquiry Json := do
  let location ← Step.attempt do (← (← result.field "locations").first).field "physicalLocation"
  let file ← Step.attempt do (← location.field "artifactLocation").field "uri"
  let region ← Step.attempt (location.field "region")
  let lines ← Step.attempt do contextLines (← c.linesOf file) region
  pose (.node file (← Step.attempt (region.field "startLine")))
  let patterns ← Step.attempt (nodePatterns c.calls c.node)
  pose (.embed (← Step.attempt (joinLines lines)))
  pose (.similar similarLimit)
  let similar := (c.similar.take similarLimit).map fun code =>
    Json.obj [("code", code), ("safety_analysis", .obj [("is_safe", .bool true)])]
  return .obj [("result", result), ("ast_patterns", patterns), ("similar_patterns", .arr similar),
    ("sanitizer_analysis", .obj [("framework_sanitizers", .arr []),
      ("custom_sanitizers", .arr []), ("sanitizer_effectiveness", .float 0.5)])]

/-- Whether a member two levels down counts as true. -/
def deepFlag (v : Json) (group name : Text) : Except Fault Bool := do
  return (← (← v.field group).field name).truthy

/-- The likelihood that a finding is a false alarm. The share of safe code is not defined without
similar code. -/
def likelihood (finding : Json) : Except Fault Float := do
  let mark (group name : Text) : Except Fault Bool := do
    deepFlag (← finding.field "ast_patterns") group name
  let validated ← mark "validation_patterns" "input_validation"
  let sanitized ← mark "validation_patterns" "sanitizer_calls"
  let guarded ← mark "validation_patterns" "framework_protection"
  let direct ← mark "unsafe_patterns" "direct_use"
  let missing ← mark "unsafe_patterns" "missing_validation"
  let similar ← (← finding.field "similar_patterns").elements
  let safe := (← similar.mapM fun p => deepFlag p "safety_analysis" "is_safe").count true
  if similar.isEmpty then throw .divisionByZero
  let effectiveness ← (← finding.field "sanitizer_analysis").field "sanitizer_effectiveness"
  let score := 0.0
  let score := if validated then score + 0.3 else score
  let score := if sanitized then score + 0.2 else score
  let score := if guarded then score + 0.2 else score
  let score := if direct then score - 0.3 else score
  let score := if missing then score - 0.2 else score
  let score := score + share safe similar.length * 0.2
  return clamp (score + (← effectiveness.scale 0.1))

def addScore (scores : List (Json × Float)) (finding : Json) :
    Except Fault (List (Json × Float)) := do
  let score ← likelihood finding
  let rule ← (← finding.field "result").field "ruleId"
  return setEntry (← rule.asKey) score scores

def scoreAll (findings : Json) : Except Fault (List (Json × Float)) := do
  (← findings.elements).foldlM addScore []

def analyzeResults (c : Codebase) (sarif : Json) : Inquiry (List (Json × Float)) := do
  let runs ← Step.attempt do (← sarif.field "runs").elements
  let findings ← runs.mapM fun run => do
    (← Step.attempt do (← run.field "results").elements).mapM (analyze c)
  Step.attempt (scoreAll (.arr findings.flatten))

def analyzeFile (c : Codebase) (disk : Disk) (path : Text) : Inquiry (List (Json × Float)) := do
  analyzeResults c (← Step.attempt (readDocument disk path))

end RepoAudit.Triage.FalsePositive
