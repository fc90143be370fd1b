import RepoAudit.Json.Access
import RepoAudit.Record

/-!
Threat models: what an application is, what threatens it and what is done about it. Some fields
hold records or lists of records.
-/
namespace RepoAudit.ThreatModel

def recordType (name : Text) (fields : List (Text × Json)) : RecordType :=
  ⟨name, fields.map fun (field, default) => (field, some default)⟩

def noText : Json := .str []

def noItems : Json := .arr []

def described (name : Text) : RecordType :=
  recordType name [("name", noText), ("description", noText)]

def businessContext : RecordType := recordType "BusinessContext" [
  ("business_criticality", noText), ("data_classification", noText),
  ("regulatory_requirements", noItems), ("business_impact", noText)]

def attackSurface : RecordType := recordType "AttackSurface" [
  ("user_interfaces", noItems), ("apis", noItems), ("data_storage", noItems),
  ("authentication", noItems), ("third_party_services", noItems), ("infrastructure", noItems)]

def riskPrioritization : RecordType := recordType "RiskPrioritization" [
  ("threat", noText), ("likelihood", noText), ("impact", noText), ("risk_rating", noText)]

def documentation : RecordType := recordType "Documentation" [
  ("threat_model_documentation", noText), ("update_frequency", noText)]

/-- What a field of a threat model holds: a value, a record or records. -/
inductive FieldKind where
  | plain (default : Json)
  | record (type : RecordType)
  | records (type : RecordType)

def fields : List (Text × FieldKind) := [
  ("application_name", .plain noText), ("version", .plain noText),
  ("business_context", .record businessContext), ("components", .plain noItems),
  ("entrypoints", .plain noItems), ("attack_surface", .record attackSurface),
  ("threats", .records (described "Threat")),
  ("vulnerabilities", .records (described "Vulnerability")),
  ("exploit_paths", .records (described "ExploitPath")),
  ("risk_prioritization", .records riskPrioritization),
  ("mitigations", .records (described "Mitigation")), ("documentation", .record documentation)]

/-- The content of a field. -/
inductive Content where
  | plain (v : Json)
  | record (name : Text) (fields : List (Text × Json))
  | records (name : Text) (items : List (List (Text × Json)))

/-- A threat model: the contents of its fields. -/
abbrev Model := List (Text × Content)

def origin : Text := "core.models.threat_model"

def FieldKind.content (kind : FieldKind) (v : Json) : Except Fault Content :=
  match kind with
  | plain _ => .ok (.plain v)
  | record type => do return .record type.name (← type.makeFrom origin v)
  | records type => do return .records type.name (← (← v.elements).mapM (type.makeFrom origin))

def FieldKind.default : FieldKind → Content
  | plain v => .plain v
  | record type =>
    .record type.name (type.fields.map fun (name, value) => (name, value.getD .null))
  | records type => .records type.name []

/-- The contents that arguments give, in their order. -/
def contents (arguments : List (Text × Json)) : Except Fault Model :=
  arguments.mapM fun (name, v) => do
    return (name, ← ((fields.lookup name).getD (.plain .null)).content v)

/-- The threat model that arguments make. Records are made before names are checked. -/
def make (arguments : List (Text × Json)) : Except Fault Model := do
  let given ← contents arguments
  match given.findSome? fun (name, _) =>
      RecordType.nameFault? "ThreatModel" (fields.map (·.1)) name with
  | some fault => throw fault
  | none => return fields.map fun (name, kind) => (name, (given.lookup name).getD kind.default)

def shownFields (name : Text) (fields : List (Text × Json)) : Text :=
  shownRecord name (fields.map fun (field, v) => (field, v.shown))

namespace Content

def shown : Content → Text
  | plain v => v.shown
  | record name fields => shownFields name fields
  | records name items => bracketed '[' ']' (items.map (shownFields name))

def json : Content → Json
  | plain v => v
  | record _ fields => .obj fields
  | records _ items => .arr (items.map .obj)

/-- Whether two contents are equal. A record never equals a plain value. -/
def same : Content → Content → Bool
  | plain v, plain w => v.same w
  | record a f, record b g => a == b && (Json.obj f).same (.obj g)
  | records a f, records b g => (f.isEmpty && g.isEmpty)
      || (a == b && (Json.arr (f.map .obj)).same (.arr (g.map .obj)))
  | _, _ => false

end Content

namespace Model

def shown (m : Model) : Text := shownRecord "ThreatModel" (m.map fun (name, c) => (name, c.shown))

def json (m : Model) : Json := .obj (m.map fun (name, c) => (name, c.json))

def empty : Model := fields.map fun (name, kind) => (name, kind.default)

/-- Whether nothing is known that a new threat model does not hold. -/
def isEmpty (m : Model) : Bool :=
  m.all fun (name, c) => match empty.lookup name with
    | some d => c.same d
    | none => false

end Model

/-- The threat model of a web application, as an example. -/
def exampleModel : Model :=
  setEntries [
    ("application_name", .plain (.str "Example Web Application")),
    ("version", .plain (.str "1.0")),
    ("components", .plain (.arr [.str "frontend", .str "backend", .str "database"])),
    ("entrypoints", .plain (.arr [.str "web", .str "api"])),
    ("threats", .records "Threat" [[("name", .str "Spoofing"),
      ("description", .str "An attacker impersonates a user or system.")]]),
    ("vulnerabilities", .records "Vulnerability" [[("name", .str "Input Validation"),
      ("description", .str "Lack of proper input validation.")]]),
    ("risk_prioritization", .records "RiskPrioritization" [[("threat", .str "Spoofing"),
      ("likelihood", .str "Medium"), ("impact", .str "High"), ("risk_rating", .str "High")]]),
    ("mitigations", .records "Mitigation" [[
      ("name", .str "Input Validation and Sanitization"),
      ("description", .str "Implement strict input validation.")]])] Model.empty

end RepoAudit.ThreatModel
