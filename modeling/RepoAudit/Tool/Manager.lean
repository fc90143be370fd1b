import RepoAudit.Host

/-!
The manager of analyzers, which run in containers.
-/
namespace RepoAudit

/-- A manager: its analyzers in the order in which their names came, and how their results are
combined, if it can do that. -/
structure Manager where
  analyzers : List (Text × (Text → Except Fault Json)) := []
  combine : Option (List (Except Fault Json) → Json) := none

namespace Manager

variable {σ : Type}

def names (m : Manager) : List Text := m.analyzers.map (·.1)

def add (m : Manager) (name : Text) (analyzer : Text → Except Fault Json) : Manager :=
  { m with analyzers := setEntry name analyzer m.analyzers }

/-- The results of all analyzers for a path. An analyzer that fails does not stop the others. -/
def run (m : Manager) (path : Text) : Except Fault Json :=
  match m.combine with
  | some combine => .ok (combine (m.analyzers.map fun (_, analyzer) => analyzer path))
  | none => .error (.noAttribute "AnalyzerManager" "_combine_results")

/-- The command that does something with the containers described in a directory. -/
def composeCommand (directory : Text) (action : List Text) : List Text :=
  "docker-compose" :: "-f" :: Path.join directory "docker-compose.yml" :: action

/-- Starts the containers. A failed start is told under a name that nothing defines. -/
def start (host : Host σ) (directory : Text) : Work σ Unit := do
  match ← Work.execute host (composeCommand directory ["up", "-d"]) with
  | .finished _ => return
  | .failed _ _ => throw (.undefinedName "AnalyzerInitializationError")
  | .faulted fault => throw fault

def stop (host : Host σ) (directory : Text) : Work σ Unit := do
  let command := composeCommand directory ["down"]
  match ← Work.execute host command with
  | .finished _ => return
  | .failed exit _ => throw (.commandFailed command exit)
  | .faulted fault => throw fault

end Manager

end RepoAudit
