import RepoAudit.Host

/-!
The dependencies of a project, as the package managers that it uses tell them.
-/
namespace RepoAudit.Dependencies

variable {σ : Type}

def listCommand : List Text := ["pip", "list", "--format=json"]

/-- The packages of Python, none if they cannot be listed. -/
def packages (host : Host σ) : Work σ Json := do
  match ← Work.execute host listCommand with
  | .finished output => match Json.read output with
    | .ok v => return v
    | .error _ => return .obj []
  | _ => return .obj []

def noFindings : List (Text × Json) := [
  ("direct_dependencies", .obj []), ("transitive_dependencies", .obj []),
  ("vulnerable_dependencies", .arr [])]

/-- The findings on a project. `has` tells which files it has, and `node` what is known of its
packages of Node. Later findings replace earlier ones of the same name. -/
def analyze (host : Host σ) (has : Text → Bool) (node : List (Text × Json)) :
    Work σ (List (Text × Json)) := do
  let mut findings := noFindings
  if has "requirements.txt" then
    findings := setEntry "python_dependencies" (← packages host) findings
  if has "package.json" then
    findings := setEntries node findings
  return findings

end RepoAudit.Dependencies
