import RepoAudit.Directory

/-!
Which configuration files a project has, and what an analysis of them gives.
-/
namespace RepoAudit.Configuration

def fileNames : List Text := [
  ".env", "config.yaml", "config.json", "docker-compose.yml", ".gitlab-ci.yml",
  ".github/workflows"]

/-- What is known of a configuration. Only files are analysed so far. -/
structure Findings where
  securityConfig : List (Text × Json) := []
  environmentVariables : List Json := []
  secretsManagement : List (Text × Json) := []
  complianceSettings : List (Text × Json) := []

/-- Analyses the configuration files at a path that are there. Without an analysis the first of
them is a fault. -/
def analyze (analysis : Option (Text → Json)) (disk : Disk) (start : Text) :
    Except Fault Findings := do
  let present := (fileNames.map fun name => (name, Path.normal (Path.join start name))).filter
    fun (_, path) => disk.has path
  let securityConfig ← present.mapM fun (name, path) => match analysis with
    | some f => .ok (name, f path)
    | none => .error (.noAttribute "ConfigAnalyzerTool" "_analyze_config")
  return { securityConfig }

end RepoAudit.Configuration
