import RepoAudit.CodeQL.Database
import RepoAudit.Discovery.Project
import RepoAudit.Flow.Record

/-!
The scan of a repository: it is copied, its project is discovered, and its CodeQL database is
made and analysed. The first step that fails ends the scan.
-/
namespace RepoAudit

variable {σ : Type} [Output]

/-- The result of a scan: what is known of the project, and where the artefacts lie. -/
structure ScanResult where
  info : Discovery.ProjectInfo
  database : Text
  results : Text

def countValues (counts : List (Text × Nat)) : List (Text × Json) :=
  counts.map fun (key, n) => (key, .int n)

/-- An analysis as it is printed. What is known as a set is in the order in which it was found. -/
def analysisValue (a : Analysis) : Json := .obj [
  ("entry_points", .arr (a.entryPoints.map .str)),
  ("data_flows", .arr (a.flows.map fun flow => flow.record.json)),
  ("variables", .arr a.carriers)]

/-- What is known of a project, as it is printed. -/
def projectValue (info : Discovery.ProjectInfo) : Json := .obj [
  ("path", .str info.path), ("base_directory", .str info.baseDirectory),
  ("file_tree", .arr (info.fileTree.map .str)),
  ("languages", .obj (countValues info.languages)),
  ("package_files", .obj (info.packageFiles.map fun file => (file.1, .str file.2))),
  ("file_count", .int info.fileTree.length),
  ("frameworks", .arr (info.frameworks.map .str)),
  ("framework_analysis", .obj (info.analyses.map fun entry => (entry.1, analysisValue entry.2)))]

def cloneRepository (host : Host σ) (repository path : Text) : Work σ Bool := do
  Work.say ("Starting to clone repository from " ++ repository ++ " to " ++ path)
  match ← Work.clone host repository path with
  | none =>
    Work.say "Repository cloned successfully"
    return true
  | some fault =>
    Work.say ("Error cloning repository: " ++ fault.message)
    return false

/-- A result that a step needs. Without one the step is reported, and the scan ends. -/
def require {α : Type} (result : Option α) (line failure : Text) : Work σ α :=
  match result with
  | some a => pure a
  | none => do
    Work.say line
    throw (.stepFailed failure)

/-- Scans a repository. The queries are named after the counts of all extensions. -/
def scanRepository (host : Host σ) (repository path : Text) : Work σ ScanResult := do
  Work.say ("Starting security scan workflow for repository: " ++ repository)
  Work.say "Step 1: Cloning repository..."
  let cloned ← cloneRepository host repository path
  require (if cloned then some () else none) "Repository cloning failed, stopping workflow"
    "Failed to clone repository"
  Work.say "Step 2: Running project discovery..."
  let (info, _) ← Step.attempt (Discovery.discover (← Work.disk host) path)
  Work.say ("Project discovery completed. Found info: " ++ (projectValue info).display)
  let counts := countValues info.languages
  Work.say "Step 3: Building CodeQL database..."
  let database ← require (← CodeQL.buildDatabase host path counts)
    "CodeQL database creation failed" "Failed to create CodeQL database"
  Work.say "Step 4: Running CodeQL analysis..."
  let results ← require (← CodeQL.analyzeDatabase host database (Json.obj counts).display)
    "CodeQL analysis failed" "Failed to run CodeQL analysis"
  return ⟨info, database, results⟩

end RepoAudit
