import RepoAudit.Flow.Project
import RepoAudit.Flow.Record
import RepoAudit.Report.ThreatModel

/-!
The command line. Without arguments it reads an object that maps the paths of a project's files to
their texts, and reports the entry points, flows and boundaries of the project. With `threat-model`
it shows an example of a threat model.
-/
namespace RepoAudit.Main

def projectDirectory : Text := "flask"

/-- The files of a project. Members that are no texts are left out. -/
def project (files : List (Text × Json)) : Disk :=
  let start : Entry := Entry.makeDirectory (Path.parts projectDirectory) (.directory [])
  ⟨files.foldl (fun top (path, content) => match content with
    | .str t =>
      top.writeFile (Path.parts projectDirectory ++ Path.parts path) (Utf8.encode t.toChars)
    | _ => top) start, []⟩

def line : ReportLine → Text
  | .text t => t
  | .members label set => label ++ ": " ++ shownSet (sortedSet set)

/-- The report on a project that is given as a document, or why there is none. -/
def report [Output] (document : Text) : Except Fault (List Text) :=
  match Json.read document with
  | .error e => .error (.document e)
  | .ok v => do
    let analysis ← projectFlows .walked (project (← v.unpacked)) projectDirectory
    return analysis.lines ++ analysis.report.map line

def string (t : Text) : String := String.ofList t.toChars

end RepoAudit.Main

def main (arguments : List String) : IO UInt32 := do
  if arguments == ["threat-model"] then
    IO.println (RepoAudit.Main.string RepoAudit.ThreatModel.exampleModel.shown)
    return 0
  let document ← (← IO.getStdin).readToEnd
  match RepoAudit.Main.report (RepoAudit.Text.ofString document) with
  | .ok lines =>
    for line in lines do
      IO.println (RepoAudit.Main.string line)
    return 0
  | .error fault =>
    IO.eprintln (RepoAudit.Main.string fault.message)
    return 1
