import RepoAudit.Directory
import RepoAudit.Entries
import RepoAudit.Text.Case

/-!
What a project consists of: its files, their extensions, the files of package managers and the
readme.
-/
namespace RepoAudit.Discovery

/-- The files below a path, named from there. -/
def fileTree (disk : Disk) (start : Text) : List Text :=
  (disk.walk start).flatMap fun l =>
    l.files.map fun name => Path.relative disk.currentPath (Path.join (l.path start) name) start

def listFiles (disk : Disk) (start : Text) : Except Fault (List Text) := do
  Disk.checkStart start
  return fileTree disk start

def countUp (counts : List (Text × Nat)) (key : Text) : List (Text × Nat) :=
  setEntry key ((counts.lookup key).getD 0 + 1) counts

/-- How many files have each extension, in lower case. Files without one are not counted. -/
def languages (files : List Text) : List (Text × Nat) :=
  ((files.map fun f => (Path.extension f).lower).filter fun ext => !ext.isEmpty).foldl countUp []

/-- The files of package managers, each with the name of its manager. -/
def packageFileNames : List (Text × Text) := [
  ("npm", "package.json"), ("python", "requirements.txt"), ("python", "pyproject.toml"),
  ("ruby", "Gemfile"), ("php", "composer.json"), ("rust", "Cargo.toml")]

/-- Texts that were read, and reports on files that could not be read. -/
structure Texts where
  found : List (Text × Text) := []
  lines : List Text := []

/-- Reads the file of a package manager, if it exists. -/
def readPackageFile (disk : Disk) (start : Text) (texts : Texts) (kind : Text × Text) : Texts :=
  let (manager, name) := kind
  let path := Path.join start name
  if !disk.has path then texts
  else match disk.readText path with
    | .ok content => { texts with found := texts.found ++ [(manager ++ ":" ++ name, content)] }
    | .error fault =>
      { texts with lines := texts.lines ++ ["Error reading " ++ name ++ ": " ++ fault.message] }

def packageFiles (disk : Disk) (start : Text) : Texts :=
  packageFileNames.foldl (readPackageFile disk start) {}

/-- The names that a readme may have, the preferred ones first. -/
def readmeNames : List Text := ["README.md", "README.MD", "Readme.md", "readme.md"]

/-- The first readme that can be read, with reports on those before it that cannot. Without one
the text is empty. -/
def readme (disk : Disk) (start : Text) : List Text → Text × List Text
  | [] => ([], [])
  | name :: rest =>
    let path := Path.join start name
    if !disk.has path then readme disk start rest
    else match disk.readText path with
      | .ok content => (content, [])
      | .error fault =>
        let (content, lines) := readme disk start rest
        (content, ("Error reading README: " ++ fault.message) :: lines)

end RepoAudit.Discovery
