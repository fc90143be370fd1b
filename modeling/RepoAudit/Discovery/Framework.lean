import RepoAudit.Entries
import RepoAudit.Json.Access
import RepoAudit.Step
import RepoAudit.Text.Case

/-!
Frameworks of a project, as its package files and the names of its files tell. The detection
reports what it looks at.
-/
namespace RepoAudit.Discovery

/-- The frameworks found so far and the lines of the report. -/
structure Detection where
  frameworks : List Text := []
  lines : List Text := []

namespace Detection

def add (d : Detection) (framework : Text) : Detection :=
  { d with frameworks := insertNew framework d.frameworks }

def addIf (d : Detection) (condition : Bool) (framework : Text) : Detection :=
  if condition then d.add framework else d

/-- Prints a line of the report. A line that cannot be printed is a fault. -/
def say [Output] (line : Text) : Step Detection Unit := do
  let line ← Step.attempt line.printed
  modify fun d => { d with lines := d.lines ++ [line] }

end Detection

open Detection

variable [Output]

def endsWith (t ending : Text) : Bool := ending.isSuffixOf t

def holdsAny (t : Text) (parts : List Text) : Bool := parts.any fun part => occursIn part t

/-- Flask is taken from requirements, unless the project is Flask itself. -/
def noteFlask (files : List Text) (requirements : Text) : Step Detection Unit := do
  if occursIn "flask" requirements then
    say "Found Flask in requirements"
    if !files.any fun f => endsWith f "flask.py" then
      modify (·.add "flask")
      say "Added Flask framework"

/-- Django is taken from requirements if the project has one of its scripts at its top. -/
def noteDjango (files : List Text) (requirements : Text) : Step Detection Unit := do
  if occursIn "django" requirements then
    say "Found Django in requirements"
    if files.contains "manage.py" || files.contains "wsgi.py" then
      modify (·.add "django")
      say "Added Django framework"

def noteFastapi (requirements : Text) : Step Detection Unit := do
  if occursIn "fastapi" requirements then
    modify (·.add "fastapi")
    say "Added FastAPI framework"

/-- What a file of Python requirements tells. -/
def noteRequirements (files : List Text) (package : Text × Text) : Step Detection Unit := do
  let requirements := package.2.lower
  say ("Analyzing requirements in " ++ package.1)
  noteFlask files requirements
  noteDjango files requirements
  noteFastapi requirements

/-- The frameworks that packages of a manifest stand for. -/
def packageFrameworks : List (Text × List Text) := [
  ("nextjs", ["next"]), ("express", ["express"]), ("react", ["react", "react-dom"]),
  ("vue", ["vue"]), ("nestjs", ["@nestjs/core"]), ("gatsby", ["gatsby"]), ("nuxt", ["nuxt"])]

/-- Whether one of the commands holds a text. Commands after the first that does are not looked
at. -/
def anyHolds (part : Text) : List Json → Except Fault Bool
  | [] => .ok false
  | command :: rest => do if ← command.holds part then return true else anyHolds part rest

/-- The frameworks that a manifest tells: by its dependencies, and Angular also by a script that
calls its command. -/
def manifestFrameworks (manifest : Json) : Except Fault (List Text) := do
  let dependencies ← (← manifest.getD "dependencies" (.obj [])).unpacked
  let development ← (← manifest.getD "devDependencies" (.obj [])).unpacked
  let scripts ← manifest.getD "scripts" (.obj [])
  let has (name : Text) : Bool :=
    dependencies.any (·.1 == name) || development.any (·.1 == name)
  let found := (packageFrameworks.filter fun (_, names) => names.any has).map (·.1)
  let angular ← if has "@angular/core" then pure true else anyHolds "ng " (← scripts.values)
  return if angular then "angular" :: found else found

/-- What a manifest tells. One that is no document is reported, and one of another shape ends the
detection. -/
def noteManifest (package : Text × Text) : Step Detection Unit :=
  match Json.read package.2 with
  | .error (.flaw ..) => say ("Error parsing " ++ package.1)
  | .error error => throw (.document error)
  | .ok manifest => do
    let found ← Step.attempt (manifestFrameworks manifest)
    modify fun d => found.foldl Detection.add d

def isFlaskApplication (file : Text) : Bool :=
  endsWith file ".py" && !(Text.ofString "test").isPrefixOf file && !occursIn "/tests/" file
    && holdsAny file.lower ["app.py", "application.py", "wsgi.py"]

/-- What the name of a file tells. A server script counts for Express if it is among the package
files and names Express there. -/
def noteFile (packages : List (Text × Text)) (d : Detection) (file : Text) : Detection :=
  let lower := file.lower
  let server := ["app.js", "server.js", "index.js"].any fun (e : String) => endsWith lower e
  ((d.addIf (holdsAny lower ["next.config.js", "pages/_app.js", "pages/_app.tsx"]) "nextjs").addIf
    (server && occursIn "express" ((packages.lookup file).getD []).lower) "express").addIf
    (holdsAny lower ["angular.json", ".angular-cli.json", "ng-module.ts"]) "angular"

def shownNames (names : List Text) : Text := bracketed '[' ']' (names.map Text.quoted)

/-- Detects the frameworks of a project with the given files and package files. -/
def detectFrameworks (files : List Text) (packages : List (Text × Text)) :
    Step Detection Unit := do
  say "\n=== Starting Framework Detection ==="
  let python := packages.filter fun (name, _) => (Text.ofString "python:").isPrefixOf name
  say ("Found Python package files: " ++ shownNames (python.map (·.1)))
  python.forM (noteRequirements files)
  let npm := packages.filter fun (name, _) => endsWith name "package.json"
  say ("\nFound NPM package files: " ++ shownNames (npm.map (·.1)))
  npm.forM noteManifest
  modify (·.addIf (files.any isFlaskApplication) "flask")
  modify fun d => files.foldl (noteFile packages) d

end RepoAudit.Discovery
