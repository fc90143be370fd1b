import RepoAudit.Text.Search

/-!
Paths are texts whose parts stand between slashes.
-/
namespace RepoAudit.Path

def slash : CodePoint := .char '/'

/-- The part that stands for the directory itself. -/
def here : Text := ['.']

/-- The part that stands for the directory above. -/
def above : Text := ['.', '.']

def isAbsolute (path : Text) : Bool := path.head? == some slash

/-- A name below a directory. An absolute name stands for itself. -/
def join (directory name : Text) : Text :=
  if isAbsolute name then name
  else if directory.isEmpty || directory.getLast? == some slash then directory ++ name
  else directory ++ slash :: name

/-- What follows the last slash. -/
def baseName (path : Text) : Text :=
  match splitLast? slash path with
  | some (_, name) => name
  | none => path

/-- What stands before the last slash, without slashes at its end. A front of slashes only is
kept. -/
def directoryName (path : Text) : Text :=
  match splitLast? slash path with
  | some (front, _) =>
    if front.all (· == slash) then front ++ [slash] else trimEnd (· == slash) front
  | none => []

/-- The extension of a file with its dot. Dots at the front of the name start no extension. -/
def extension (path : Text) : Text :=
  let dot : CodePoint := .char '.'
  match splitLast? dot ((baseName path).dropWhile (· == dot)) with
  | some (_, ext) => dot :: ext
  | none => []

/-- The parts of a path that name something. -/
def parts (path : Text) : List Text :=
  (splitAll slash path).filter fun part => !part.isEmpty && part != here

/-- The slashes that make a path absolute: one, or two if there are exactly two. -/
def root (path : Text) : Text :=
  match (path.takeWhile (· == slash)).length with
  | 0 => []
  | 2 => [slash, slash]
  | _ => [slash]

/-- A path without empty parts and parts that stand for the directory itself. -/
def normal (path : Text) : Text :=
  let tidy := root path ++ joinWith [slash] (parts path)
  if tidy.isEmpty then here else tidy

/-- The parts of a path without steps upwards. A step up from the top stays there. -/
def climb (parts : List Text) : List Text :=
  parts.foldl (fun done part => if part == above then done.dropLast else done ++ [part]) []

/-- An absolute path without steps upwards. -/
def resolve (path : Text) : Text := slash :: joinWith [slash] (climb (parts path))

/-- The absolute path of a path that is followed from the directory at `current`. -/
def absolute (current path : Text) : Text := resolve (join current path)

/-- How many names two ways have in common at their start. -/
def shared : List Text → List Text → Nat
  | a :: as, b :: bs => if a == b then shared as bs + 1 else 0
  | _, _ => 0

/-- The way from one path to another: up to where they part, and down from there. -/
def relative (current path start : Text) : Text :=
  let origin := parts (absolute current start)
  let goal := parts (absolute current path)
  let common := shared origin goal
  match List.replicate (origin.length - common) above ++ goal.drop common with
  | [] => here
  | first :: rest => rest.foldl join first

end RepoAudit.Path
