import RepoAudit.Fault
import RepoAudit.Path

/-!
Directories. A directory keeps its entries in the order of their names, so listings are sorted.
A path is followed part by part, so a step upwards leads to the directory that holds the last one.
-/
namespace RepoAudit

/-- What a name in a directory stands for. -/
inductive Entry where
  | file (content : List UInt8)
  | directory (entries : List (Text × Entry))
  /-- A file or a directory that may not be opened: it can be neither read nor passed through. -/
  | barred (isDirectory : Bool)
deriving Inhabited

/-- A directory met on a walk: the names that lead to it, and its entries. -/
structure Listing where
  below : List Text
  entries : List (Text × Entry)

namespace Entry

def isFile : Entry → Bool
  | file _ => true
  | directory _ => false
  | barred isDirectory => !isDirectory

/-- The entries of a directory. A file has none, and those of a barred directory stay unknown. -/
def entries : Entry → List (Text × Entry)
  | directory entries => entries
  | _ => []

/-- Puts an entry under a name, in place of an older one. -/
def place (name : Text) (e : Entry) : List (Text × Entry) → List (Text × Entry)
  | [] => [(name, e)]
  | (n, old) :: rest =>
    if n == name then (n, e) :: rest
    else if Text.le n name then (n, old) :: place name e rest
    else (name, e) :: (n, old) :: rest

/-- Changes the entry to which names lead. Directories on the way are made if they are missing. -/
def change (f : Entry → Entry) : List Text → Entry → Entry
  | [], e => f e
  | name :: below, e =>
    .directory
      (place name (change f below ((e.entries.lookup name).getD (.directory []))) e.entries)

def writeFile (names : List Text) (content : List UInt8) (top : Entry) : Entry :=
  change (fun _ => .file content) names top

/-- Makes a directory, unless there is one. -/
def makeDirectory (names : List Text) (top : Entry) : Entry :=
  change (fun e => .directory e.entries) names top

mutual

/-- The directories at and below an entry: each before those in it. Barred ones are passed by. -/
def listings (below : List Text) : Entry → List Listing
  | .directory entries => ⟨below, entries⟩ :: listingsOf below entries
  | _ => []

def listingsOf (below : List Text) : List (Text × Entry) → List Listing
  | [] => []
  | (name, e) :: rest => listings (below ++ [name]) e ++ listingsOf below rest

end

end Entry

/-- The files of a machine, and the names that lead to the working directory. -/
structure Disk where
  root : Entry
  current : List Text := []

namespace Disk

/-- One step of a path from a directory and those above it. There is nothing above the root. -/
def step (path : Text) (trail : List Entry) (part : Text) : Except Fault (List Entry) :=
  match trail with
  | .directory entries :: above =>
    if part.isEmpty || part == Path.here then .ok trail
    else if part == Path.above then .ok (if above.isEmpty then trail else above)
    else match entries.lookup part with
      | some e => .ok (e :: trail)
      | none => .error (.noSuchFile path)
  | .barred true :: _ => if part.isEmpty then .ok trail else .error (.accessDenied path)
  | .file _ :: _ | .barred false :: _ => .error (.notDirectory path)
  | [] => .error (.noSuchFile path)

/-- The entry that a path leads to, from the root or from the working directory. -/
def locate (disk : Disk) (path : Text) : Except Fault Entry := do
  if path.isEmpty then throw (.noSuchFile path)
  let start := if Path.isAbsolute path then [] else disk.current
  match ← (start ++ splitAll Path.slash path).foldlM (step path) [disk.root] with
  | e :: _ => return e
  | [] => throw (.noSuchFile path)

def currentPath (disk : Disk) : Text := Path.slash :: joinWith [Path.slash] disk.current

/-- Whether a path leads to an entry. -/
def has (disk : Disk) (path : Text) : Bool := (disk.locate path).isOk

/-- The directories at and below a path, none if there is no directory. -/
def walk (disk : Disk) (start : Text) : List Listing :=
  match disk.locate start with
  | .ok e => e.listings []
  | .error _ => []

/-- The fault of a path that no system takes: surrogates in it stand for no bytes, or it has a
NUL. -/
def pathFault? (path : Text) : Option Fault :=
  match path.unencodable? .escape with
  | some fault => some fault
  | none => if path.contains (.char '\x00') then some .embeddedNul else none

/-- Refuses a path at which no walk can start, whatever is on the disk. -/
def checkStart (path : Text) : Except Fault Unit :=
  match pathFault? path with
  | some fault => .error fault
  | none => .ok ()

def readText (disk : Disk) (path : Text) : Except Fault Text := do
  match ← disk.locate path with
  | .directory _ => throw (.isDirectory path)
  | .barred _ => throw (.accessDenied path)
  | .file content => match Utf8.decode content with
    | .ok chars => return .ofChars (Utf8.unifyLineEnds chars)
    | .error bad => throw (.undecodable bad)

end Disk

namespace Listing

def files (l : Listing) : List Text := (l.entries.filter fun (_, e) => e.isFile).map (·.1)

/-- The path of a directory met on a walk from `start`. -/
def path (start : Text) (l : Listing) : Text := l.below.foldl Path.join start

end Listing

end RepoAudit
