import RepoAudit.Directory
import RepoAudit.Flow.Session

/-!
Snippets: the functions and classes of the Python files below a directory, with their sources.
-/
namespace RepoAudit

open Syntax

/-- A piece of code and where it stands. -/
structure Snippet where
  content : Text
  path : Text
  startLine : Nat
  endLine : Nat
deriving DecidableEq

/-- The lines of a source, each with its line feed. -/
def sourceLines (source : List Char) : List (List Char) :=
  match splitAll '\n' source with
  | [] => []
  | pieces =>
    (pieces.dropLast.map fun piece => piece ++ ['\n']) ++
      (pieces.getLast?.filter fun piece => !piece.isEmpty).toList

/-- What stands before and behind a number of bytes of a line. -/
def splitBytes : Nat → List Char → List Char × List Char
  | 0, line => ([], line)
  | _, [] => ([], [])
  | n, c :: rest =>
    let (front, back) := splitBytes (n - (Utf8.encodeChar c).length) rest
    (c :: front, back)

/-- The part of a source that a span covers. -/
def Syntax.Span.segment (lines : List (List Char)) (span : Span) : List Char :=
  let covered := (lines.drop (span.start.line - 1)).take (span.stop.line - span.start.line + 1)
  match covered.dropLast, covered.getLast? with
  | _, none => []
  | [], some line =>
    (splitBytes span.start.column (splitBytes span.stop.column line).1).2
  | first :: middle, some last =>
    (splitBytes span.start.column first).2 ++ middle.flatten
      ++ (splitBytes span.stop.column last).1

def isDefinition (t : Tree) : Bool := t.kind? == some .functionDef || t.kind? == some .classDef

/-- The snippet of a definition, by the lines of the source that it stands in. -/
def Snippet.ofDefinition (path : Text) (lines : List (List Char)) (node : Tree) : Snippet :=
  ⟨.ofChars (node.span.segment lines), path, node.span.start.line, node.span.stop.line⟩

/-- The snippets of a source, level by level. A source that is not well formed has none. -/
def sourceSnippets (path : Text) (source : Text) : List Snippet :=
  match readSource (.str source) with
  | .ok t =>
    (t.breadthFirst.filter isDefinition).map (.ofDefinition path (sourceLines source.toChars))
  | .error _ => []

/-- The paths below a path whose names end like those of Python files. An empty path stands for
the working directory. -/
def pythonEntries (disk : Disk) (start : Text) : List Text :=
  (disk.walk (Path.normal start)).flatMap fun l =>
    (l.entries.filter fun (name, _) => (Text.ofString ".py").isSuffixOf name).map
      fun (name, _) => Path.normal (Path.join (l.path start) name)

def fileSnippets (disk : Disk) (path : Text) : Except Fault (List Snippet) := do
  return sourceSnippets path (← disk.readText path)

/-- The snippets of the Python files below a path, file by file as a walk meets them. -/
def walkedSnippets (disk : Disk) (start : Text) : Except Fault (List Snippet) := do
  return (← (pythonEntries disk start).mapM (fileSnippets disk)).flatten

/-- The snippets of the Python files below a path, ordered by path. -/
def snippets (disk : Disk) (start : Text) : Except Fault (List Snippet) := do
  return (← walkedSnippets disk start).mergeSort fun a b => Text.le a.path b.path

end RepoAudit
