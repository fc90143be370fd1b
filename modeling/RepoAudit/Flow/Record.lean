import RepoAudit.Flow.Basic
import RepoAudit.Json.Arithmetic

/-!
Data flows as they are reported.
-/
namespace RepoAudit

/-- A flow whose path may be any value. -/
structure FlowRecord where
  source : Json
  sink : Json
  path : Json
  carriers : List Json

def DataFlow.record (f : DataFlow) : FlowRecord := ⟨f.source, f.sink, .arr f.path, f.carriers⟩

/-- The set of some values, which have to be able to be keys, in the order of arrival. -/
def valueSet (values : List Json) : Except Fault (List Json) := do
  return (← values.mapM Json.asKey).foldl (fun set v => insertNew v set) []

/-- A set as it is shown, its members in the given order. -/
def shownSet (members : List Json) : Text :=
  if members.isEmpty then "set()" else bracketed '\x7b' '\x7d' (members.map Json.shown)

/-- The order in which the members of a set are reported: texts by their code points and numbers by
their size. -/
def Json.reportedBefore (a b : Json) : Bool :=
  match a, b with
  | .str s, .str t => Text.le s t
  | a, b => match a.exceeds b with
    | .ok larger => !larger
    | .error _ => true

/-- The members of a set in the order in which they are reported. -/
def sortedSet (members : List Json) : List Json := members.mergeSort Json.reportedBefore

namespace FlowRecord

/-- The report as an object, its variables sorted. -/
def json (f : FlowRecord) : Json :=
  .obj [("source", f.source), ("sink", f.sink), ("path", f.path),
    ("variables_involved", .arr (sortedSet f.carriers))]

def shown (f : FlowRecord) : Text :=
  "DataFlow(source='" ++ f.source.display ++ "', sink='" ++ f.sink.display ++ "', path="
    ++ f.path.display ++ ", variables_involved=" ++ shownSet f.carriers ++ ")"

end FlowRecord

end RepoAudit
