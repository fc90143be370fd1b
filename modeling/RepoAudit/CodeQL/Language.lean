import RepoAudit.Entries
import RepoAudit.Json.Arithmetic

/-!
The languages that CodeQL knows, and which of them prevails in a project.
-/
namespace RepoAudit.CodeQL

def extensions : List (Text × Text) := [
  (".py", "python"), (".js", "javascript"), (".ts", "javascript"), (".jsx", "javascript"),
  (".tsx", "javascript"), (".java", "java"), (".cpp", "cpp"), (".cc", "cpp"), (".cxx", "cpp"),
  (".c", "cpp"), (".hpp", "cpp"), (".h", "cpp"), (".cs", "csharp"), (".go", "go"),
  (".rb", "ruby")]

/-- Adds the count of an extension to that of its language. Other extensions do not count. -/
def addCount (counts : List (Text × Json)) (entry : Text × Json) :
    Except Fault (List (Text × Json)) :=
  match extensions.lookup entry.1 with
  | none => .ok counts
  | some language => do
    let total ← ((counts.lookup language).getD (.int 0)).add entry.2
    return setEntry language total counts

/-- Of an entry and those after it, the first with the largest count. -/
def largest (best : Text × Json) : List (Text × Json) → Except Fault (Text × Json)
  | [] => .ok best
  | entry :: rest => do
    if ← entry.2.exceeds best.2 then largest entry rest else largest best rest

/-- The language with the most files, by the counts of extensions. Of several the one counted
first prevails. -/
def mainLanguage (counts : List (Text × Json)) : Except Fault (Option Text) := do
  match ← counts.foldlM addCount [] with
  | [] => return none
  | first :: rest => return some (← largest first rest).1

end RepoAudit.CodeQL
