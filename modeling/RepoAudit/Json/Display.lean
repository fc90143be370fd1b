import RepoAudit.Json.Basic
import RepoAudit.Decimal.Format
import RepoAudit.Text.Quoted
import RepoAudit.Text.Search

/-!
How values are shown in messages and prompts. A text is shown as it is on its own and in quotes
inside a container.
-/
namespace RepoAudit

/-- Parts between brackets, divided by commas. -/
def bracketed (left right : Char) (parts : List Text) : Text :=
  .char left :: joinWith ", " parts ++ [.char right]

namespace Json

mutual

/-- A value as it is shown inside a container. -/
def shown : Json → Text
  | .null => "None"
  | .bool true => "True"
  | .bool false => "False"
  | .int n => Text.ofInt n
  | .float x => Text.ofChars (Decimal.shown.write x)
  | .str s => s.quoted
  | .arr items => bracketed '[' ']' (shownItems items)
  | .obj members => bracketed '\x7b' '\x7d' (shownMembers members)

def shownItems : List Json → List Text
  | [] => []
  | item :: rest => shown item :: shownItems rest

def shownMembers : List (Text × Json) → List Text
  | [] => []
  | (name, item) :: rest => (name.quoted ++ ": " ++ shown item) :: shownMembers rest

end

/-- A value as it is shown on its own. -/
def display : Json → Text
  | .str s => s
  | v => shown v

end Json

end RepoAudit
