import RepoAudit.Syntax.Field

/-!
The one-line form of a tree: the kind and, in parentheses, each field with its label. Fields that
are absent are left out, and so are those that may be none and are.
-/
namespace RepoAudit.Syntax

/-- A literal as it is shown. Whole numbers are shown up to a number of digits. -/
def Literal.shown : Literal → Except Fault Text
  | .none => .ok "None"
  | .ellipsis => .ok "Ellipsis"
  | .bool true => .ok "True"
  | .bool false => .ok "False"
  | .int n => if n.natAbs < Json.shownBound then .ok (Text.ofInt n) else .error .integerTooLong
  | .float x => .ok (Text.ofChars (Decimal.shown.write x))
  | .imaginary x => .ok (Text.ofChars (Decimal.imaginary.write x ++ ['j']))
  | .text s => .ok s.quoted
  | .bytes bs => .ok (quotedBytes bs)

/-- Whether a field is left out where its node is shown. -/
def Kind.leavesOut (kind : Kind) (label : String) : Tree → Bool
  | .absent => true
  | .leaf .none => kind.optionalLabels.contains label
  | _ => false

namespace Tree

mutual

def shown : Tree → Except Fault Text
  | .absent => .ok "None"
  | .leaf value => value.shown
  | .list items => do return "[" ++ joinWith ", " (← shownItems items) ++ "]"
  | .node kind _ fields => do
    return kind.title ++ "(" ++ joinWith ", " (← shownFields kind kind.labels fields) ++ ")"

def shownItems : List Tree → Except Fault (List Text)
  | [] => .ok []
  | t :: ts => do
    let text ← shown t
    return text :: (← shownItems ts)

/-- Shows the fields of a node of a kind, each after its label. -/
def shownFields (kind : Kind) : List String → List Tree → Except Fault (List Text)
  | label :: labels, t :: ts =>
    if kind.leavesOut label t then shownFields kind labels ts
    else do
      let text ← shown t
      return (label ++ "=" ++ text) :: (← shownFields kind labels ts)
  | _, _ => .ok []

end

def dump (t : Tree) : Except Fault Text :=
  match t with
  | .node .. => t.shown
  | t => .error (.notTree t.typeName)

end Tree

end RepoAudit.Syntax
