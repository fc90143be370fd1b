import RepoAudit.Json.Access
import RepoAudit.Decimal.Format
import RepoAudit.Syntax.Tree

/-!
Access to parts of trees whose form is not known. A field that a node lacks, and a part that does
not allow what is done with it, are faults that name the kind of node or the type of value that was
met.
-/
namespace RepoAudit.Syntax

namespace Literal

def typeName : Literal → Text
  | .none => "NoneType"
  | .ellipsis => "ellipsis"
  | .bool _ => "bool"
  | .int _ => "int"
  | .float _ => "float"
  | .imaginary _ => "complex"
  | .text _ => "str"
  | .bytes _ => "bytes"

/-- A literal as a value. Those that no value is like are shown as texts. -/
def toJson : Literal → Json
  | .none => .null
  | .ellipsis => .str "Ellipsis"
  | .bool b => .bool b
  | .int n => .int n
  | .float x => .float x
  | .imaginary x => .str (Text.ofChars (Decimal.imaginary.write x ++ ['j']))
  | .text s => .str s
  | .bytes bs => .str (quotedBytes bs)

end Literal

namespace Tree

/-- The word for what a part of a tree is: the title of a node, or the type of a value. -/
def typeName : Tree → Text
  | .absent => "NoneType"
  | .leaf v => v.typeName
  | .list _ => "list"
  | .node kind _ _ => kind.title

mutual

/-- A part of a tree as a value, where a name is expected. -/
def toJson : Tree → Json
  | .absent => .null
  | .leaf v => v.toJson
  | .list items => .arr (toJsons items)
  | .node kind _ _ => .str kind.title

def toJsons : List Tree → List Json
  | [] => []
  | t :: ts => toJson t :: toJsons ts

end

def field (t : Tree) (label : String) : Except Fault Tree :=
  match t with
  | .node kind _ fields =>
    match ((kind.labels.zip fields).lookup label).getD .absent with
    | .absent =>
      if kind.optionalLabels.contains label then .ok (.leaf .none)
      else .error (.noAttribute kind.title label)
    | part => .ok part
  | t => .error (.noAttribute t.typeName label)

/-- The value of a field that names something. -/
def nameField (t : Tree) (label : String) : Except Fault Json := (t.field label).map toJson

/-- What a loop over a part goes through. -/
def elements : Tree → Except Fault (List Tree)
  | .list items => .ok items
  | .leaf (.text s) => .ok (s.map fun p => .leaf (.text [p]))
  | .leaf (.bytes bs) => .ok (bs.map fun b => .leaf (.int b.toNat))
  | t => .error (.notIterable t.typeName)

/-- The first item of a list, or the first code point of a text. -/
def first : Tree → Except Fault Tree
  | .list (t :: _) => .ok t
  | .list [] => .error .listIndexRange
  | .leaf (.text (p :: _)) => .ok (.leaf (.text [p]))
  | .leaf (.text []) => .error .textIndexRange
  | t => .error (.notSubscriptable t.typeName)

/-- Whether a part counts as true. All nodes do. -/
def truthy : Tree → Bool
  | .absent => false
  | .leaf v => v.toJson.truthy
  | .list items => !items.isEmpty
  | .node .. => true

end Tree

end RepoAudit.Syntax
