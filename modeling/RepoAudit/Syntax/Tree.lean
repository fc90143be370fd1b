import RepoAudit.Text.Basic
import RepoAudit.Syntax.Kind

/-!
Syntax trees. A node has a kind, the stretch of source it covers and its fields in the order of
the kind's labels. A field is a node, a list, a literal or absent. Trees need not come from a
source: a field may be absent that every source gives, and may hold anything.
-/
namespace RepoAudit.Syntax

/-- A place in a source: the line, counted from one, and the number of bytes before it. -/
structure Position where
  line : Nat
  column : Nat
deriving DecidableEq, Repr, Inhabited

/-- The stretch from a position up to, but not including, another. -/
structure Span where
  start : Position
  stop : Position
deriving DecidableEq, Repr, Inhabited

/-- Values that stand in a tree: constants and identifiers. -/
inductive Literal where
  | none
  | ellipsis
  | bool (b : Bool)
  | int (n : Int)
  | float (x : Float)
  | imaginary (x : Float)
  | text (s : Text)
  | bytes (bs : List UInt8)
deriving Inhabited

/-- A syntax tree, or a part of one. -/
inductive Tree where
  | absent
  | leaf (value : Literal)
  | list (items : List Tree)
  | node (kind : Kind) (span : Span) (fields : List Tree)
deriving Inhabited

namespace Tree

def ident (name : Text) : Tree := .leaf (.text name)

def optional : Option Tree → Tree
  | some t => t
  | none => .absent

def span : Tree → Span
  | .node _ span _ => span
  | _ => default

def kind? : Tree → Option Kind
  | .node kind _ _ => some kind
  | _ => none

def name? : Tree → Option Text
  | .node .name _ (.leaf (.text id) :: _) => some id
  | _ => none

def text? : Tree → Option Text
  | .node .constant _ (.leaf (.text s) :: _) => some s
  | _ => none

end Tree

end RepoAudit.Syntax
