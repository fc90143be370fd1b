import RepoAudit.Step
import RepoAudit.Syntax.Field

/-!
Walking over trees. Every node is entered, then its fields are walked in order, then it is left.
Nodes are sought in the fields and in the lists that stand there, and not in lists within lists.
-/
namespace RepoAudit.Syntax

/-- What happens to a state at a node. `leave` also gets the state before the node was entered. A
fault ends the walk. -/
structure Visitor (σ : Type) where
  enter : Tree → Step σ Unit
  leave : Tree → (before : σ) → Step σ Unit

variable {σ : Type}

/-- A constant is asked for its value before anything else happens at it. -/
def askValue (t : Tree) : Step σ Unit :=
  if t.kind? == some .constant then discard (Step.attempt (t.field "value")) else pure ()

mutual

/-- Walks over a node. Other parts of a tree are passed by. -/
def Visitor.walk (v : Visitor σ) : Tree → Step σ Unit
  | .node kind span fields => do
    let before ← get
    askValue (.node kind span fields)
    v.enter (.node kind span fields)
    v.walkFields fields
    v.leave (.node kind span fields) before
  | _ => pure ()

def Visitor.walkFields (v : Visitor σ) : List Tree → Step σ Unit
  | [] => pure ()
  | .list items :: ts => do
    v.walkItems items
    v.walkFields ts
  | t :: ts => do
    v.walk t
    v.walkFields ts

def Visitor.walkItems (v : Visitor σ) : List Tree → Step σ Unit
  | [] => pure ()
  | t :: ts => do
    v.walk t
    v.walkItems ts

end

/-- Walks over a tree, which has to be a node. -/
def Visitor.visit (v : Visitor σ) (t : Tree) : Step σ Unit :=
  match t with
  | .node .. => v.walk t
  | t => throw (.noAttribute t.typeName "_fields")

mutual

/-- All nodes of a tree, each before those inside it, in the order of the walk. -/
def Tree.nodes : Tree → List Tree
  | .node kind span fields => .node kind span fields :: nodesOfFields fields
  | _ => []

def Tree.nodesOfFields : List Tree → List Tree
  | [] => []
  | .list items :: ts => nodesOfItems items ++ nodesOfFields ts
  | t :: ts => nodes t ++ nodesOfFields ts

def Tree.nodesOfItems : List Tree → List Tree
  | [] => []
  | t :: ts => nodes t ++ nodesOfItems ts

end

/-- The nodes directly below a node: those that stand in its fields or in lists there. -/
def Tree.children : Tree → List Tree
  | .node _ _ fields => fields.flatMap fun
    | .node kind span inner => [.node kind span inner]
    | .list items => items.filter fun t => t.kind?.isSome
    | _ => []
  | _ => []

/-- The nodes of one level, then those of the next, for at most `depth` levels. -/
def Tree.levels : (depth : Nat) → List Tree → List Tree
  | 0, _ => []
  | depth + 1, level =>
    if level.isEmpty then [] else level ++ levels depth (level.flatMap Tree.children)

/-- All nodes of a tree, level by level. The levels are at most as many as the nodes. -/
def Tree.breadthFirst (t : Tree) : List Tree := Tree.levels (t.nodes.length + 1) [t]

end RepoAudit.Syntax
