import RepoAudit.Syntax.Grammar.Basic

/-!
Targets of assignments and deletions. They are read as expressions and then checked: names,
attributes and subscripts can be set and deleted, and so can tuples and lists of such; in the
former a starred part may stand.
-/
namespace RepoAudit.Syntax.Grammar

mutual

/-- The tree as a target in the given context, if it can be one. -/
def asTarget? (context : Kind) : Tree → Option Tree
  | .node .name span [id, _] => some (.node .name span [id, mark context])
  | .node .attribute span [value, attr, _] =>
    some (.node .attribute span [value, attr, mark context])
  | .node .subscript span [value, index, _] =>
    some (.node .subscript span [value, index, mark context])
  | .node .starred span [value, _] =>
    if context == .store && value.kind? != some .starred then
      (asTarget? context value).map fun value => .node .starred span [value, mark context]
    else none
  | .node .tuple span [.list items, _] =>
    (asTargets? context items).map fun items => .node .tuple span [.list items, mark context]
  | .node .listDisplay span [.list items, _] =>
    (asTargets? context items).map fun items =>
      .node .listDisplay span [.list items, mark context]
  | _ => none

def asTargets? (context : Kind) : List Tree → Option (List Tree)
  | [] => some []
  | t :: ts => do return (← asTarget? context t) :: (← asTargets? context ts)

end

/-- The tree as the target of an augmented or annotated assignment, which is a single place. -/
def asPlace? (t : Tree) : Option Tree :=
  match t.kind? with
  | some .name | some .attribute | some .subscript => asTarget? .store t
  | _ => none

def orFail {α : Type} (a : Option α) : Reader α := StateT.lift a

end RepoAudit.Syntax.Grammar
