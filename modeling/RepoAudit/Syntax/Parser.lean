import RepoAudit.Syntax.Grammar.Statement

/-!
The syntax tree of a Python source. Every nested part takes up characters of the source, so the
number of characters bounds the depth of nesting.
-/
namespace RepoAudit.Syntax

namespace Grammar

/-- The grammar for parts nested to at most the given depth. -/
def nested : (depth : Nat) → Nested
  | 0 => ⟨failure, failure, failure, failure, failure, failure, failure, failure, failure⟩
  | depth + 1 => {
      expression := fun input => expression (nested depth) input
      named := fun input => named (nested depth) input
      starNamed := fun input => starNamed (nested depth) input
      starExpressions := fun input => starExpressions (nested depth) input
      disjunction := fun input => disjunction (nested depth) input
      bitOr := fun input => bitOr (nested depth) input
      factor := fun input => factor (nested depth) input
      pattern := fun input => pattern (nested depth) input
      block := fun input => block (nested depth) input }

def moduleBody (sub : Nested) : Reader Tree := do
  let body ← many (statement sub)
  match ← peek with
  | .finish => return .node .moduleBody default [.list body.flatten, .list []]
  | _ => failure

end Grammar

/-- The tree of a source, or `none` if the source is not well formed. -/
def parse (source : List Char) : Option Tree := do
  let tokens ← Lexer.tokens source
  let (tree, _) ←
    (Grammar.moduleBody (Grammar.nested (source.length + 2))).run ⟨tokens, ⟨1, 0⟩⟩
  return tree

end RepoAudit.Syntax
