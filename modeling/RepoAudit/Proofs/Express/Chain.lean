import RepoAudit.Flow.Express.Visit
import RepoAudit.Proofs.Syntax.WellFormed
import RepoAudit.Proofs.Text.Search

/-!
Chains of attributes. A chain has labels and stands on a plain name or on something else. Main
statements: the path of a chain is that name, if there is one, and the labels from the inside out,
with points between them; if no name has a point, the path tells the names.
-/
namespace RepoAudit.Express

open Syntax

/-- A chain of attributes, with the plain name on which it stands, if it does, and its labels from
the inside out. Anything that is no attribute is a chain without labels. -/
inductive IsChain : Tree → Option Text → List Text → Prop
  | name (span : Span) (id : Text) (rest : List Tree) :
    IsChain (.node .name span (.ident id :: rest)) (some id) []
  | other {t : Tree} (hNode : t.kind?.isSome) (hName : t.kind? ≠ some .name)
    (hAttribute : t.kind? ≠ some .attribute) : IsChain t none []
  | link {value : Tree} {base : Option Text} {labels : List Text} (span : Span) (attr : Text)
    (rest : List Tree) (h : IsChain value base labels) :
    IsChain (.node .attribute span (value :: .ident attr :: rest)) base (labels ++ [attr])

/-- The point that stands between the names of a path. -/
def point : CodePoint := .char '.'

variable {t value : Tree} {base : Option Text} {labels : List Text}

theorem IsChain.isNode (h : IsChain t base labels) : t.kind?.isSome := by
  cases h with
  | name => rfl
  | other hNode => exact hNode
  | link => rfl

/-- A chain of attributes is taken apart into its base and its labels. -/
theorem IsChain.attributeChain (h : IsChain t base labels) :
    attributeChain t = .ok ((base.toList ++ labels).map Tree.ident) := by
  induction h with
  | name span id rest => rfl
  | other hNode hName hAttribute =>
      unfold Express.attributeChain
      split
      · exact absurd rfl hAttribute
      · exact absurd rfl hName
      · rfl
  | @link value base labels span attr rest hValue ih =>
      have hNode := hValue.isNode
      have hFirst : chainOfFirst (value :: .ident attr :: rest) = Express.attributeChain value := by
        cases value with
        | node => rfl
        | _ => cases hNode
      rw [Express.attributeChain, hFirst, ih]
      simp only [← List.append_assoc, List.map_append]
      rfl

/-- What reads a name wherever it stands reads all names of a list. -/
theorem mapM_zipIdx_ident {read : Tree × Nat → Except Fault Text}
    (h : ∀ name i, read (.ident name, i) = .ok name) (names : List Text) (i : Nat) :
    ((names.map Tree.ident).zipIdx i).mapM read = .ok names := by
  induction names generalizing i with
  | nil => rfl
  | cons name names ih =>
      simp only [List.map_cons, List.zipIdx_cons, List.mapM_cons, h, ih (i + 1)]
      rfl

/-- The path of a chain is its base and its labels with points between them. -/
theorem IsChain.attributePath (h : IsChain t base labels) :
    attributePath t = .ok (joinWith [point] (base.toList ++ labels)) := by
  rw [Express.attributePath, h.attributeChain]
  refine congrArg (· >>= fun names => pure (joinWith "." names))
    (mapM_zipIdx_ident ?_ (base.toList ++ labels) 0)
  exact fun _ _ => rfl

/-- A well-formed value is a chain. -/
theorem exists_isChain (t : Tree) (h : t.WellFormed) : ∃ base labels, IsChain t base labels := by
  by_cases hAttribute : t.kind? = some .attribute
  · obtain ⟨span, value, attr, rest, rfl, hValue, -⟩ := h.attribute hAttribute
    obtain ⟨base, labels, hChain⟩ := exists_isChain value hValue
    exact ⟨base, labels ++ [attr], .link span attr rest hChain⟩
  · by_cases hName : t.kind? = some .name
    · obtain ⟨span, id, rest, rfl, -⟩ := h.name hName
      exact ⟨some id, [], .name span id rest⟩
    · exact ⟨none, [], .other h.1 hName hAttribute⟩
termination_by sizeOf t

/-- The names of an attribute or of a plain name are some. -/
theorem IsChain.names_ne_nil (h : IsChain t base labels)
    (hKind : t.kind? = some .attribute ∨ t.kind? = some .name) : base.toList ++ labels ≠ [] := by
  cases h with
  | name => simp
  | other _ hName hAttribute => exact absurd hKind (not_or.2 ⟨hAttribute, hName⟩)
  | link => simp

/-- If no name has a point, the path of a chain tells its names. -/
theorem IsChain.splitAll_path (h : IsChain t base labels)
    (hKind : t.kind? = some .attribute ∨ t.kind? = some .name)
    (hNames : ∀ name ∈ base.toList ++ labels, point ∉ name) :
    splitAll point (joinWith [point] (base.toList ++ labels)) = base.toList ++ labels :=
  splitAll_joinWith (h.names_ne_nil hKind) hNames

end RepoAudit.Express
