import RepoAudit.Proofs.Text.Writable
import RepoAudit.Syntax.Visitor

/-!
Well-formed trees: every node has the fields of its kind, and each field holds what the abstract
grammar puts there. Which sort of node stands in a field is left open, so that the trees of all
sources are well-formed and some others too.
-/
namespace RepoAudit.Syntax

/-- What a field may hold. -/
inductive Shape where
  /-- A name, which is not empty and can be printed. -/
  | identifier
  | literal
  | node
  | list (item : Shape)
  | optional (part : Shape)

def Shape.admits : Shape → Tree → Bool
  | .identifier, .leaf (.text name) => !name.isEmpty && name.all (·.char?.isSome)
  | .literal, .leaf _ => true
  | .node, .node .. => true
  | .list item, .list items => items.all item.admits
  | .optional _, .absent => true
  | .optional _, .leaf .none => true
  | .optional part, t => part.admits t
  | _, _ => false

/-- The shapes of the fields of a kind, in the order of its labels. -/
def Kind.shapes : Kind → List Shape
  | .moduleBody => [.list .node, .list .node]
  | .functionDef | .asyncFunctionDef =>
    [.identifier, .node, .list .node, .list .node, .optional .node, .optional .literal]
  | .classDef => [.identifier, .list .node, .list .node, .list .node, .list .node]
  | .returnStmt | .yieldExp => [.optional .node]
  | .deleteStmt | .importStmt | .joinedStr | .setDisplay | .matchSequence | .matchOr =>
    [.list .node]
  | .assign => [.list .node, .node, .optional .literal]
  | .augAssign | .binOp => [.node, .node, .node]
  | .annAssign => [.node, .node, .optional .node, .literal]
  | .forLoop | .asyncFor => [.node, .node, .list .node, .list .node, .optional .literal]
  | .whileLoop | .ifStmt => [.node, .list .node, .list .node]
  | .withStmt | .asyncWith => [.list .node, .list .node, .optional .literal]
  | .matchStmt => [.node, .list .node]
  | .raiseStmt => [.optional .node, .optional .node]
  | .tryStmt | .tryStar => [.list .node, .list .node, .list .node, .list .node]
  | .assertStmt => [.node, .optional .node]
  | .importFrom => [.optional .identifier, .list .node, .optional .literal]
  | .globalStmt | .nonlocalStmt => [.list .identifier]
  | .exprStmt | .awaitExp | .yieldFrom | .matchValue => [.node]
  | .boolOp => [.node, .list .node]
  | .namedExpr | .unaryOp | .lambda => [.node, .node]
  | .ifExp => [.node, .node, .node]
  | .dictDisplay => [.list (.optional .node), .list .node]
  | .listComp | .setComp | .generatorExp => [.node, .list .node]
  | .dictComp => [.node, .node, .list .node]
  | .compare => [.node, .list .node, .list .node]
  | .call => [.node, .list .node, .list .node]
  | .formattedValue => [.node, .literal, .optional .node]
  | .constant => [.literal, .optional .literal]
  | .attribute => [.node, .identifier, .node]
  | .subscript => [.node, .node, .node]
  | .starred => [.node, .node]
  | .name => [.identifier, .node]
  | .listDisplay | .tuple => [.list .node, .node]
  | .slice => [.optional .node, .optional .node, .optional .node]
  | .comprehension => [.node, .node, .list .node, .literal]
  | .exceptHandler => [.optional .node, .optional .identifier, .list .node]
  | .arguments => [.list .node, .list .node, .optional .node, .list .node,
      .list (.optional .node), .optional .node, .list .node]
  | .arg => [.identifier, .optional .node, .optional .literal]
  | .keyword => [.optional .identifier, .node]
  | .aliased => [.identifier, .optional .identifier]
  | .withItem => [.node, .optional .node]
  | .matchCase => [.node, .optional .node, .list .node]
  | .matchSingleton => [.literal]
  | .matchMapping => [.list .node, .list .node, .optional .identifier]
  | .matchClass => [.node, .list .node, .list .identifier, .list .node]
  | .matchStar => [.optional .identifier]
  | .matchAs => [.optional .node, .optional .identifier]
  | _ => []

/-- Whether parts have the given shapes, one each. -/
def Shape.admitsAll : List Shape → List Tree → Bool
  | [], [] => true
  | shape :: shapes, t :: ts => shape.admits t && admitsAll shapes ts
  | _, _ => false

mutual

/-- Whether every node in a part of a tree has fields of the shapes of its kind. -/
def Tree.wellFormed : Tree → Bool
  | .node kind _ fields => Shape.admitsAll kind.shapes fields && partsWellFormed fields
  | .list items => partsWellFormed items
  | _ => true

def Tree.partsWellFormed : List Tree → Bool
  | [] => true
  | t :: ts => t.wellFormed && partsWellFormed ts

end

/-- A node is well-formed, with all nodes inside it. -/
def Tree.WellFormed (t : Tree) : Prop := t.kind?.isSome ∧ t.wellFormed = true
deriving Decidable

/-- A name as it stands in a source: not empty, and without lone surrogates. -/
structure IsName (name : Text) : Prop where
  nonempty : name ≠ []
  writable : name.Writable

/-- A name is not empty. -/
theorem IsName.truthy {name : Text} (h : IsName name) : (Json.str name).truthy = true := by
  simp [Json.truthy, h.nonempty]

namespace Shape

/-- What fits an identifier is a name. -/
theorem admits_identifier {t : Tree} (h : identifier.admits t = true) :
    ∃ name, t = .ident name ∧ IsName name := by
  match t, h with
  | .leaf (.text name), h =>
      simp only [admits, Bool.and_eq_true, Bool.not_eq_true', List.all_eq_true] at h
      refine ⟨name, rfl, ?_, h.2⟩
      rintro rfl
      simp at h

theorem admits_literal {t : Tree} (h : literal.admits t = true) : ∃ value, t = .leaf value := by
  match t, h with
  | .leaf value, _ => exact ⟨value, rfl⟩

theorem admits_node {t : Tree} (h : node.admits t = true) : t.kind?.isSome := by
  match t, h with
  | .node .., _ => rfl

/-- What fits a list is a list of what fits its items. -/
theorem admits_list {item : Shape} {t : Tree} (h : (list item).admits t = true) :
    ∃ items, t = .list items ∧ ∀ part ∈ items, item.admits part = true := by
  match t, h with
  | .list items, h => exact ⟨items, rfl, List.all_eq_true.mp h⟩

theorem admitsAll_nil {ts : List Tree} (h : admitsAll [] ts = true) : ts = [] := by
  match ts, h with
  | [], _ => rfl

theorem admitsAll_cons {shape : Shape} {shapes : List Shape} {ts : List Tree}
    (h : admitsAll (shape :: shapes) ts = true) :
    ∃ t rest, ts = t :: rest ∧ shape.admits t = true ∧ admitsAll shapes rest = true := by
  match ts, h with
  | t :: rest, h => exact ⟨t, rest, rfl, Bool.and_eq_true_iff.mp h⟩

end Shape

namespace Tree

theorem partsWellFormed_iff (ts : List Tree) :
    partsWellFormed ts = true ↔ ∀ t ∈ ts, t.wellFormed = true := by
  induction ts with
  | nil => simp [partsWellFormed]
  | cons t ts ih => simp [partsWellFormed, ih]

theorem WellFormed.node_eq {t : Tree} (h : t.WellFormed) :
    ∃ kind span fields, t = .node kind span fields := by
  match t, h with
  | .node kind span fields, _ => exact ⟨kind, span, fields, rfl⟩

theorem eq_node_of_kind? {t : Tree} {kind : Kind} (h : t.kind? = some kind) :
    ∃ span fields, t = .node kind span fields := by
  match t, h with
  | .node kind span fields, rfl => exact ⟨span, fields, rfl⟩

section Fields

variable {span : Span} {fields : List Tree}

/-- The parts of a well-formed node have the shapes of its kind and are well-formed. -/
theorem WellFormed.inside {kind : Kind} (h : (node kind span fields).WellFormed) :
    Shape.admitsAll kind.shapes fields = true ∧ ∀ t ∈ fields, t.wellFormed = true := by
  have hBoth := h.2
  rw [wellFormed, Bool.and_eq_true, partsWellFormed_iff] at hBoth
  exact hBoth

/-- The items of a well-formed list of nodes are well-formed. -/
theorem wellFormed_items {items : List Tree} (hNodes : ∀ t ∈ items, Shape.node.admits t = true)
    (h : (list items).wellFormed = true) : ∀ t ∈ items, t.WellFormed := by
  intro t ht
  rw [wellFormed, partsWellFormed_iff] at h
  exact ⟨Shape.admits_node (hNodes t ht), h t ht⟩

end Fields

section Kinds

variable {t : Tree} (h : t.WellFormed)
include h

/-- A well-formed call has something that it calls. -/
theorem WellFormed.call (hKind : t.kind? = some .call) :
    ∃ span called rest, t = node .call span (called :: rest) ∧ called.WellFormed := by
  obtain ⟨span, fields, rfl⟩ := eq_node_of_kind? hKind
  obtain ⟨hShapes, hInside⟩ := h.inside
  obtain ⟨called, rest, rfl, hCalled, _⟩ := Shape.admitsAll_cons hShapes
  exact ⟨span, called, rest, rfl, Shape.admits_node hCalled,
    hInside called (List.mem_cons_self ..)⟩

theorem WellFormed.call_arguments (hKind : t.kind? = some .call) :
    ∃ span called args rest, t = node .call span (called :: list args :: rest) ∧
      called.WellFormed ∧ ∀ arg ∈ args, arg.WellFormed := by
  obtain ⟨span, called, more, rfl, hCalled⟩ := h.call hKind
  obtain ⟨hShapes, hInside⟩ := h.inside
  obtain ⟨_, _, hCons, -, hMore⟩ := Shape.admitsAll_cons hShapes
  cases hCons
  obtain ⟨first, rest, rfl, hFirst, -⟩ := Shape.admitsAll_cons hMore
  obtain ⟨args, rfl, hArgs⟩ := Shape.admits_list hFirst
  exact ⟨span, called, args, rest, rfl, hCalled, wellFormed_items hArgs (hInside _ (by simp))⟩

/-- A well-formed attribute has a value and a name. -/
theorem WellFormed.attribute (hKind : t.kind? = some .attribute) :
    ∃ span value attr rest, t = node .attribute span (value :: ident attr :: rest) ∧
      value.WellFormed ∧ IsName attr := by
  obtain ⟨span, fields, rfl⟩ := eq_node_of_kind? hKind
  obtain ⟨hShapes, hInside⟩ := h.inside
  obtain ⟨value, more, rfl, hValue, hMore⟩ := Shape.admitsAll_cons hShapes
  obtain ⟨label, rest, rfl, hLabel, _⟩ := Shape.admitsAll_cons hMore
  obtain ⟨attr, rfl, hAttr⟩ := Shape.admits_identifier hLabel
  exact ⟨span, value, attr, rest, rfl,
    ⟨Shape.admits_node hValue, hInside value (List.mem_cons_self ..)⟩, hAttr⟩

theorem WellFormed.name (hKind : t.kind? = some .name) :
    ∃ span id rest, t = node .name span (ident id :: rest) ∧ IsName id := by
  obtain ⟨span, fields, rfl⟩ := eq_node_of_kind? hKind
  obtain ⟨label, rest, rfl, hLabel, _⟩ := Shape.admitsAll_cons h.inside.1
  obtain ⟨id, rfl, hId⟩ := Shape.admits_identifier hLabel
  exact ⟨span, id, rest, rfl, hId⟩

theorem WellFormed.constant (hKind : t.kind? = some .constant) :
    ∃ span value rest, t = node .constant span (leaf value :: rest) := by
  obtain ⟨span, fields, rfl⟩ := eq_node_of_kind? hKind
  obtain ⟨part, rest, rfl, hPart, _⟩ := Shape.admitsAll_cons h.inside.1
  obtain ⟨value, rfl⟩ := Shape.admits_literal hPart
  exact ⟨span, value, rest, rfl⟩

/-- A well-formed assignment has targets and a value. -/
theorem WellFormed.assign (hKind : t.kind? = some .assign) :
    ∃ span targets value rest, t = node .assign span (list targets :: value :: rest) ∧
      (∀ target ∈ targets, target.WellFormed) ∧ value.WellFormed := by
  obtain ⟨span, fields, rfl⟩ := eq_node_of_kind? hKind
  obtain ⟨hShapes, hInside⟩ := h.inside
  obtain ⟨first, more, rfl, hFirst, hMore⟩ := Shape.admitsAll_cons hShapes
  obtain ⟨value, rest, rfl, hValue, _⟩ := Shape.admitsAll_cons hMore
  obtain ⟨targets, rfl, hTargets⟩ := Shape.admits_list hFirst
  refine ⟨span, targets, value, rest, rfl, ?_, Shape.admits_node hValue, hInside value (by simp)⟩
  exact wellFormed_items hTargets (hInside _ (List.mem_cons_self ..))

/-- A well-formed definition has a name and decorators. -/
theorem WellFormed.definition (hKind : t.kind? = some .functionDef) :
    ∃ span name args body decorators rest,
      t = node .functionDef span (ident name :: args :: body :: list decorators :: rest) ∧
        IsName name ∧ ∀ decorator ∈ decorators, decorator.WellFormed := by
  obtain ⟨span, fields, rfl⟩ := eq_node_of_kind? hKind
  obtain ⟨hShapes, hInside⟩ := h.inside
  obtain ⟨label, more, rfl, hLabel, hMore⟩ := Shape.admitsAll_cons hShapes
  obtain ⟨args, more, rfl, -, hMore⟩ := Shape.admitsAll_cons hMore
  obtain ⟨body, more, rfl, -, hMore⟩ := Shape.admitsAll_cons hMore
  obtain ⟨list, rest, rfl, hList, -⟩ := Shape.admitsAll_cons hMore
  obtain ⟨name, rfl, hName⟩ := Shape.admits_identifier hLabel
  obtain ⟨decorators, rfl, hDecorators⟩ := Shape.admits_list hList
  exact ⟨span, name, args, body, decorators, rest, rfl, hName,
    wellFormed_items hDecorators (hInside _ (by simp))⟩

end Kinds

end Tree

end RepoAudit.Syntax
