import Mathlib.Data.List.Flatten
import Mathlib.Data.List.Perm.Basic
import RepoAudit.Proofs.Step
import RepoAudit.Proofs.Syntax.Order
import RepoAudit.Proofs.Syntax.WellFormed

/-!
Walks over trees, and lists that are laid out along them. A walk enters a node, goes over the nodes
directly below it and leaves it. What is told of nodes comes in the same order. Main statements:
what entering and leaving keep, a walk keeps; a list that is laid out along a tree has what is told
of each node with the innermost function around it.
-/
namespace RepoAudit.Syntax

open Step

namespace Visitor

variable {σ : Type} {v : Visitor σ} {p : σ → Prop} {t : Tree}

/-- Of a list the nodes are walked. -/
theorem walkItems_eq (items : List Tree) :
    v.walkItems items = (items.filter fun t => t.kind?.isSome).forM v.walk := by
  induction items with
  | nil => rfl
  | cons t items ih => cases t <;> simp [walkItems, walk, Tree.kind?, ih]

/-- Of the fields of a node its children are walked. -/
theorem walkFields_eq (kind : Kind) (span : Span) (fields : List Tree) :
    v.walkFields fields = (Tree.node kind span fields).children.forM v.walk := by
  induction fields with
  | nil => rfl
  | cons t fields ih =>
      rw [List.forM_eq_forM] at ih ⊢
      rw [Tree.children_cons, List.forM_append, ← ih]
      cases t with
      | list items => simp [walkFields, Tree.children, walkItems_eq]
      | node kind span fields => simp [walkFields, Tree.children]
      | absent => simp [walkFields, walk, Tree.children]
      | leaf value => simp [walkFields, walk, Tree.children]

/-- A walk over a node is a loop over the nodes directly below it, between entering and leaving. -/
theorem walk_eq (h : t.kind?.isSome) : v.walk t = get >>= fun before =>
    (askValue t >>= fun _ => v.enter t) >>= fun _ =>
      t.children.forM v.walk >>= fun _ => v.leave t before := by
  cases t with
  | node kind span fields =>
      rw [walk, walkFields_eq kind span]
      simp only [bind_assoc]
  | _ => cases h

theorem walk_eq_pure (h : t.kind? = none) : v.walk t = pure () := by
  cases t with
  | node kind span fields => cases h
  | _ => rw [walk]; exact nofun

/-- Asking a constant for its value changes nothing. -/
theorem askValue_leads (t : Tree) {s : σ} (h : p s) :
    (askValue t : Step σ Unit).Leads s fun _ => p := by
  apply leads_ite
  · intro _
    exact leads_attempt (fun _ _ => h) (fun _ _ => h)
  · intro _
    exact h

section Keeps

variable (hEnter : ∀ t s, p s → (v.enter t).Leads s fun _ => p)
  (hLeave : ∀ t before s, p s → (v.leave t before).Leads s fun _ => p)
include hEnter hLeave

/-- What entering and leaving keep, a walk keeps, whether or not it ends in a fault. -/
theorem walk_leads (t : Tree) {s : σ} (h : p s) : (v.walk t).Leads s fun _ => p := by
  induction t using Tree.induction_children generalizing s with
  | h t ih =>
      cases hKind : t.kind? with
      | none =>
          rw [walk_eq_pure hKind]
          exact h
      | some kind =>
          rw [walk_eq (by simp [hKind])]
          apply leads_get
          apply leads_bind_keep (leads_bind_keep (askValue_leads t h) fun _ s => hEnter t s)
          intro _ s hEntered
          apply leads_bind_keep (leads_forM _ (fun d hChild s => ih d hChild) hEntered)
          intro _ s hWalked
          exact hLeave t _ s hWalked

/-- What entering and leaving keep, a visit keeps. -/
theorem visit_leads (t : Tree) {s : σ} (h : p s) : (v.visit t).Leads s fun _ => p := by
  cases t with
  | node kind span fields => exact walk_leads hEnter hLeave (.node kind span fields) h
  | _ => exact h

end Keeps

end Visitor

/-- The function that is current inside a node: a definition opens its own. -/
def innerFunction (f : Json) (t : Tree) : Json :=
  match t.kind? with
  | some .functionDef => (t.nameField "name").toOption.getD .null
  | _ => f

/-- What is told of a node in a function: some of it before what is told of the nodes inside it, and
some behind that. -/
structure Layout (ε : Type) where
  ahead : Json → Tree → List ε
  behind : Json → Tree → List ε

namespace Layout

variable {ε δ : Type}

mutual

/-- What is told along a tree that stands in a function. -/
def along (l : Layout ε) (f : Json) : Tree → List ε
  | .node kind span fields => l.ahead f (.node kind span fields) ++
    l.alongFields (innerFunction f (.node kind span fields)) fields ++
      l.behind f (.node kind span fields)
  | _ => []

def alongFields (l : Layout ε) (f : Json) : List Tree → List ε
  | [] => []
  | .list items :: ts => l.alongItems f items ++ l.alongFields f ts
  | t :: ts => l.along f t ++ l.alongFields f ts

def alongItems (l : Layout ε) (f : Json) : List Tree → List ε
  | [] => []
  | t :: ts => l.along f t ++ l.alongItems f ts

end

end Layout

/-- All nodes of a tree, each before those inside it, with the innermost function around each; `f`
is the function around the tree. -/
def nodesWithin (f : Json) (t : Tree) : List (Json × Tree) :=
  Layout.along ⟨fun g d => [(g, d)], fun _ _ => []⟩ f t

variable {ε δ : Type} {l : Layout ε} {f : Json} {t : Tree}

/-- Only a definition changes the function for what is inside. -/
theorem innerFunction_of_ne (h : t.kind? ≠ some .functionDef) : innerFunction f t = f := by
  unfold innerFunction
  split
  · exact absurd ‹_› h
  · rfl

/-- Inside a definition the function around it is forgotten. -/
theorem innerFunction_of_definition (h : t.kind? = some .functionDef) :
    innerFunction f t = innerFunction .null t := by
  simp [innerFunction, h]

namespace Layout

theorem alongItems_eq (items : List Tree) :
    l.alongItems f items = (items.filter fun t => t.kind?.isSome).flatMap (l.along f) := by
  induction items with
  | nil => rfl
  | cons t items ih => cases t <;> simp [alongItems, along, Tree.kind?, ih]

/-- The events along the fields of a node are those along its children. -/
theorem alongFields_eq (kind : Kind) (span : Span) (fields : List Tree) :
    l.alongFields f fields = (Tree.node kind span fields).children.flatMap (l.along f) := by
  induction fields with
  | nil => rfl
  | cons t fields ih =>
      rw [Tree.children_cons, List.flatMap_append, ← ih]
      cases t with
      | list items => simp [alongFields, Tree.children, alongItems_eq]
      | node kind span fields => simp [alongFields, Tree.children]
      | absent => simp [alongFields, along, Tree.children]
      | leaf value => simp [alongFields, along, Tree.children]

/-- What is told along a node, by the nodes directly below it. -/
theorem along_eq (h : t.kind?.isSome) : l.along f t =
    l.ahead f t ++ t.children.flatMap (l.along (innerFunction f t)) ++ l.behind f t := by
  cases t with
  | node kind span fields => rw [along, alongFields_eq kind span]
  | _ => cases h

theorem along_eq_nil (h : t.kind? = none) : l.along f t = [] := by
  cases t with
  | node kind span fields => cases h
  | _ => rw [along]; exact nofun

/-- What holds of nothing, of two lists behind each other, and along a node as soon as it holds of
what is told inside it, holds along a tree. -/
theorem along_induction {P : List ε → Prop} (hNil : P [])
    (hAppend : ∀ xs ys, P xs → P ys → P (xs ++ ys))
    (hNode : ∀ f t, t.kind?.isSome → P (t.children.flatMap (l.along (innerFunction f t))) →
      P (l.along f t)) (f : Json) (t : Tree) : P (l.along f t) := by
  induction t using Tree.induction_children generalizing f with
  | h t ih =>
      cases hKind : t.kind? with
      | none =>
          rw [along_eq_nil hKind]
          exact hNil
      | some kind =>
          refine hNode f t (by simp [hKind]) ?_
          generalize t.children = children at ih
          induction children with
          | nil => exact hNil
          | cons d children ihRest =>
              obtain ⟨hFirst, hRest⟩ := List.forall_mem_cons.1 ih
              rw [List.flatMap_cons]
              exact hAppend _ _ (hFirst _) (ihRest hRest)

/-- Picking from what is told along a tree is telling less of each node. -/
theorem filterMap_along (pick : ε → Option δ) (f : Json) (t : Tree) :
    (l.along f t).filterMap pick = Layout.along ⟨fun g d => (l.ahead g d).filterMap pick,
      fun g d => (l.behind g d).filterMap pick⟩ f t := by
  induction t using Tree.induction_children generalizing f with
  | h t ih =>
      cases hKind : t.kind? with
      | none => rw [along_eq_nil hKind, along_eq_nil hKind, List.filterMap_nil]
      | some kind =>
          have hNode : t.kind?.isSome := by simp [hKind]
          have hBelow : (t.children.flatMap (l.along (innerFunction f t))).filterMap pick =
              t.children.flatMap (Layout.along ⟨fun g d => (l.ahead g d).filterMap pick,
                fun g d => (l.behind g d).filterMap pick⟩ (innerFunction f t)) := by
            rw [List.filterMap_flatMap]
            exact List.flatMap_congr fun d hChild => ih d hChild _
          rw [along_eq hNode, along_eq hNode, List.filterMap_append, List.filterMap_append, hBelow]

end Layout

/-- A node comes first, in the function around it, and then its children in the function inside. -/
theorem nodesWithin_eq (h : t.kind?.isSome) :
    nodesWithin f t = (f, t) :: t.children.flatMap (nodesWithin (innerFunction f t)) := by
  rw [nodesWithin, Layout.along_eq h, List.append_nil]
  rfl

theorem nodesWithin_eq_nil (h : t.kind? = none) : nodesWithin f t = [] := Layout.along_eq_nil h

/-- Apart from the functions, these are the nodes of the tree. -/
theorem map_snd_nodesWithin (t : Tree) (f : Json) : (nodesWithin f t).map Prod.snd = t.nodes := by
  induction t using Tree.induction_children generalizing f with
  | h t ih =>
      cases hKind : t.kind? with
      | none =>
          cases t with
          | node kind span fields => cases hKind
          | _ => rfl
      | some kind =>
          have hNode : t.kind?.isSome := by simp [hKind]
          rw [nodesWithin_eq hNode, Tree.nodes_eq_cons hNode, List.map_cons, List.map_flatMap,
            Tree.inside, List.flatMap_congr fun d hChild => ih d hChild _]

/-- Only nodes of the tree are met. -/
theorem mem_nodes_of_mem_nodesWithin {p : Json × Tree} (h : p ∈ nodesWithin f t) :
    p.2 ∈ t.nodes := by
  rw [← map_snd_nodesWithin t f]
  exact List.mem_map_of_mem h

/-- What is told along a tree is what is told of its nodes, in some order. -/
theorem Layout.along_perm (l : Layout ε) (f : Json) (t : Tree) : (l.along f t).Perm
    ((nodesWithin f t).flatMap fun p => l.ahead p.1 p.2 ++ l.behind p.1 p.2) := by
  induction t using Tree.induction_children generalizing f with
  | h t ih =>
      cases hKind : t.kind? with
      | none => rw [along_eq_nil hKind, nodesWithin_eq_nil hKind, List.flatMap_nil]
      | some kind =>
          have hNode : t.kind?.isSome := by simp [hKind]
          rw [along_eq hNode, nodesWithin_eq hNode, List.flatMap_cons, List.flatMap_assoc,
            List.append_assoc, List.append_assoc]
          have hBelow := List.Perm.flatMap_left t.children fun d hChild =>
            ih d hChild (innerFunction f t)
          exact ((hBelow.append_right _).trans List.perm_append_comm).append_left _

/-- If nothing is told behind the inside of a node, the nodes are told of in their order. -/
theorem Layout.along_eq_flatMap (h : ∀ g d, l.behind g d = []) (f : Json) (t : Tree) :
    l.along f t = (nodesWithin f t).flatMap fun p => l.ahead p.1 p.2 := by
  induction t using Tree.induction_children generalizing f with
  | h t ih =>
      cases hKind : t.kind? with
      | none => rw [along_eq_nil hKind, nodesWithin_eq_nil hKind, List.flatMap_nil]
      | some kind =>
          have hNode : t.kind?.isSome := by simp [hKind]
          rw [along_eq hNode, nodesWithin_eq hNode, List.flatMap_cons, List.flatMap_assoc, h,
            List.append_nil, List.flatMap_congr fun d hChild => ih d hChild _]

/-- What holds of the function around a tree and of those that the tree defines holds of the
functions around its nodes. -/
theorem nodesWithin_function {q : Json → Prop} (t : Tree) (f : Json) (hAround : q f)
    (hDefined : ∀ d ∈ t.nodes, d.kind? = some .functionDef → q (innerFunction .null d)) :
    ∀ p ∈ nodesWithin f t, q p.1 := by
  induction t using Tree.induction_children generalizing f with
  | h t ih =>
      cases hKind : t.kind? with
      | none => simp [nodesWithin_eq_nil hKind]
      | some kind =>
          have hNode : t.kind?.isSome := by simp [hKind]
          rw [Tree.nodes_eq_cons hNode, List.forall_mem_cons] at hDefined
          have hInner : q (innerFunction f t) := by
            by_cases hDefinition : t.kind? = some .functionDef
            · rw [innerFunction_of_definition hDefinition]
              exact hDefined.1 hDefinition
            · rwa [innerFunction_of_ne hDefinition]
          rw [nodesWithin_eq hNode, List.forall_mem_cons, List.forall_mem_flatMap]
          exact ⟨hAround, fun d hChild => ih d hChild _ hInner fun inner hInside =>
            hDefined.2 inner (List.mem_flatMap_of_mem hChild hInside)⟩

namespace Tree

variable {d : Tree}

theorem WellFormed.of_mem_children (h : t.WellFormed) (hChild : d ∈ t.children) :
    d.WellFormed := by
  refine ⟨kind?_of_mem_children hChild, ?_⟩
  obtain ⟨kind, span, fields, rfl⟩ := h.node_eq
  obtain ⟨part, hPart, hInPart⟩ := List.mem_flatMap.1 hChild
  have hWell := h.inside.2 part hPart
  cases part with
  | node kind span inside => rwa [List.mem_singleton.1 hInPart]
  | list items =>
      rw [wellFormed, partsWellFormed_iff] at hWell
      exact hWell d (List.mem_filter.1 hInPart).1
  | _ => cases hInPart

/-- The nodes of a well-formed tree are well-formed. -/
theorem WellFormed.of_mem_nodes (h : t.WellFormed) (hNode : d ∈ t.nodes) : d.WellFormed := by
  induction t using induction_children with
  | h t ih =>
      rw [nodes_eq_cons h.1, List.mem_cons] at hNode
      rcases hNode with rfl | hInside
      · exact h
      · obtain ⟨child, hChild, hBelow⟩ := List.mem_flatMap.1 hInside
        exact ih child hChild (h.of_mem_children hChild) hBelow

end Tree

/-- In a well-formed tree only well-formed nodes are met. -/
theorem nodesWithin_wellFormed (h : t.WellFormed) : ∀ p ∈ nodesWithin f t, p.2.WellFormed :=
  fun _ hNode => h.of_mem_nodes (mem_nodes_of_mem_nodesWithin hNode)

end RepoAudit.Syntax
