import Mathlib.Data.List.Flatten
import Mathlib.Data.List.Perm.Basic
import Mathlib.Data.List.Perm.Subperm
import RepoAudit.Syntax.Visitor

/-!
The nodes of a tree in two orders: each before those inside it, and level by level. Main statements:
both orders have the same nodes, and in both a node stands before those inside it.
-/
namespace RepoAudit.Syntax.Tree

/-- The nodes inside a node. -/
def inside (t : Tree) : List Tree := t.children.flatMap nodes

variable {t d : Tree} {level before after : List Tree} {depth : Nat}

theorem children_cons (kind : Kind) (span : Span) (t : Tree) (fields : List Tree) :
    (node kind span (t :: fields)).children =
      (node kind span [t]).children ++ (node kind span fields).children := by
  simp [children]

theorem nodesOfItems_eq (items : List Tree) :
    nodesOfItems items = (items.filter fun t => t.kind?.isSome).flatMap nodes := by
  induction items with
  | nil => rfl
  | cons t items ih => cases t <;> simp [nodesOfItems, nodes, kind?, ih]

/-- The nodes in the fields of a node are those inside it. -/
theorem nodesOfFields_eq (kind : Kind) (span : Span) (fields : List Tree) :
    nodesOfFields fields = (node kind span fields).inside := by
  induction fields with
  | nil => rfl
  | cons t fields ih =>
      rw [inside, children_cons, List.flatMap_append, ← inside, ← inside, ← ih]
      cases t with
      | list items => simp [nodesOfFields, inside, children, nodesOfItems_eq]
      | node kind span inner => simp [nodesOfFields, inside, children]
      | absent => rfl
      | leaf value => rfl

theorem nodes_eq_cons (h : t.kind?.isSome) : t.nodes = t :: t.inside := by
  cases t with
  | node kind span fields => rw [nodes, nodesOfFields_eq]
  | _ => cases h

theorem kind?_of_mem_children (h : d ∈ t.children) : d.kind?.isSome := by
  cases t with
  | node kind span fields =>
      obtain ⟨part, -, hPart⟩ := List.mem_flatMap.1 h
      cases part with
      | node kind span inner =>
          rw [List.mem_singleton.1 hPart]
          rfl
      | list items => exact (List.mem_filter.1 hPart).2
      | _ => cases hPart
  | _ => cases h

theorem nodes_sublist_flatMap (h : d ∈ level) : d.nodes.Sublist (level.flatMap nodes) := by
  simpa using (List.singleton_sublist.2 h).flatMap nodes

/-- A child has fewer nodes than what it stands in. -/
theorem length_nodes_of_mem_children (h : d ∈ t.children) : d.nodes.length < t.nodes.length := by
  have hNode : t.kind?.isSome := by cases t <;> first | rfl | cases h
  rw [nodes_eq_cons hNode, List.length_cons, inside]
  exact Nat.lt_succ_of_le (nodes_sublist_flatMap h).length_le

/-- What holds of a tree as soon as it holds of the nodes directly below it holds of all trees. -/
theorem induction_children {p : Tree → Prop} (h : ∀ t, (∀ d ∈ t.children, p d) → p t) (t : Tree) :
    p t :=
  h t fun d _ => induction_children h d
termination_by t.nodes.length
decreasing_by exact length_nodes_of_mem_children ‹_›

/-- A node among those of several trees is one of a single tree, and what follows it there follows
it among all. -/
theorem exists_split_of_flatMap (h : level.flatMap nodes = before ++ d :: after) :
    ∃ t ∈ level, ∃ front back, t.nodes = front ++ d :: back ∧ back <+: after := by
  induction level generalizing before with
  | nil => simp at h
  | cons t level ih =>
      rw [List.flatMap_cons, List.append_eq_append_iff] at h
      rcases h with ⟨front, rfl, hRest⟩ | ⟨back, hFirst, hRest⟩
      · obtain ⟨other, hOther, hSplit⟩ := ih hRest
        exact ⟨other, List.mem_cons_of_mem _ hOther, hSplit⟩
      · cases back with
        | nil =>
            have hLater : level.flatMap nodes = [] ++ d :: after := hRest.symm
            obtain ⟨other, hOther, hSplit⟩ := ih hLater
            exact ⟨other, List.mem_cons_of_mem _ hOther, hSplit⟩
        | cons other back =>
            obtain ⟨rfl, rfl⟩ := List.cons_eq_cons.1 hRest
            exact ⟨t, List.mem_cons_self, before, back, hFirst, List.prefix_append _ _⟩

/-- The nodes inside a node follow it directly. -/
theorem inside_follows (t : Tree) {before after : List Tree} (h : t.nodes = before ++ d :: after) :
    d.inside <+: after := by
  induction t using induction_children generalizing before after with
  | h t ih =>
      have hNode : t.kind?.isSome := by
        cases t with
        | node kind span fields => rfl
        | _ => simp [nodes] at h
      rw [nodes_eq_cons hNode] at h
      cases before with
      | nil =>
          obtain ⟨rfl, rfl⟩ := List.cons_eq_cons.1 h
          exact List.prefix_refl _
      | cons first before =>
          obtain ⟨child, hChild, front, back, hSplit, hBack⟩ :=
            exists_split_of_flatMap (List.cons_eq_cons.1 h).2
          exact (ih child hChild hSplit).trans hBack

/-- What is inside a node of a tree is a node of the tree. -/
theorem mem_nodes_of_mem_inside {inner : Tree} (hNode : d ∈ t.nodes) (h : inner ∈ d.inside) :
    inner ∈ t.nodes := by
  obtain ⟨before, after, hSplit⟩ := List.append_of_mem hNode
  rw [hSplit]
  exact List.mem_append_right _ (List.mem_cons_of_mem _ ((inside_follows t hSplit).subset h))

/-- The nodes of one level, and those of the next levels. -/
theorem flatMap_nodes_perm (hNodes : ∀ t ∈ level, t.kind?.isSome) :
    (level.flatMap nodes).Perm (level ++ (level.flatMap children).flatMap nodes) := by
  have hHeads : level.flatMap nodes = level.flatMap fun t => t :: t.inside :=
    List.flatMap_congr fun t ht => nodes_eq_cons (hNodes t ht)
  have hBelow : (level.flatMap children).flatMap nodes = level.flatMap inside :=
    List.flatMap_assoc
  rw [hHeads, hBelow]
  simpa using (List.map_append_flatMap_perm level id inside).symm

/-- Nodes that stand on at most `depth` levels together with those inside them. -/
structure Fits (depth : Nat) (level : List Tree) : Prop where
  isNode : ∀ t ∈ level, t.kind?.isSome
  length_le : (level.flatMap nodes).length ≤ depth

/-- The nodes below a level fit into one level less. -/
theorem Fits.below (h : Fits (depth + 1) level) (hSome : level ≠ []) :
    Fits depth (level.flatMap children) := by
  have hLength := (flatMap_nodes_perm h.isNode).length_eq
  have hPositive := List.length_pos_iff.2 hSome
  have hDepth := h.length_le
  rw [List.length_append] at hLength
  refine ⟨fun t hBelow => ?_, by omega⟩
  obtain ⟨parent, -, hChild⟩ := List.mem_flatMap.1 hBelow
  exact kind?_of_mem_children hChild

/-- Level by level each node is met once. -/
theorem levels_perm (h : Fits depth level) : (levels depth level).Perm (level.flatMap nodes) := by
  induction depth generalizing level with
  | zero =>
      rw [List.length_eq_zero_iff.1 (Nat.le_zero.1 h.length_le)]
      exact .nil
  | succ depth ih =>
      rw [levels]
      split
      · next hEmpty => simp [List.isEmpty_iff.1 hEmpty]
      · next hSome =>
          have hBelow := ih (h.below (by simpa using hSome))
          exact (hBelow.append_left level).trans (flatMap_nodes_perm h.isNode).symm

/-- Level by level, the nodes inside a node follow it. -/
theorem inside_subperm_of_levels (h : Fits depth level)
    (hSplit : levels depth level = before ++ d :: after) : d.inside.Subperm after := by
  induction depth generalizing level before with
  | zero => simp [levels] at hSplit
  | succ depth ih =>
      rw [levels] at hSplit
      split at hSplit
      · simp at hSplit
      · next hSome =>
          have hFits := h.below (by simpa using hSome)
          rw [List.append_eq_append_iff] at hSplit
          rcases hSplit with ⟨front, rfl, hRest⟩ | ⟨back, hLevel, hRest⟩
          · exact ih hFits hRest
          · cases back with
            | nil =>
                have hLater : levels depth (level.flatMap children) = [] ++ d :: after :=
                  hRest.symm
                exact ih hFits hLater
            | cons first back =>
                obtain ⟨rfl, rfl⟩ := List.cons_eq_cons.1 hRest
                have hChildren : d.children.Sublist (level.flatMap children) := by
                  simpa using (List.singleton_sublist.2 (hLevel ▸ List.mem_append_right before
                    List.mem_cons_self)).flatMap children
                have hInside := (hChildren.flatMap nodes).subperm.trans
                  (levels_perm hFits).symm.subperm
                exact hInside.trans (List.sublist_append_right _ _).subperm

theorem fits_singleton (h : t.kind?.isSome) : Fits (t.nodes.length + 1) [t] :=
  ⟨by simpa using h, by simp⟩

/-- Breadth first, each node of a tree is met once. -/
theorem breadthFirst_perm (h : t.kind?.isSome) : t.breadthFirst.Perm t.nodes := by
  simpa [breadthFirst] using levels_perm (fits_singleton h)

/-- Breadth first, a node comes before all that is inside it. -/
theorem inside_subperm_of_breadthFirst (h : t.kind?.isSome)
    (hSplit : t.breadthFirst = before ++ d :: after) : d.inside.Subperm after :=
  inside_subperm_of_levels (fits_singleton h) hSplit

/-- Among the nodes of some kind, level by level, those inside a node follow it too. -/
theorem filter_inside_subperm {p : Tree → Bool} (h : t.kind?.isSome)
    (hSplit : t.breadthFirst.filter p = before ++ d :: after) :
    (d.inside.filter p).Subperm after := by
  obtain ⟨front, back, hFirst, -, hBack⟩ := List.filter_eq_append_iff.1 hSplit
  obtain ⟨skipped, rest, rfl, -, -, rfl⟩ := List.filter_eq_cons_iff.1 hBack
  rw [← List.append_assoc] at hFirst
  exact (inside_subperm_of_breadthFirst h hFirst).filter p

end RepoAudit.Syntax.Tree
