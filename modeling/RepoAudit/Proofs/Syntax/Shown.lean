import RepoAudit.Proofs.Step
import RepoAudit.Proofs.Syntax.WellFormed
import RepoAudit.Syntax.Dump

/-!
Which trees can be shown on one line. Only whole numbers can stand in the way, since those of too
many digits are not written. What is shown can always be printed.
-/
namespace RepoAudit.Syntax

namespace Tree

mutual

/-- The whole numbers that stand in a part of a tree. -/
def integers : Tree → List Int
  | .leaf (.int n) => [n]
  | .list items => integersOf items
  | .node _ _ fields => integersOf fields
  | _ => []

/-- The whole numbers that stand in parts of a tree. -/
def integersOf : List Tree → List Int
  | [] => []
  | t :: ts => integers t ++ integersOf ts

end

/-- No whole number in a part of a tree has more digits than can be written. -/
def Showable (t : Tree) : Prop := ∀ n ∈ t.integers, n.natAbs < Json.shownBound
deriving Decidable

end Tree

/-- A literal is shown unless it is a whole number with too many digits. -/
theorem Literal.shown_ok_iff (value : Literal) :
    (∃ s, value.shown = .ok s) ↔ (Tree.leaf value).Showable := by
  cases value with
  | int n =>
      unfold Tree.Showable Tree.integers Literal.shown
      simp only [List.mem_singleton, forall_eq]
      split
      · simpa
      · simpa using Nat.le_of_not_lt ‹_›
  | bool b => cases b <;> simp [Literal.shown, Tree.Showable, Tree.integers]
  | _ => simp [Literal.shown, Tree.Showable, Tree.integers]

/-- Texts stand in quotes where they are shown. -/
theorem Literal.shown_writable {value : Literal} {s : Text} (h : value.shown = .ok s) :
    s.Writable := by
  cases value with
  | int n =>
      rw [Literal.shown] at h
      split at h
      · cases h
        exact Text.writable_ofInt n
      · cases h
  | bool b => cases b <;> (cases h; exact Text.writable_ofString _)
  | none => cases h; exact Text.writable_ofString _
  | ellipsis => cases h; exact Text.writable_ofString _
  | _ => cases h; exact Text.writable_ofChars _

/-- A field that is left out holds no numbers. -/
theorem integers_of_leavesOut {kind : Kind} {label : String} {t : Tree}
    (h : kind.leavesOut label t = true) : t.integers = [] := by
  match t, h with
  | .absent, _ => rfl
  | .leaf .none, _ => rfl

theorem Kind.length_shapes (kind : Kind) : kind.shapes.length = kind.labels.length := by
  cases kind <;> rfl

/-- Parts that fit have the number of the shapes. -/
theorem Shape.length_of_admitsAll {shapes : List Shape} {ts : List Tree}
    (h : Shape.admitsAll shapes ts = true) : ts.length = shapes.length := by
  induction shapes generalizing ts with
  | nil =>
      rw [Shape.admitsAll_nil h]
      rfl
  | cons shape shapes ih =>
      obtain ⟨t, rest, rfl, _, hRest⟩ := Shape.admitsAll_cons h
      rw [List.length_cons, List.length_cons, ih hRest]

namespace Tree

theorem shown_map_ok_iff {α β : Type} {part : Except Fault α} {finish : α → β} :
    (∃ r, (do return finish (← part)) = Except.ok r) ↔ ∃ a, part = .ok a := by
  cases part <;> simp [bind, Except.bind, pure, Except.pure]

/-- Two parts in a row are shown if both are. -/
theorem shown_pair_ok_iff {α β γ : Type} {first : Except Fault α} {second : Except Fault β}
    {join : α → β → γ} :
    (∃ r, (do return join (← first) (← second)) = Except.ok r) ↔
      (∃ a, first = .ok a) ∧ ∃ b, second = .ok b := by
  cases first <;> cases second <;> simp [bind, Except.bind, pure, Except.pure]

mutual

/-- A well-formed tree is shown exactly if all whole numbers in it can be. -/
theorem shown_ok_iff : ∀ (t : Tree), t.wellFormed = true → ((∃ s, t.shown = .ok s) ↔ t.Showable)
  | .absent, _ => by simp [shown, Showable, integers]
  | .leaf value, _ => value.shown_ok_iff
  | .list items, h => by
      rw [shown, shown_map_ok_iff, shownItems_ok_iff items h]
      rfl
  | .node kind span fields, h => by
      rw [wellFormed, Bool.and_eq_true] at h
      have hLength : fields.length ≤ kind.labels.length := by
        rw [Shape.length_of_admitsAll h.1, kind.length_shapes]
      rw [shown, shown_map_ok_iff, shownFields_ok_iff kind kind.labels fields hLength h.2]
      rfl

theorem shownItems_ok_iff : ∀ (ts : List Tree), partsWellFormed ts = true →
    ((∃ s, shownItems ts = .ok s) ↔ ∀ n ∈ integersOf ts, n.natAbs < Json.shownBound)
  | [], _ => by simp [shownItems, integersOf]
  | t :: ts, h => by
      rw [partsWellFormed, Bool.and_eq_true] at h
      rw [shownItems, shown_pair_ok_iff, shown_ok_iff t h.1, shownItems_ok_iff ts h.2, integersOf,
        List.forall_mem_append]
      rfl

theorem shownFields_ok_iff (kind : Kind) : ∀ (labels : List String) (ts : List Tree),
    ts.length ≤ labels.length → partsWellFormed ts = true →
    ((∃ s, shownFields kind labels ts = .ok s) ↔ ∀ n ∈ integersOf ts, n.natAbs < Json.shownBound)
  | _, [], _, _ => by simp [shownFields, integersOf]
  | [], t :: ts, hLength, _ => absurd hLength (by simp)
  | label :: labels, t :: ts, hLength, h => by
      rw [partsWellFormed, Bool.and_eq_true] at h
      have hRest := shownFields_ok_iff kind labels ts (Nat.le_of_succ_le_succ hLength) h.2
      rw [shownFields, integersOf, List.forall_mem_append]
      split
      · rw [hRest, integers_of_leavesOut ‹_›]
        simp
      · rw [shown_pair_ok_iff, shown_ok_iff t h.1, hRest]
        rfl

end

/-- A well-formed node is shown unless one of its numbers is too long. -/
theorem dump_ok_iff {t : Tree} (h : t.WellFormed) : (∃ s, t.dump = .ok s) ↔ t.Showable := by
  obtain ⟨kind, span, fields, rfl⟩ := h.node_eq
  exact shown_ok_iff _ h.2

mutual

/-- What is shown can be printed. -/
theorem shown_writable : ∀ (t : Tree) {s : Text}, t.shown = .ok s → s.Writable
  | .absent, s, h => by
      cases h
      exact Text.writable_ofString _
  | .leaf value, s, h => Literal.shown_writable h
  | .list items, s, h => by
      rw [shown, bind_eq_ok_iff] at h
      obtain ⟨parts, hItems, hJoin⟩ := h
      cases hJoin
      have hParts := shownItems_writable items hItems
      simp [writable_joinWith (Text.writable_ofString _) hParts]
  | .node kind span fields, s, h => by
      rw [shown, bind_eq_ok_iff] at h
      obtain ⟨parts, hFields, hJoin⟩ := h
      cases hJoin
      have hParts := shownFields_writable kind kind.labels fields hFields
      simp [writable_joinWith (Text.writable_ofString _) hParts]

theorem shownItems_writable : ∀ (ts : List Tree) {parts : List Text},
    shownItems ts = .ok parts → ∀ part ∈ parts, part.Writable
  | [], parts, h => by
      cases h
      simp
  | t :: ts, parts, h => by
      simp only [shownItems, bind_eq_ok_iff, pure_eq_ok_iff] at h
      obtain ⟨text, hFirst, texts, hRest, rfl⟩ := h
      exact List.forall_mem_cons.mpr ⟨shown_writable t hFirst, shownItems_writable ts hRest⟩

theorem shownFields_writable (kind : Kind) : ∀ (labels : List String) (ts : List Tree)
    {parts : List Text}, shownFields kind labels ts = .ok parts → ∀ part ∈ parts, part.Writable
  | _, [], parts, h => by
      simp only [shownFields, Except.ok.injEq] at h
      simp [← h]
  | [], t :: ts, parts, h => by
      simp only [shownFields, Except.ok.injEq] at h
      simp [← h]
  | label :: labels, t :: ts, parts, h => by
      rw [shownFields] at h
      split at h
      · exact shownFields_writable kind labels ts h
      · simp only [bind_eq_ok_iff, pure_eq_ok_iff] at h
        obtain ⟨text, hFirst, texts, hRest, rfl⟩ := h
        refine List.forall_mem_cons.mpr ⟨?_, shownFields_writable kind labels ts hRest⟩
        simp [shown_writable t hFirst]

end

end Tree

end RepoAudit.Syntax
