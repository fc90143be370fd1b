import RepoAudit.Proofs.Flask.Events

/-!
The history of an analysis of several trees: its events, each with the state in which it is handled.
Trees may have whatever form, and a visit that fails leaves its state to the next.
-/
namespace RepoAudit.Flask

open Syntax

/-- The events of a run as far as it gets, with the states in which they are handled. -/
def moments [Output] (m : Manner) : List Event → Analysis → List (Event × Analysis)
  | [], _ => []
  | e :: es, a => (e, a) :: match (plan m).handle e a with
    | (.ok _, b) => moments m es b
    | (.error _, _) => []

/-- The state after visits of trees in turn. -/
def visitAll [Output] (m : Manner) : List Tree → Analysis → Analysis
  | [], a => a
  | t :: ts, a => visitAll m ts ((visit m t).perform a).2

/-- The events of visits of trees in turn, with the states in which they are handled. -/
def history [Output] (m : Manner) : List Tree → Analysis → List (Event × Analysis)
  | [], _ => []
  | t :: ts, a =>
    moments m (events m.credit a.function t) a ++ history m ts ((visit m t).perform a).2

variable {m : Manner} {c d : Credit} {f : Json} {es : List Event} {a : Analysis} {t : Tree}

/-- A visit of anything but a node fails and changes nothing. -/
theorem visit_state [Output] (t : Tree) :
    ((visit m t).perform a).2 = ((plan m).run a.function (events m.credit a.function t) a).2 := by
  match t with
  | .node kind span fields => exact congrArg Prod.snd (perform_walk m (.node kind span fields) a)
  | .absent => rfl
  | .leaf _ => rfl
  | .list _ => rfl

/-- What holds at the start of a run and is kept by its events holds at its end. It may look at the
events to come and at the moments in the past. -/
theorem run_invariant [Output] {I : List Event → List (Event × Analysis) → Analysis → Prop}
    (hStep : ∀ e es past a, I (e :: es) past a → match (plan m).handle e a with
      | (.ok _, b) => I es (past ++ [(e, a)]) b
      | (.error _, b) => I [] (past ++ [(e, a)]) b)
    (hEnd : ∀ past a, I [] past a → I [] past (a.enterFunction f))
    {past : List (Event × Analysis)} (h : I es past a) :
    I [] (past ++ moments m es a) ((plan m).run f es a).2 := by
  induction es generalizing a past with
  | nil =>
      rw [moments, List.append_nil]
      exact hEnd past a h
  | cons e es ih =>
      have hNext := hStep e es past a h
      rw [moments, Plan.run]
      rcases hOut : (plan m).handle e a with ⟨fault | _, b⟩
      · rw [hOut] at hNext
        exact hNext
      · rw [hOut] at hNext
        have hRest := ih hNext
        rwa [List.append_assoc] at hRest

/-- What happens at a definition happens in one function. -/
theorem definitionEvents_function : ∀ e ∈ definitionEvents f t, e.function = f := by
  intro e hEvent
  unfold definitionEvents at hEvent
  split at hEvent
  · rcases List.mem_append.1 hEvent with hDecorator | hDefined
    · obtain ⟨decorator, -, rfl⟩ := List.mem_map.1 hDecorator
      rfl
    · rw [List.mem_singleton.1 hDefined]
      rfl
  · rw [List.mem_singleton.1 hEvent]
    rfl

section Functions

variable {q : Json → Prop}

/-- What holds of the function around a tree and of those that the tree defines holds of the
functions of its events. -/
theorem events_function (hAround : q f)
    (hDefined : ∀ d ∈ t.nodes, d.kind? = some .functionDef → q (innerFunction .null d)) :
    ∀ e ∈ events c f t, q e.function := by
  intro e hEvent
  rw [(events_perm c t f).mem_iff, List.mem_flatMap] at hEvent
  obtain ⟨⟨g, d⟩, hNode, hOwn⟩ := hEvent
  have hFunction := nodesWithin_function t f hAround hDefined (g, d) hNode
  rcases List.mem_cons.1 hOwn with rfl | hCredited
  · exact hFunction
  · split at hCredited
    · next hDefinition =>
        rw [definitionEvents_function e hCredited]
        cases c with
        | enclosing => exact hFunction
        | own =>
            rw [Credit.function, innerFunction_of_definition hDefinition]
            refine hDefined d ?_ hDefinition
            exact mem_nodes_of_mem_nodesWithin hNode
    · cases hCredited

end Functions

/-- What holds before visits of trees and is kept by each of them holds after them. -/
theorem history_invariant [Output] {J : List (Event × Analysis) → Analysis → Prop} {ts : List Tree}
    (hVisit : ∀ t ∈ ts, ∀ past a, J past a →
      J (past ++ moments m (events m.credit a.function t) a)
        ((plan m).run a.function (events m.credit a.function t) a).2)
    {past : List (Event × Analysis)} (h : J past a) :
    J (past ++ history m ts a) (visitAll m ts a) := by
  induction ts generalizing past a with
  | nil =>
      rw [history, List.append_nil]
      exact h
  | cons t ts ih =>
      have hFirst := hVisit t List.mem_cons_self past a h
      rw [← visit_state] at hFirst
      have hRest := ih (fun t hMember => hVisit t (List.mem_cons_of_mem _ hMember)) hFirst
      rwa [List.append_assoc] at hRest

end RepoAudit.Flask
