import RepoAudit.Proofs.Flask.Effects
import RepoAudit.Proofs.Flow.Tracking

/-!
A visit as a run over events. The events of a tree and their order depend on the tree and on the
function in which it stands, and not on what an analysis knows. Main statement: visiting a tree is
running its events, with the same faults and the same state at a fault. It holds of all trees.
-/
namespace RepoAudit.Flask

open Syntax Analysis

/-- Something that an analysis looks at, with the function that is current at that moment. -/
inductive Event where
  /-- A node is entered. -/
  | node (function : Json) (t : Tree)
  /-- A decorator is examined. -/
  | decorator (function : Json) (t : Tree)
  /-- The decorators of a definition are done. -/
  | defined (function : Json)
  /-- A definition whose decorators cannot be gone through. -/
  | broken (function : Json) (fault : Fault)

namespace Event

def function : Event → Json
  | node f _ | decorator f _ | defined f | broken f _ => f

/-- What happens at a node, apart from moving into a definition. -/
def enterNode [Output] (m : Manner) (t : Tree) : Step Analysis Unit :=
  if t.kind? = some .functionDef then do
    let name ← Step.attempt (t.nameField "name")
    m.trace ("\n[DEBUG] Analyzing function: " ++ name.display)
  else enter m t

def work [Output] (m : Manner) : Event → Step Analysis Unit
  | node _ t => do
    askValue t
    enterNode m t
  | decorator _ t => noteDecorator m t
  | defined _ => noteProcessor
  | broken _ fault => throw fault

end Event

/-- The events to work on in turn. -/
def plan [Output] (m : Manner) : Plan Event := ⟨Event.function, Event.work m⟩

/-- The events at the decorators of a definition, credited to a function. -/
def definitionEvents (f : Json) (t : Tree) : List Event :=
  match t.field "decorator_list" >>= Tree.elements with
  | .ok decorators => decorators.map (.decorator f) ++ [.defined f]
  | .error fault => [.broken f fault]

/-- The events at the decorators of a node, if it is a definition and `c` is the credit `d`. -/
def credited (c d : Credit) (f : Json) (t : Tree) : List Event :=
  if t.kind? = some .functionDef ∧ c = d then definitionEvents f t else []

/-- The events that a node has when it is entered and when it is left. -/
def layout (c : Credit) : Layout Event where
  ahead f t := .node f t :: credited c .own (innerFunction f t) t
  behind f t := credited c .enclosing f t

/-- The events of a tree that stands in a function, in the order of the walk. -/
def events (c : Credit) (f : Json) (t : Tree) : List Event := (layout c).along f t

def Event.node? : Event → Option (Json × Tree)
  | .node f t => some (f, t)
  | _ => none

/-- The function to which a definition is credited: itself or the one around it. -/
def Credit.function (c : Credit) (f : Json) (t : Tree) : Json :=
  match c with
  | .own => innerFunction f t
  | .enclosing => f

/-- The events that a node has of its own. -/
def ownEvents (c : Credit) (f : Json) (t : Tree) : List Event :=
  .node f t :: if t.kind? = some .functionDef then definitionEvents (c.function f t) t else []

variable {m : Manner} {c d : Credit} {f : Json} {t : Tree} {a : Analysis}

section Visit

variable [Output]

/-- An event is worked on in its own function. -/
theorem handle_plan (m : Manner) (e : Event) (a : Analysis) :
    (plan m).handle e a = (e.work m).perform (a.enterFunction e.function) := rfl

/-- A decorator does not change the current function. -/
theorem noteDecorator_function (m : Manner) (t : Tree) (a : Analysis) :
    (noteDecorator m t).Leads a fun _ b => b.function = a.function := by
  rcases noteDecorator_leads m t a with h | h
  · exact h.function
  · exact h.function

/-- What is noted at a node does not change the current function. -/
theorem enterNode_function (m : Manner) (t : Tree) (a : Analysis) :
    (Event.enterNode m t).Leads a fun _ b => b.function = a.function := by
  refine Step.leads_ite (fun _ => ?_) (fun hOther => ?_)
  · exact Step.leads_attempt (fun _ _ => (trace_prints m _ a).function) (fun _ _ => rfl)
  · unfold enter
    split
    · exact absurd ‹_› hOther
    · exact noteAssignment_leads m t (fun _ _ hPrints h => hPrints.function.trans h)
        (fun _ _ _ h => h) (fun _ _ _ h => h) rfl
    · rcases noteAttribute_leads t a with h | ⟨-, h⟩
      · exact congrArg Analysis.function h
      · exact (congrArg Analysis.function h).trans rfl
    · exact (noteCall_leads m t a).function
    · rfl

/-- No event moves to another function. -/
theorem keepsFunction_plan (m : Manner) : (plan m).KeepsFunction := by
  intro e a
  cases e with
  | node g t => exact leads_askValue (fun _ => rfl) (enterNode_function m t a)
  | decorator g t => exact noteDecorator_function m t a
  | defined g =>
      rcases noteProcessor_leads a with h | h
      · exact congrArg Analysis.function h
      · exact (congrArg Analysis.function h).trans rfl
  | broken g fault => rfl

/-- A decorator is examined in the function that is current. -/
theorem perform_noteDecorator_eq_run (decorator : Tree) (a : Analysis) :
    (noteDecorator m decorator).perform a =
      (plan m).run a.function [.decorator a.function decorator] a :=
  ((keepsFunction_plan m).run_single (.decorator a.function decorator) a).symm

/-- The decorators of a definition are examined in the function that is current. -/
theorem perform_noteDefinition (t : Tree) (a : Analysis) :
    (noteDefinition m t).perform a =
      (plan m).run a.function (definitionEvents a.function t) a := by
  rw [noteDefinition, Step.perform_bind, Step.perform_attempt, definitionEvents]
  rcases t.field "decorator_list" >>= Tree.elements with fault | decorators
  · rfl
  · have hDecorators : (decorators.forM (noteDecorator m)).perform a =
        (plan m).run a.function (decorators.map (.decorator a.function)) a := by
      rw [List.map_eq_flatMap]
      exact Plan.perform_forM (fun f decorator => [Event.decorator f decorator])
        (fun decorator _ => perform_noteDecorator_eq_run decorator) a
    simp only
    rw [Plan.run_append (g := a.function), Step.perform_bind, hDecorators]
    rcases hOut : (plan m).run a.function (decorators.map (.decorator a.function)) a
      with ⟨_ | _, b⟩
    · rfl
    · rw [← Plan.run_function hOut]
      exact ((keepsFunction_plan m).run_single (.defined b.function) b).symm

/-- Entering a node is its event, followed by the decorators if they are credited to it. -/
theorem perform_enter (t : Tree) (a : Analysis) :
    (askValue t >>= fun _ => enter m t).perform a =
      (plan m).run (innerFunction a.function t) ((layout m.credit).ahead a.function t) a := by
  have hFunction := (keepsFunction_plan m).handle_function (.node a.function t) a
  have hHandle : (plan m).handle (.node a.function t) a =
    (askValue t >>= fun _ => Event.enterNode m t).perform a := rfl
  rw [layout, Plan.run]
  by_cases hDefinition : t.kind? = some .functionDef
  · rw [hHandle]
    simp only [Step.perform_bind]
    have hAsk : (askValue t).perform a = (.ok (), a) := by
      simp [askValue, hDefinition]
    rw [hAsk]
    simp only [enter, Event.enterNode, hDefinition, innerFunction, credited, enterDefinition,
      if_true, Step.perform_bind, Step.perform_attempt]
    rcases t.nameField "name" with fault | name
    · rfl
    · simp only [Except.toOption, Option.getD_some]
      rcases hOut : (m.trace _).perform a with ⟨_ | _, b⟩
      · rfl
      · simp only [Step.perform_modify, true_and]
        by_cases hOwn : m.credit = .own
        · simp [hOwn, perform_noteDefinition, Plan.run_enterFunction]
        · simp [hOwn, Plan.run]
  · have hEnter : Event.enterNode m t = enter m t := if_neg hDefinition
    rw [← hEnter, ← hHandle, innerFunction_of_ne hDefinition, credited,
      if_neg (fun h => hDefinition h.1)]
    rcases hOut : (plan m).handle (.node a.function t) a with ⟨_ | _, b⟩
    · rfl
    · rw [hOut] at hFunction
      have hUnmoved : b.function = a.function := hFunction
      simp only [Plan.run, ← hUnmoved, enterFunction_self]

/-- Leaving a node returns to the function around it, which may be credited with decorators. -/
theorem perform_leave (t : Tree) (before a : Analysis)
    (hInner : a.function = innerFunction before.function t) :
    (leave m t before).perform a =
      (plan m).run before.function ((layout m.credit).behind before.function t) a := by
  unfold leave layout credited
  by_cases hDefinition : t.kind? = some .functionDef
  · simp only [hDefinition, beq_self_eq_true, if_true, Step.perform_bind, Step.perform_modify,
      true_and]
    by_cases hEnclosing : m.credit = .enclosing
    · simp only [hEnclosing, beq_self_eq_true, if_true, perform_noteDefinition]
      exact Plan.run_enterFunction
    · simp [hEnclosing, Plan.run]
      rfl
  · rw [innerFunction_of_ne hDefinition] at hInner
    simp [hDefinition, Plan.run, ← hInner]

/-- A visitor works on the events of the tree in their order, definitions before or behind their
bodies. -/
theorem follows (m : Manner) : Follows (visitor m) (plan m) (layout m.credit) where
  enter := perform_enter
  leave := perform_leave

/-- Walking over a tree is running its events. -/
theorem perform_walk (m : Manner) (t : Tree) (a : Analysis) :
    ((visitor m).walk t).perform a = (plan m).run a.function (events m.credit a.function t) a :=
  (follows m).perform_walk t a

end Visit

/-- At a definition no node is entered. -/
theorem filterMap_node?_definitionEvents : (definitionEvents f t).filterMap Event.node? = [] := by
  unfold definitionEvents
  split
  · simp [Event.node?, List.filterMap_map, Function.comp_def]
  · rfl

theorem filterMap_node?_credited : (credited c d f t).filterMap Event.node? = [] := by
  unfold credited
  split
  · exact filterMap_node?_definitionEvents
  · rfl

/-- Nodes are entered in the order in which they stand. -/
theorem filterMap_node?_events (c : Credit) (t : Tree) (f : Json) :
    (events c f t).filterMap Event.node? = nodesWithin f t := by
  have hNode : ∀ g d, (Event.node g d).node? = some (g, d) := fun _ _ => rfl
  simp only [events, Layout.filterMap_along, layout, List.filterMap_cons_some (hNode _ _),
    filterMap_node?_credited, nodesWithin]

/-- The events of a tree are those that its nodes have of their own, in some order. -/
theorem events_perm (c : Credit) (t : Tree) (f : Json) :
    (events c f t).Perm ((nodesWithin f t).flatMap fun p => ownEvents c p.1 p.2) := by
  have hOwn : ∀ p : Json × Tree, (layout c).ahead p.1 p.2 ++ (layout c).behind p.1 p.2 =
      ownEvents c p.1 p.2 := by
    intro p
    cases c <;> simp [layout, credited, ownEvents, Credit.function]
  simpa only [events, hOwn] using (layout c).along_perm f t

/-- With the credit to the function itself, a node has all its events where it is entered. -/
theorem events_own (t : Tree) (f : Json) :
    events .own f t = (nodesWithin f t).flatMap fun p => ownEvents .own p.1 p.2 := by
  have hOwn : ∀ p : Json × Tree, (layout .own).ahead p.1 p.2 = ownEvents .own p.1 p.2 := by
    simp [layout, credited, ownEvents, Credit.function]
  have hBehind : ∀ g d, (layout .own).behind g d = [] := by simp [layout, credited]
  simpa only [events, hOwn] using Layout.along_eq_flatMap hBehind f t

end RepoAudit.Flask
