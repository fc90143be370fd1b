import RepoAudit.Proofs.Flask.Actions

/-!
The actions of whole visits, and what actions add. Main statements: a visit of any tree takes
actions that do not depend on what is known before it; and actions append the same flows whatever is
known, except that a response shows what is known.
-/
namespace RepoAudit.Flask

open Syntax Analysis

/-- A result and the actions that lead to it. -/
abbrev Course := Except Fault Unit × List Action

/-- One course after another, unless the first ends in a fault. -/
def Course.andThen (first second : Course) : Course :=
  match first with
  | (.ok _, actions) => (second.1, actions ++ second.2)
  | (.error fault, actions) => (.error fault, actions)

def courseOf (script : Event → Course) : List Event → Course
  | [] => (.ok (), [])
  | e :: es => (script e).andThen (courseOf script es)

/-- The course of each event, whatever is known before it. -/
def IsScript [Output] (m : Manner) (script : Event → Course) : Prop :=
  ∀ e, Scripted e.function e.function (e.work m) (script e).1 (script e).2

variable {m : Manner} {f g : Json} {script : Event → Course}

/-- The work on an event does not depend on what is known. -/
theorem work_scripted [Output] (m : Manner) (e : Event) :
    ∃ result actions, Scripted e.function e.function (e.work m) result actions := by
  cases e with
  | node f t =>
      obtain ⟨_, _, -, hWithin⟩ := quiets_bind (quiets_askValue f t) fun _ =>
        quiets_enterNode (m := m) (n := ⟨m.credit, false⟩) rfl f t
      exact hWithin.scripted
  | decorator f t => exact (within_noteDecorator m f t).scripted
  | defined f => exact (within_noteProcessor f).scripted
  | broken f fault => exact ⟨_, _, scripted_attempt (.error fault)⟩

/-- Every manner has a script. -/
theorem exists_isScript [Output] (m : Manner) : ∃ script, IsScript m script := by
  choose result actions hScript using work_scripted m
  exact ⟨fun e => (result e, actions e), hScript⟩

/-- A run takes the course of its events. -/
theorem run_eq_courseOf [Output] (hScript : IsScript m script) (f : Json) (es : List Event) :
    ∃ g, ∀ a, (plan m).run f es a =
      ((courseOf script es).1, (play (courseOf script es).2 a).enterFunction g) := by
  induction es with
  | nil => exact ⟨f, fun a => rfl⟩
  | cons e es ih =>
      obtain ⟨g, hRest⟩ := ih
      have hFirst : ∀ a, (plan m).handle e a =
        ((script e).1, (play (script e).2 a).enterFunction e.function) := hScript e
      rcases hOut : script e with ⟨fault | _, actions⟩
      · refine ⟨e.function, fun a => ?_⟩
        rw [Plan.run, hFirst, hOut, courseOf, hOut]
        rfl
      · refine ⟨g, fun a => ?_⟩
        simp only [Plan.run, hFirst, courseOf, hOut, Course.andThen]
        rw [Plan.run_enterFunction, hRest, play_append]

section IsScripted

variable {α β : Type}

/-- In every function, a step takes actions that do not depend on what is known. -/
def IsScripted (step : Step Analysis α) : Prop :=
  ∀ f, ∃ g result actions, Scripted f g step result actions

variable {step : Step Analysis α} {next : α → Step Analysis β}

theorem isScripted_attempt (outcome : Except Fault α) : IsScripted (Step.attempt outcome) :=
  fun f => ⟨f, _, _, scripted_attempt outcome⟩

theorem isScripted_bind (hStep : IsScripted step) (hNext : ∀ x, IsScripted (next x)) :
    IsScripted (step >>= next) := by
  intro f
  obtain ⟨g, result, first, hFirst⟩ := hStep f
  rcases result with fault | x
  · exact ⟨g, _, _, scripted_bind_fault hFirst⟩
  · obtain ⟨h, after, second, hSecond⟩ := hNext x g
    exact ⟨h, _, _, scripted_bind hFirst hSecond⟩

/-- A fault that is caught does not depend on what is known either. -/
theorem isScripted_tryCatch {handle : Fault → Step Analysis α} (hStep : IsScripted step)
    (hHandle : ∀ fault, IsScripted (handle fault)) : IsScripted (tryCatch step handle) := by
  intro f
  obtain ⟨g, result, first, hFirst⟩ := hStep f
  rcases result with fault | x
  · obtain ⟨h, after, second, hSecond⟩ := hHandle fault g
    refine ⟨h, after, first ++ second, fun a => ?_⟩
    rw [Step.perform_tryCatch, hFirst, play_append]
    exact hSecond _
  · refine ⟨g, .ok x, first, fun a => ?_⟩
    rw [Step.perform_tryCatch, hFirst]

/-- Whether a line can be printed does not depend on what is known. -/
theorem isScripted_say [Output] (line : Text) : IsScripted (say line) := by
  intro f
  obtain ⟨result, actions, hScript⟩ := (within_say (f := f) line).scripted
  exact ⟨f, result, actions, hScript⟩

/-- Whether a step fails depends only on the function in which it starts. -/
theorem IsScripted.result_eq (hStep : IsScripted step) (a : Analysis) :
    (step.perform a).1 = (step.perform { function := a.function }).1 := by
  obtain ⟨g, result, actions, hScript⟩ := hStep a.function
  have hHere : (step.perform a).1 = result := congrArg Prod.fst (hScript a)
  exact hHere.trans (congrArg Prod.fst (hScript { function := a.function })).symm

end IsScripted

/-- A visit takes actions that do not depend on what is known before it. -/
theorem visit_isScripted [Output] (m : Manner) (t : Tree) : IsScripted (visit m t) := by
  intro f
  obtain ⟨script, hScript⟩ := exists_isScript m
  have hFault (fault : Fault) (hVisit : visit m t = throw fault) :
      ∃ g result actions, Scripted f g (visit m t) result actions := by
    rw [hVisit]
    exact ⟨f, _, _, scripted_attempt (.error fault)⟩
  match t with
  | .node kind span fields =>
      obtain ⟨g, hRun⟩ := run_eq_courseOf hScript f (events m.credit f (.node kind span fields))
      have hVisit (a : Analysis) : (visit m (.node kind span fields)).perform (a.enterFunction f) =
          (plan m).run f (events m.credit f (.node kind span fields)) a :=
        (perform_walk m (.node kind span fields) _).trans Plan.run_enterFunction
      exact ⟨g, _, _, fun a => (hVisit a).trans (hRun a)⟩
  | .absent => exact hFault _ rfl
  | .leaf _ => exact hFault _ rfl
  | .list _ => exact hFault _ rfl

namespace Action

def points : Action → List Text
  | point name => [name]
  | _ => []

/-- The sources that an action records. -/
def records : Action → List (Json × SourceRecord)
  | record key source => [(key, source)]
  | _ => []

/-- The assignments that an action records. -/
def bindings : Action → List (Json × Binding)
  | assign name binding => [(name, binding)]
  | _ => []

/-- The flows that an action appends. -/
def flows (a : Analysis) : Action → List DataFlow
  | flow found => [found]
  | respond function sink => [⟨sourceOf a function, sink, [function], a.carriers⟩]
  | _ => []

end Action

/-- The flows that actions append in turn. -/
def flowsOf : List Action → Analysis → List DataFlow
  | [], _ => []
  | action :: actions, a => action.flows a ++ flowsOf actions (action.apply a)

/-- What there is to a flow whatever is known: all of it, or its sink and its path if it is a
response. Only responses have paths with one station. -/
def outline (flow : DataFlow) : DataFlow :=
  if flow.path.length = 1 then { flow with source := .null, carriers := [] } else flow

section Added

variable (actions : List Action) (a b : Analysis)

/-- What actions add to a part of the state, if each adds something to it in turn. -/
theorem play_part {α β : Type} {part : Analysis → α} {added : Action → List β} {add : α → β → α}
    (hApply : ∀ a action, part (Action.apply a action) = (added action).foldl add (part a)) :
    part (play actions a) = (actions.flatMap added).foldl add (part a) := by
  induction actions generalizing a with
  | nil => rfl
  | cons action actions ih => rw [play_cons, ih, hApply, List.flatMap_cons, List.foldl_append]

/-- Actions add entry points. -/
theorem play_entryPoints : (play actions a).entryPoints =
    (actions.flatMap Action.points).foldl (fun set name => insertNew name set) a.entryPoints :=
  play_part actions a fun _ action => by cases action <;> rfl

/-- Actions record sources under their keys. -/
theorem play_sources : (play actions a).sources =
    setEntries (actions.flatMap Action.records) a.sources :=
  play_part actions a fun _ action => by cases action <;> rfl

/-- Actions bind variables. -/
theorem play_scope : (play actions a).scope =
    setEntries (actions.flatMap Action.bindings) a.scope :=
  play_part actions a fun _ action => by cases action <;> rfl

/-- Actions append flows. -/
theorem play_flows : (play actions a).flows = a.flows ++ flowsOf actions a := by
  induction actions generalizing a with
  | nil => exact (List.append_nil _).symm
  | cons action actions ih =>
      have hFirst : (action.apply a).flows = a.flows ++ action.flows a := by
        cases action <;> first | rfl | exact (List.append_nil _).symm
      rw [play_cons, ih, flowsOf, hFirst, List.append_assoc]

theorem flowsOf_append (first second : List Action) :
    flowsOf (first ++ second) a = flowsOf first a ++ flowsOf second (play first a) := by
  induction first generalizing a with
  | nil => rfl
  | cons action actions ih =>
      rw [List.cons_append, flowsOf, flowsOf, ih, play_cons, List.append_assoc]

/-- Actions append flows of the same outline, whatever is known before. -/
theorem map_outline_flowsOf :
    (flowsOf actions a).map outline = (flowsOf actions b).map outline := by
  induction actions generalizing a b with
  | nil => rfl
  | cons action actions ih =>
      have hFirst : (action.flows a).map outline = (action.flows b).map outline := by
        cases action <;> rfl
      rw [flowsOf, flowsOf, List.map_append, List.map_append, hFirst, ih]

/-- What responses show are the sources and the assignments that are known. -/
theorem flowsOf_congr (hSources : a.sources = b.sources) (hScope : a.scope = b.scope) :
    flowsOf actions a = flowsOf actions b := by
  induction actions generalizing a b with
  | nil => rfl
  | cons action actions ih =>
      have hFirst : action.flows a = action.flows b := by
        cases action <;> simp only [Action.flows, sourceOf, carriers, hSources, hScope]
      rw [flowsOf, flowsOf, hFirst]
      refine congrArg _ (ih _ _ ?_ ?_)
      · cases action <;> simp only [Action.apply, addFlow, addEntryPoint, setSource, hSources]
      · cases action <;> simp only [Action.apply, addFlow, addEntryPoint, setSource, hScope]

end Added

end RepoAudit.Flask
