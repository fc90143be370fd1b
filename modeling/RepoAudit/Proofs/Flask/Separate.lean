import RepoAudit.Proofs.Flask.CallFlows
import RepoAudit.Proofs.Flask.History
import RepoAudit.Proofs.Flask.Scripts

/-!
Steps of one analysis in turn, and each of them alone. What they find adds up, except that responses
show what is known so far, and that a step starts in the function in which the one before it ended.
Main statement: visits of trees in turn find what each finds alone, if each but the last ends
outside of functions. A visit ends elsewhere only if it fails inside of a definition.
-/
namespace RepoAudit.Flask

open Syntax

/-- What a step in the function `f` finds alone. -/
def alone (f : Json) (step : Step Analysis Unit) : Analysis := (step.perform { function := f }).2

/-- What each step finds alone, in the function in which the one before it ends. -/
def partsFrom (f : Json) : List (Step Analysis Unit) → List Analysis
  | [] => []
  | step :: steps => alone f step :: partsFrom (alone f step).function steps

/-- The state after steps in turn. A step that fails leaves its state to the next. -/
def inTurn (steps : List (Step Analysis Unit)) (a : Analysis) : Analysis :=
  steps.foldl (fun a step => (step.perform a).2) a

/-- The state `b` is `a` with what a part found. -/
structure Adds (a part b : Analysis) : Prop where
  function : b.function = part.function
  entryPoints : ∀ name, name ∈ b.entryPoints ↔ name ∈ a.entryPoints ∨ name ∈ part.entryPoints
  flows : ∃ segment, b.flows = a.flows ++ segment ∧
    segment.map outline = part.flows.map outline ∧
    (a.sources = [] → a.scope = [] → segment = part.flows)
  sources : part.sources = [] → b.sources = a.sources
  scope : part.scope = [] → b.scope = a.scope

/-- The state `b` is `a` with what several parts found: with the entry points of all, and with one
segment of flows for each, which agree with those of the part in their outlines. -/
structure AddsUp (a b : Analysis) (parts : List Analysis) : Prop where
  entryPoints : ∀ name, name ∈ b.entryPoints ↔
    name ∈ a.entryPoints ∨ ∃ part ∈ parts, name ∈ part.entryPoints
  flows : ∃ segments : List (List DataFlow), b.flows = a.flows ++ segments.flatten ∧
    List.Forall₂ (fun segment part => segment.map outline = part.flows.map outline) segments parts

variable {m : Manner} {a b c part : Analysis} {parts : List Analysis} {f : Json} {t : Tree}
  {step : Step Analysis Unit} {steps : List (Step Analysis Unit)}

/-- A step adds what it finds alone. The same actions are played on both states, and each part of
the state tells what they add. -/
theorem adds_perform (h : IsScripted step) (a : Analysis) :
    Adds a (alone a.function step) (step.perform a).2 := by
  obtain ⟨g, result, actions, hScript⟩ := h a.function
  have hHere : (step.perform a).2 = (play actions a).enterFunction g :=
    congrArg Prod.snd (hScript a)
  have hAlone : alone a.function step =
      (play actions { function := a.function }).enterFunction g :=
    congrArg Prod.snd (hScript { function := a.function })
  rw [hHere, hAlone]
  refine ⟨rfl, fun name => ?_, ⟨flowsOf actions a, play_flows actions a, ?_, ?_⟩, ?_, ?_⟩
  · change name ∈ (play actions a).entryPoints ↔ _ ∨ name ∈ (play actions _).entryPoints
    rw [play_entryPoints, play_entryPoints, mem_foldl_insertNew, mem_foldl_insertNew]
    simp
  · change _ = (play actions { function := a.function }).flows.map outline
    rw [play_flows]
    exact map_outline_flowsOf actions _ _
  · intro hSources hScope
    change _ = (play actions { function := a.function }).flows
    rw [play_flows]
    exact flowsOf_congr actions _ _ hSources hScope
  · intro hNone
    change (play actions a).sources = _
    rw [play_sources, eq_nil_of_setEntries ((play_sources actions _).symm.trans hNone)]
    rfl
  · intro hNone
    change (play actions a).scope = _
    rw [play_scope, eq_nil_of_setEntries ((play_scope actions _).symm.trans hNone)]
    rfl

theorem addsUp_nil (a : Analysis) : AddsUp a a [] :=
  ⟨fun name => by simp, [], (List.append_nil _).symm, .nil⟩

theorem Adds.addsUp_cons (hFirst : Adds a part b) (hRest : AddsUp b c parts) :
    AddsUp a c (part :: parts) where
  entryPoints name := by
    rw [hRest.entryPoints, hFirst.entryPoints, List.exists_mem_cons_iff, or_assoc]
  flows := by
    obtain ⟨segment, hSegment, hOutline, -⟩ := hFirst.flows
    obtain ⟨segments, hSegments, hOutlines⟩ := hRest.flows
    refine ⟨segment :: segments, ?_, .cons hOutline hOutlines⟩
    rw [hSegments, hSegment, List.flatten_cons, List.append_assoc]

/-- The outlines of the flows are those of the parts in turn. -/
theorem AddsUp.map_outline (h : AddsUp a b parts) : b.flows.map outline =
    a.flows.map outline ++ parts.flatMap fun part => part.flows.map outline := by
  obtain ⟨segments, hFlows, hOutlines⟩ := h.flows
  have hSegments : segments.flatten.map outline =
      parts.flatMap fun part => part.flows.map outline := by
    clear h hFlows
    induction hOutlines with
    | nil => rfl
    | cons hOutline _ ih =>
        rw [List.flatten_cons, List.map_append, List.flatMap_cons, hOutline, ih]
  rw [hFlows, List.map_append, hSegments]

/-- Steps in turn add up what each finds alone. -/
theorem inTurn_addsUp (hSteps : ∀ step ∈ steps, IsScripted step) (a : Analysis) :
    AddsUp a (inTurn steps a) (partsFrom a.function steps) := by
  induction steps generalizing a with
  | nil => exact addsUp_nil a
  | cons step steps ih =>
      obtain ⟨hStep, hRest⟩ := List.forall_mem_cons.1 hSteps
      have hFirst := adds_perform hStep a
      rw [partsFrom, ← hFirst.function]
      exact hFirst.addsUp_cons (ih hRest _)

/-- If each step but the last ends where it started, all start there. -/
theorem partsFrom_eq_map (h : ∀ step ∈ steps.dropLast, (alone f step).function = f) :
    partsFrom f steps = steps.map (alone f) := by
  induction steps with
  | nil => rfl
  | cons step steps ih =>
      cases steps with
      | nil => rfl
      | cons next steps =>
          rw [List.dropLast_cons_cons, List.forall_mem_cons] at h
          rw [partsFrom, h.1, ih h.2]
          rfl

/-- Visits of several trees are steps in turn. -/
theorem visitAll_eq_inTurn [Output] (m : Manner) (ts : List Tree) (a : Analysis) :
    visitAll m ts a = inTurn (ts.map (visit m)) a := by
  induction ts generalizing a with
  | nil => rfl
  | cons t ts ih => exact ih _

/-- A visit that does not fail ends where it started. -/
theorem visit_function [Output] {u : Unit} (h : (visit m t).perform a = (.ok u, b)) :
    b.function = a.function := by
  match t with
  | .node kind span fields => exact Plan.run_function ((perform_walk m _ a).symm.trans h)
  | .absent => cases h
  | .leaf _ => cases h
  | .list _ => cases h

/-- A visit alone ends in the function in which it starts. -/
theorem alone_visit_function [Output] (hPlace : IsPlace f) (h : t.WellFormed)
    (hShown : m.traced = true → DecoratorsShowable t) : (alone f (visit m t)).function = f := by
  have hOk := (visit_ok_iff (m := m) (a := { function := f }) hPlace h).2 hShown
  rw [alone]
  rcases hOut : (visit m t).perform { function := f } with ⟨fault | _, b⟩
  · rw [hOut] at hOk
    cases hOk
  · exact visit_function hOut

/-- Trees that one analysis visits in turn add up to what an analysis of each alone finds, if that
starts in the function in which the visit before ended. All start outside of functions if all visits
but the last end there, which they do if the trees are well-formed and their decorators can be
shown. -/
theorem visitAll_addsUp [Output] (m : Manner) (ts : List Tree) :
    AddsUp {} (visitAll m ts {}) (partsFrom .null (ts.map (visit m))) ∧
      ((∀ t ∈ ts.dropLast, (alone .null (visit m t)).function = .null) →
        AddsUp {} (visitAll m ts {}) (ts.map fun t => alone .null (visit m t))) ∧
      ∀ t, t.WellFormed → (m.traced = true → DecoratorsShowable t) →
        (alone .null (visit m t)).function = .null := by
  have hAll : AddsUp {} (visitAll m ts {}) (partsFrom .null (ts.map (visit m))) := by
    rw [visitAll_eq_inTurn]
    exact inTurn_addsUp (List.forall_mem_map.2 fun t _ => visit_isScripted m t) {}
  refine ⟨hAll, fun hOutside => ?_, fun t => alone_visit_function (.inl rfl)⟩
  rw [partsFrom_eq_map, List.map_map] at hAll
  · exact hAll
  · rw [← List.map_dropLast, List.forall_mem_map]
    exact hOutside

/-- A source in which the decorator of a function inside another has more digits than are shown. -/
def nestedTree : Tree := .ofStatements [.ofDefinition "outer" [] [
  .ofDefinition "inner" [numbered Json.shownBound] [.node .passStmt default []]]]

/-- A source that makes a response outside of functions. -/
def responseTree : Tree :=
  .ofStatements [.node .exprStmt default [.ofMethod "flask" "jsonify" []]]

/-- After the visit that fails, the response is credited to the outer function. Neither source has a
flow alone. In the other order they add up. -/
theorem visitAll_addsUp_nested :
    (alone .null (visit .standard nestedTree)).function.isOneOf ["outer"] = true ∧
      (visitAll .standard [nestedTree, responseTree] {}).flows.any
        (fun flow => flow.sink.isOneOf ["outer::jsonify"]) = true ∧
      ¬AddsUp {} (visitAll .standard [nestedTree, responseTree] {})
        ([nestedTree, responseTree].map fun t => alone .null (visit .standard t)) ∧
      AddsUp {} (visitAll .standard [responseTree, nestedTree] {})
        ([responseTree, nestedTree].map fun t => alone .null (visit .standard t)) := by
  refine ⟨by decide +kernel, by decide +kernel, fun hUp => ?_, ?_⟩
  · exact absurd (congrArg List.length hUp.map_outline) (by decide +kernel)
  · obtain ⟨-, hOutside, hShown⟩ := visitAll_addsUp .standard [responseTree, nestedTree]
    refine hOutside (List.forall_mem_singleton.2 (hShown responseTree (by decide) fun _ => ?_))
    unfold DecoratorsShowable
    decide

end RepoAudit.Flask
