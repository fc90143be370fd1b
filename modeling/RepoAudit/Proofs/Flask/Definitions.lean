import RepoAudit.Flow.Project
import RepoAudit.Proofs.Flask.CallFlows
import RepoAudit.Proofs.Flask.Routes
import RepoAudit.Proofs.Syntax.Order

/-!
Decorators that are credited to the function that they decorate. Everything is then noted where a
node is entered, so the flows stand in the order of the nodes. Main statement: an analysis without a
trace finds each route and each processor once, for the right function, and before all flows inside
that function.
-/
namespace RepoAudit.Flask

open Syntax

/-- Whether a flow goes through a function that processes every request. -/
def isProcessor (flow : DataFlow) : Bool := isDispatched flow && !isRoute flow

/-- The routes that the decorators of a plain definition register, one for each that does. -/
def definedRoutes (d : Tree) : List DataFlow :=
  if d.kind? = some .functionDef then
    (d.decorators.filter registersRoute).map fun _ => routeFlow (.str d.definedName)
  else []

/-- The flow through a plain definition that processes every request. -/
def definedProcessor (d : Tree) : List DataFlow :=
  if d.kind? = some .functionDef ∧ d.definedName ∈ processors then
    [processorFlow (.str d.definedName)]
  else []

/-- The flows at nodes in turn, after the nodes that are passed: at a definition its routes and then
the flow through it, at a call the one that the call makes. -/
def flowsAfter (passed : List (Json × Tree)) : List (Json × Tree) → List DataFlow
  | [] => []
  | (f, d) :: rest => definedRoutes d ++ definedProcessor d ++
    (flowAt (knownAfter passed) ((variablesAfter passed).map .str) f d).toList ++
      flowsAfter (passed ++ [(f, d)]) rest

variable {f : Json} {t d : Tree} {es : List Event} {passed ps : List (Json × Tree)}

theorem flowsAlong_append (known : List (Json × SourceRecord)) (scope : List (Json × Binding))
    (first second : List Event) : flowsAlong known scope (first ++ second) =
      flowsAlong known scope first ++
        flowsAlong (setEntries (first.flatMap Event.records) known)
          (setEntries (first.flatMap Event.bindings) scope) second := by
  induction first generalizing known scope with
  | nil => simp [flowsAlong]
  | cons e first ih => simp [flowsAlong, ih, setEntries_append]

theorem flowsAfter_append (passed first second : List (Json × Tree)) :
    flowsAfter passed (first ++ second) =
      flowsAfter passed first ++ flowsAfter (passed ++ first) second := by
  induction first generalizing passed with
  | nil => simp [flowsAfter]
  | cons p first ih => simp [flowsAfter, ih]

/-- Inside a definition its own name is the current function. -/
theorem inner_eq_definedName (h : d.WellFormed) (hDefinition : d.kind? = some .functionDef) :
    innerFunction f d = .str d.definedName := by
  obtain ⟨span, name, args, body, decorators, rest, rfl, -⟩ := h.definition hDefinition
  rfl

/-- Decorators append the flow of a route for each that registers one. -/
theorem flowsAlong_decorators (known : List (Json × SourceRecord)) (scope : List (Json × Binding))
    (f : Json) (decorators : List Tree) :
    flowsAlong known scope (decorators.map (.decorator f)) =
      (decorators.filter registersRoute).map fun _ => routeFlow f := by
  induction decorators generalizing known scope with
  | nil => rfl
  | cons decorator decorators ih =>
      rw [List.map_cons, flowsAlong, ih, Event.flows]
      by_cases hRoute : registersRoute decorator = true
      · rw [if_pos hRoute, List.filter_cons_of_pos hRoute, List.map_cons, List.singleton_append]
      · rw [if_neg hRoute, List.filter_cons_of_neg hRoute, List.nil_append]

/-- What is found at the decorators of a definition does not depend on what is known. -/
theorem flowsAlong_definitionEvents (known : List (Json × SourceRecord))
    (scope : List (Json × Binding)) (h : d.WellFormed) (hDefinition : d.kind? = some .functionDef) :
    flowsAlong known scope (definitionEvents (innerFunction f d) d) =
      definedRoutes d ++ definedProcessor d := by
  have hProcesses : (Json.str d.definedName).isOneOf processors = true ↔
      d.definedName ∈ processors := by simp [Json.isOneOf]
  rw [definitionEvents_eq h hDefinition, inner_eq_definedName h hDefinition, flowsAlong_append,
    flowsAlong_decorators, definedRoutes, if_pos hDefinition, definedProcessor]
  simp only [flowsAlong, Event.flows, hProcesses, hDefinition, true_and, List.append_nil]

/-- At a definition nothing is recorded and nothing assigned. -/
theorem notes_definitionEvents (f : Json) (d : Tree) :
    (definitionEvents f d).flatMap Event.records = [] ∧
      (definitionEvents f d).flatMap Event.bindings = [] := by
  unfold definitionEvents
  split
  · constructor
    · simp [List.flatMap_append, List.flatMap_map, Event.records]
    · simp [List.flatMap_append, List.flatMap_map, Event.bindings]
  · exact ⟨rfl, rfl⟩

/-- What is recorded at the events that a node has of its own is recorded at the node. -/
theorem notes_ownEvents (c : Credit) (f : Json) (d : Tree) :
    (ownEvents c f d).flatMap Event.records = recordsAt f d ∧
      (ownEvents c f d).flatMap Event.bindings = bindingsAt f d := by
  rw [ownEvents, List.flatMap_cons, List.flatMap_cons, Event.records, Event.bindings]
  split
  · simp [notes_definitionEvents]
  · simp

/-- A definition appends its routes, then itself as a processor, then the flow at its node. -/
theorem flowsAlong_ownEvents (known : List (Json × SourceRecord)) (scope : List (Json × Binding))
    (h : d.WellFormed) : flowsAlong known scope (ownEvents .own f d) =
      definedRoutes d ++ definedProcessor d ++ (flowAt known (scope.map (·.1)) f d).toList := by
  rw [ownEvents, flowsAlong, Event.flows]
  by_cases hDefinition : d.kind? = some .functionDef
  · have hCall : flowAt known (scope.map (·.1)) f d = none := flowAt_of_ne (by simp [hDefinition])
    rw [if_pos hDefinition, hCall, Credit.function, flowsAlong_definitionEvents _ _ h hDefinition]
    simp
  · simp [hDefinition, definedRoutes, definedProcessor, flowsAlong]

/-- Along the events of nodes, the flows are those at the nodes. -/
theorem flowsAlong_eq_flowsAfter (hWell : ∀ p ∈ ps, p.2.WellFormed) :
    flowsAlong (knownAfter passed) (boundAfter passed)
        (ps.flatMap fun p => ownEvents .own p.1 p.2) =
      flowsAfter passed ps := by
  induction ps generalizing passed with
  | nil => rfl
  | cons p ps ih =>
      obtain ⟨hFirst, hRest⟩ := List.forall_mem_cons.1 hWell
      have hKnown : setEntries (recordsAt p.1 p.2) (knownAfter passed) =
          knownAfter (passed ++ [p]) := by
        simp [knownAfter, setEntries_append]
      have hBound : setEntries (bindingsAt p.1 p.2) (boundAfter passed) =
          boundAfter (passed ++ [p]) := by
        simp [boundAfter, setEntries_append]
      rw [List.flatMap_cons, flowsAlong_append, flowsAlong_ownEvents _ _ hFirst,
        (notes_ownEvents .own p.1 p.2).1, (notes_ownEvents .own p.1 p.2).2, hKnown, hBound,
        ih hRest, map_fst_boundAfter, flowsAfter]

/-- The routes at a definition are routes, and the flow through it is a processor. -/
theorem filter_defined (d : Tree) :
    (definedRoutes d).filter isRoute = definedRoutes d ∧
      (definedProcessor d).filter isRoute = [] ∧ (definedRoutes d).filter isProcessor = [] ∧
      (definedProcessor d).filter isProcessor = definedProcessor d := by
  have hRoute (f : Json) : isRoute (routeFlow f) = true := rfl
  have hProcessor (f : Json) : isRoute (processorFlow f) = false := rfl
  have hDispatched (f : Json) : isDispatched (processorFlow f) = true := rfl
  unfold definedRoutes definedProcessor isProcessor
  refine ⟨?_, ?_, ?_, ?_⟩
  · split <;> simp [hRoute]
  · split <;> simp [hProcessor]
  · split <;> simp [hRoute]
  · split <;> simp [hProcessor, hDispatched]

/-- The flow at a node is neither a route nor a processor. -/
theorem filter_flowAt (known : List (Json × SourceRecord)) (carriers : List Json) (f : Json)
    (d : Tree) : (flowAt known carriers f d).toList.filter isRoute = [] ∧
      (flowAt known carriers f d).toList.filter isProcessor = [] := by
  cases hFlow : flowAt known carriers f d with
  | none => exact ⟨rfl, rfl⟩
  | some flow => simp [isProcessor, isRoute_of_flowAt hFlow, isDispatched_of_flowAt hFlow]

/-- Among the flows at nodes, the routes and the processors are those of the definitions. -/
theorem filter_flowsAfter (passed ps : List (Json × Tree)) :
    (flowsAfter passed ps).filter isRoute = (ps.map Prod.snd).flatMap definedRoutes ∧
      (flowsAfter passed ps).filter isProcessor = (ps.map Prod.snd).flatMap definedProcessor := by
  induction ps generalizing passed with
  | nil => exact ⟨rfl, rfl⟩
  | cons p ps ih =>
      obtain ⟨hRoutes, hProcessors⟩ := ih (passed ++ [p])
      obtain ⟨hOwn, hNone, hOther, hProcessor⟩ := filter_defined p.2
      obtain ⟨hCall, hCall'⟩ := filter_flowAt (knownAfter passed)
        ((variablesAfter passed).map .str) p.1 p.2
      simp only [flowsAfter, List.filter_append, List.map_cons, List.flatMap_cons, hRoutes,
        hProcessors, hOwn, hNone, hOther, hProcessor, hCall, hCall', List.append_nil,
        List.nil_append, and_self]

/-- The entry points at the events of a node are those of a definition with a route. -/
theorem mem_endpoints_ownEvents {name : Text} (h : d.WellFormed) :
    name ∈ (ownEvents .own f d).flatMap Event.endpoints ↔ d.kind? = some .functionDef ∧
      (∃ decorator ∈ d.decorators, registersRoute decorator = true) ∧
        name = httpEndpoint d.definedName := by
  have hNode : (Event.node f d).endpoints = [] := rfl
  rw [ownEvents, List.flatMap_cons, hNode, List.nil_append]
  by_cases hDefinition : d.kind? = some .functionDef
  · rw [if_pos hDefinition, definitionEvents_eq h hDefinition, Credit.function,
      inner_eq_definedName h hDefinition]
    simp only [hDefinition, true_and, List.flatMap_append, List.flatMap_map, List.flatMap_cons,
      List.flatMap_nil, List.append_nil, List.mem_flatMap, Event.endpoints, Json.display]
    constructor
    · rintro ⟨decorator, hDecorator, hName⟩
      split at hName
      · next hRoute => exact ⟨⟨decorator, hDecorator, hRoute⟩, List.mem_singleton.1 hName⟩
      · cases hName
    · rintro ⟨⟨decorator, hDecorator, hRoute⟩, rfl⟩
      exact ⟨decorator, hDecorator, by rw [if_pos hRoute]; exact List.mem_singleton_self _⟩
  · simp [hDefinition]

/-- An analysis without a trace gets to the end of every tree. -/
theorem reached_walked (es : List Event) : reached Mode.walked.manner es = es := by
  rw [reached_eq_self_iff]
  intro e _ hStops
  cases e with
  | decorator f t => exact absurd hStops.1 Bool.false_ne_true
  | _ => exact hStops

/-- A visit without a trace that credits decorators to the functions that they decorate. It has a
result. The entry points are those of the plain definitions, at any depth, that have a decorator
which registers a route. In the order of the nodes, there is one route for each such decorator and
one processor for each definition that is one, and these are all. The routes of a definition come
before the flow through it, and both before the flows at the nodes that follow, of which the first
are those inside the definition. -/
theorem visit_credits_definitions [Output] (t : Tree) (h : t.WellFormed) :
    ∃ b, (visit Mode.walked.manner t).perform {} = (.ok (), b) ∧
      (∀ name, name ∈ b.entryPoints ↔ ∃ d ∈ t.nodes, d.kind? = some .functionDef ∧
        (∃ decorator ∈ d.decorators, registersRoute decorator = true) ∧
          name = httpEndpoint d.definedName) ∧
      b.flows.filter isRoute = t.nodes.flatMap definedRoutes ∧
      b.flows.filter isProcessor = t.nodes.flatMap definedProcessor ∧
      (nodesWithin .null t).map Prod.snd = t.nodes ∧
      b.flows = flowsAfter [] (nodesWithin .null t) ∧
      ∀ before f d rest, nodesWithin .null t = before ++ (f, d) :: rest →
        d.kind? = some .functionDef →
        d.inside <+: rest.map Prod.snd ∧
          b.flows = flowsAfter [] before ++ definedRoutes d ++ definedProcessor d ++
            flowsAfter (before ++ [(f, d)]) rest := by
  have hNodes : ∀ p ∈ nodesWithin .null t, p.2.WellFormed := nodesWithin_wellFormed h
  have hNoted := visit_notedAll (m := Mode.walked.manner) (a := {}) (.inl rfl) h
  have hOk := (visit_ok_iff (m := Mode.walked.manner) (a := {}) (.inl rfl) h).2 nofun
  rw [reached_walked] at hNoted
  change NotedAll (events .own .null t) _ _ at hNoted
  rw [events_own] at hNoted
  have hFlows : ((visit Mode.walked.manner t).perform {}).2.flows =
      flowsAfter [] (nodesWithin .null t) := by
    rw [hNoted.flows, ← flowsAlong_eq_flowsAfter hNodes]
    rfl
  refine ⟨_, Prod.ext hOk rfl, fun name => ?_, ?_, ?_, map_snd_nodesWithin t .null, hFlows, ?_⟩
  · rw [hNoted.entryPoints, mem_foldl_insertNew, List.flatMap_assoc, List.mem_flatMap,
      ← map_snd_nodesWithin t .null]
    constructor
    · rintro (hNone | ⟨p, hNode, hName⟩)
      · cases hNone
      · exact ⟨p.2, List.mem_map_of_mem hNode, (mem_endpoints_ownEvents (hNodes p hNode)).1 hName⟩
    · rintro ⟨d, hMember, hName⟩
      obtain ⟨p, hNode, rfl⟩ := List.mem_map.1 hMember
      exact .inr ⟨p, hNode, (mem_endpoints_ownEvents (hNodes p hNode)).2 hName⟩
  · rw [hFlows, (filter_flowsAfter _ _).1, map_snd_nodesWithin]
  · rw [hFlows, (filter_flowsAfter _ _).2, map_snd_nodesWithin]
  · intro before f d rest hSplit hDefinition
    constructor
    · have hNodesSplit : t.nodes = before.map Prod.snd ++ d :: rest.map Prod.snd := by
        rw [← map_snd_nodesWithin t .null, hSplit, List.map_append, List.map_cons]
      exact Tree.inside_follows t hNodesSplit
    · have hCall (known : List (Json × SourceRecord)) (carriers : List Json) :
          flowAt known carriers f d = none := flowAt_of_ne (by simp [hDefinition])
      rw [hFlows, hSplit, flowsAfter_append, flowsAfter, hCall]
      simp

/-- A function that processes every request and has two routes, with a response and a function with
a route in it. -/
def routedProcessor : Tree := .ofStatements [
  .ofDefinition "before_request" [.ofMethod "app" "route" [], .ofMethod "app" "get" []] [
    .node .exprStmt default [.ofMethod "flask" "jsonify" []],
    .ofDefinition "item" [.ofMethod "app" "post" []] [.node .passStmt default []]]]

/-- The visit finds the function inside as an entry point, and the flows of the outer one in order:
its two routes, the flow through it and the response. The route of the inner one is the last. -/
theorem visit_credits_definitions_twice : routedProcessor.WellFormed ∧
    ∃ b, (visit Mode.walked.manner routedProcessor).perform {} = (.ok (), b) ∧
      httpEndpoint "item" ∈ b.entryPoints ∧
      b.flows = [routeFlow (.str "before_request"), routeFlow (.str "before_request"),
        processorFlow (.str "before_request"),
        ⟨.str "before_request", .str "before_request::jsonify", [.str "before_request"], []⟩,
        routeFlow (.str "item")] := by
  have hWell : routedProcessor.WellFormed := by decide
  obtain ⟨b, hVisit, hEntryPoints, -, -, -, hFlows, -⟩ :=
    visit_credits_definitions routedProcessor hWell
  refine ⟨hWell, b, hVisit, (hEntryPoints _).2 ?_, hFlows⟩
  have hItem : .ofDefinition "item" [.ofMethod "app" "post" []] [.node .passStmt default []] ∈
      routedProcessor.nodes := List.mem_of_getElem? (i := 9) rfl
  exact ⟨_, hItem, rfl, ⟨_, List.mem_singleton_self _, rfl⟩, rfl⟩

end RepoAudit.Flask
