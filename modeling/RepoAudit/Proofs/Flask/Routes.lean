import Mathlib.Data.List.Perm.Subperm
import RepoAudit.Flow.Session
import RepoAudit.Proofs.Flask.Run

/-!
The routes of a tree. A route belongs to the function that its decorator decorates, but it is found
for the function around that one. Main statement: what is found is right exactly where the two
agree, up to order.
-/
namespace RepoAudit.Flask

open Syntax

/-- Whether a flow leads from the network into a function by a route. -/
def isRoute (flow : DataFlow) : Bool :=
  match flow.path with
  | first :: second :: _ :: _ =>
    first.isOneOf ["wsgi_app"] && second.isOneOf ["dispatch_request"]
  | _ => false

/-- The function that is credited with the route that is registered at an event. -/
def Event.route? : Event → Option Json
  | .decorator f t => if registersRoute t then some f else none
  | _ => none

/-- The functions that are credited with the routes of a tree by a standard visit, in the order in
which the routes are found. -/
def routesFound (t : Tree) : List Json :=
  (reached .standard (events .enclosing .null t)).filterMap Event.route?

/-- For each decorator of a plain definition that registers a route, the function around the
definition. -/
def routesAround (t : Tree) : List Json :=
  (nodesWithin .null t).flatMap fun (f, d) =>
    if d.kind? = some .functionDef then (d.decorators.filter registersRoute).map fun _ => f else []

/-- For each decorator of a definition that registers a route, the function that is defined. -/
def routesDefined (t : Tree) : List Json :=
  (t.nodes.filter Tree.isDefinition).flatMap fun d =>
    (d.decorators.filter registersRoute).map fun _ => .str d.definedName

/-- An analysis has found each route of a tree for the function that it decorates. -/
structure FindsRoutes (t : Tree) (b : Analysis) : Prop where
  entryPoints : ∀ name, name ∈ b.entryPoints ↔ ∃ d ∈ t.nodes, d.isDefinition ∧
    (∃ decorator ∈ d.decorators, registersRoute decorator) ∧ name = httpEndpoint d.definedName
  flows : (b.flows.filter isRoute).Perm ((routesDefined t).map routeFlow)

variable {es : List Event} {t : Tree}

/-- The flow of a route tells its function. -/
theorem routeFlow_injective : Function.Injective routeFlow := by
  intro f g hFlow
  exact congrArg DataFlow.sink hFlow

/-- Entry points are those of the routes. -/
theorem flatMap_endpoints :
    es.flatMap Event.endpoints =
      (es.filterMap Event.route?).map fun f => httpEndpoint f.display := by
  induction es with
  | nil => rfl
  | cons e es ih =>
      rw [List.flatMap_cons, ih]
      cases e with
      | decorator f t =>
          by_cases hRoute : registersRoute t = true
          · simp [Event.endpoints, Event.route?, hRoute]
          · simp [Event.endpoints, Event.route?, hRoute]
      | node f t => simp [Event.endpoints, Event.route?, List.filterMap_cons]
      | defined f => simp [Event.endpoints, Event.route?, List.filterMap_cons]
      | broken f fault => simp [Event.endpoints, Event.route?, List.filterMap_cons]

/-- A call is no route. -/
theorem isRoute_of_flowAt {known : List (Json × SourceRecord)} {carriers : List Json} {f : Json}
    {flow : DataFlow} (h : flowAt known carriers f t = some flow) : isRoute flow = false := by
  unfold flowAt at h
  split at h
  · split at h
    · cases h
      rfl
    · split at h
      · cases h
        rfl
      · cases h
  · cases h

/-- Among the flows along events, those of routes are in the order of the decorators. -/
theorem filter_isRoute_flowsAlong (known : List (Json × SourceRecord))
    (scope : List (Json × Binding)) :
    (flowsAlong known scope es).filter isRoute = (es.filterMap Event.route?).map routeFlow := by
  induction es generalizing known scope with
  | nil => rfl
  | cons e es ih =>
      rw [flowsAlong, List.filter_append, ih]
      cases e with
      | decorator f t =>
          by_cases hRoute : registersRoute t = true
          · have hIs : isRoute (routeFlow f) = true := rfl
            simp [Event.flows, Event.route?, hRoute, hIs]
          · simp [Event.flows, Event.route?, hRoute]
      | node f t =>
          rcases hFlow : flowAt known (scope.map (·.1)) f t with _ | flow
          · simp [Event.flows, Event.route?, List.filterMap_cons, hFlow]
          · simp [Event.flows, Event.route?, List.filterMap_cons, hFlow, isRoute_of_flowAt hFlow]
      | defined f =>
          have hIs : isRoute (processorFlow f) = false := rfl
          by_cases hProcesses : f.isOneOf processors = true
          · simp [Event.flows, Event.route?, List.filterMap_cons, hProcesses, hIs]
          · simp [Event.flows, Event.route?, List.filterMap_cons, hProcesses]
      | broken f fault => simp [Event.flows, Event.route?, List.filterMap_cons]

/-- The routes that are registered at a definition are credited to the function around it. -/
theorem filterMap_route?_ownEvents {f : Json} {d : Tree} (h : d.WellFormed) :
    (ownEvents .enclosing f d).filterMap Event.route? =
      if d.kind? = some .functionDef then (d.decorators.filter registersRoute).map fun _ => f
      else [] := by
  have hNode : (Event.node f d).route? = none := rfl
  rw [ownEvents, List.filterMap_cons_none hNode]
  split
  · next hDefinition =>
      rw [definitionEvents_eq h hDefinition, List.filterMap_append, List.filterMap_map]
      have hDefined : [Event.defined f].filterMap Event.route? = [] := rfl
      rw [Credit.function, hDefined, List.append_nil]
      induction d.decorators with
      | nil => rfl
      | cons decorator rest ih =>
          by_cases hRoute : registersRoute decorator = true
          · have hFirst : (Event.route? ∘ Event.decorator f) decorator = some f := if_pos hRoute
            rw [List.filterMap_cons_some hFirst, List.filter_cons_of_pos hRoute, List.map_cons, ih]
          · have hFirst : (Event.route? ∘ Event.decorator f) decorator = none := if_neg hRoute
            rw [List.filterMap_cons_none hFirst, List.filter_cons_of_neg hRoute, ih]
  · rfl

/-- Credited to the function around, each route of a tree is found once. -/
theorem filterMap_route?_events (h : t.WellFormed) :
    ((events .enclosing .null t).filterMap Event.route?).Perm (routesAround t) := by
  have hWell := nodesWithin_wellFormed (f := .null) h
  refine ((events_perm .enclosing t .null).filterMap _).trans ?_
  rw [List.filterMap_flatMap, routesAround]
  refine .of_eq (List.flatMap_congr fun p hNode => ?_)
  exact filterMap_route?_ownEvents (hWell p hNode)

/-- What is found was registered. -/
theorem routesFound_subperm (h : t.WellFormed) : (routesFound t).Subperm (routesAround t) :=
  ((List.takeWhile_sublist _).filterMap _).subperm.trans (filterMap_route?_events h).subperm

/-- What was registered is found, if the visit gets to the end. -/
theorem routesFound_perm [Output] (h : t.WellFormed)
    (hOk : ((visit .standard t).perform {}).1 = .ok ()) :
    (routesFound t).Perm (routesAround t) := by
  rw [perform_visit h, run_ok_iff (events_wellFormed (.inl rfl) h)] at hOk
  have hAll : reached .standard (events .enclosing .null t) = events .enclosing .null t :=
    reached_eq_self_iff.2 hOk
  rw [routesFound, hAll]
  exact filterMap_route?_events h

/-- The routes that a tree defines belong to its decorated definitions. -/
theorem mem_routesDefined {f : Json} : f ∈ routesDefined t ↔ ∃ d ∈ t.nodes, d.isDefinition ∧
    (∃ decorator ∈ d.decorators, registersRoute decorator) ∧ f = .str d.definedName := by
  simp only [routesDefined, List.mem_flatMap, List.mem_filter, List.mem_map]
  constructor
  · rintro ⟨d, ⟨hNode, hDefinition⟩, decorator, hDecorator, rfl⟩
    exact ⟨d, hNode, hDefinition, ⟨decorator, hDecorator⟩, rfl⟩
  · rintro ⟨d, hNode, hDefinition, ⟨decorator, hDecorator⟩, rfl⟩
    exact ⟨d, ⟨hNode, hDefinition⟩, decorator, hDecorator, rfl⟩

/-- Routes are found right if they are found for the functions that they decorate. -/
theorem findsRoutes_iff {routes : List Json} {b : Analysis}
    (hEntryPoints : b.entryPoints = (routes.map fun f => httpEndpoint f.display).eraseDups)
    (hFlows : b.flows.filter isRoute = routes.map routeFlow) :
    FindsRoutes t b ↔ routes.Perm (routesDefined t) := by
  constructor
  · intro hFinds
    have hPerm := hFinds.flows
    rwa [hFlows, List.map_perm_map_iff routeFlow_injective] at hPerm
  · intro hPerm
    refine ⟨fun name => ?_, hFlows ▸ hPerm.map routeFlow⟩
    rw [hEntryPoints, List.mem_eraseDups, List.mem_map]
    constructor
    · rintro ⟨f, hRoute, rfl⟩
      rw [hPerm.mem_iff, mem_routesDefined] at hRoute
      obtain ⟨d, hNode, hDefinition, hDecorator, rfl⟩ := hRoute
      exact ⟨d, hNode, hDefinition, hDecorator, rfl⟩
    · rintro ⟨d, hNode, hDefinition, hDecorator, rfl⟩
      refine ⟨.str d.definedName, ?_, rfl⟩
      rw [hPerm.mem_iff, mem_routesDefined]
      exact ⟨d, hNode, hDefinition, hDecorator, rfl⟩

/-- A visit finds the routes of a tree for the functions around the definitions that are decorated,
unless a decorator that cannot be shown stops it before. It finds them right exactly if these are
the functions that are decorated. -/
theorem visit_finds_routes_around [Output] (t : Tree) (h : t.WellFormed) :
    ((visit .standard t).perform {}).2.entryPoints =
        ((routesFound t).map fun f => httpEndpoint f.display).eraseDups ∧
      ((visit .standard t).perform {}).2.flows.filter isRoute = (routesFound t).map routeFlow ∧
      (routesFound t).Subperm (routesAround t) ∧
      (DecoratorsShowable t → (routesFound t).Perm (routesAround t)) ∧
      (FindsRoutes t ((visit .standard t).perform {}).2 ↔
        (routesFound t).Perm (routesDefined t)) := by
  have hNoted := visit_notedAll (m := .standard) (a := {}) (.inl rfl) h
  have hEntryPoints := hNoted.entryPoints
  rw [flatMap_endpoints, foldl_insertNew] at hEntryPoints
  have hFlows : ((visit .standard t).perform {}).2.flows.filter isRoute =
      (routesFound t).map routeFlow := by
    rw [hNoted.flows, List.filter_append, filter_isRoute_flowsAlong]
    rfl
  refine ⟨hEntryPoints, hFlows, routesFound_subperm h, fun hShown => ?_,
    findsRoutes_iff hEntryPoints hFlows⟩
  exact routesFound_perm h ((visit_ok_iff (.inl rfl) h).2 fun _ => hShown)

/-- A source with one route, to the function `index`. -/
def indexTree : Tree :=
  .ofStatements [.ofDefinition "index" [.ofMethod "app" "route" []] [.node .passStmt default []]]

/-- The route to a function at the top level is found for no function. -/
theorem visit_finds_routes_around_index : indexTree.WellFormed ∧
    ((visit .standard indexTree).perform {}).2.entryPoints = ["None (HTTP endpoint)"] ∧
    ((visit .standard indexTree).perform {}).2.flows.filter isRoute = [routeFlow .null] ∧
    ¬FindsRoutes indexTree ((visit .standard indexTree).perform {}).2 := by
  have hWell : indexTree.WellFormed := by decide
  obtain ⟨hEntryPoints, hFlows, -, -, hFinds⟩ := visit_finds_routes_around indexTree hWell
  have hFound : routesFound indexTree = [.null] := rfl
  have hDefined : routesDefined indexTree = [.str "index"] := rfl
  rw [hFound] at hEntryPoints hFlows
  refine ⟨hWell, hEntryPoints, hFlows, fun hRight => ?_⟩
  have hPerm := hFinds.1 hRight
  rw [hFound, hDefined, List.singleton_perm_singleton] at hPerm
  cases hPerm

end RepoAudit.Flask
