import Mathlib.Algebra.BigOperators.Group.List.Basic
import RepoAudit.Flow.Project
import RepoAudit.Proofs.Flask.Separate

/-!
The two ways to credit decorators, side by side. An analysis that credits them to the enclosing
function and has a trace goes through the same nodes as one that credits them to the function itself
and has none. Main statement: from states that agree, both find the same apart from what is
dispatched to functions, and equally many routes, if the traced one does not fail. If it fails, it
finds the beginning.
-/
namespace RepoAudit.Flask

open Syntax Analysis

namespace Action

def isDispatch : Action → Bool
  | point _ => true
  | flow found => isDispatched found
  | _ => false

/-- Whether an action notes something else than what is dispatched. -/
def isCore (action : Action) : Bool := action.isNote && !action.isDispatch

/-- Whether an action appends a flow over three stations, as routes have. -/
def isRoute : Action → Bool
  | flow found => found.path.length == 3
  | _ => false

end Action

/-- The notes apart from what is dispatched. -/
def core (actions : List Action) : List Action := actions.filter Action.isCore

def routes (actions : List Action) : Nat := actions.countP Action.isRoute

section Core

variable (actions : List Action) (a : Analysis)

theorem core_append (first second : List Action) :
    core (first ++ second) = core first ++ core second :=
  List.filter_append _ _

/-- Printing is no part of the core. -/
theorem filter_notes : (notes actions).filter Action.isCore = core actions := by
  rw [notes, core, List.filter_filter]
  refine List.filter_congr fun action _ => ?_
  cases action <;> simp [Action.isCore, Action.isNote]

/-- Printing notes no route. -/
theorem routes_notes : routes (notes actions) = routes actions := by
  rw [notes, routes, List.countP_filter]
  refine List.countP_congr fun action _ => ?_
  cases action <;> simp [Action.isRoute, Action.isNote]

theorem core_cons_of_pos {action : Action} (h : action.isCore = true) :
    core (action :: actions) = action :: core actions :=
  List.filter_cons_of_pos h

theorem core_cons_of_neg {action : Action} (h : ¬action.isCore = true) :
    core (action :: actions) = core actions :=
  List.filter_cons_of_neg h

/-- Actions other than those in the core can be left out where nothing depends on them. -/
theorem flatMap_core {α : Type} {added : Action → List α}
    (hOthers : ∀ action : Action, action.isCore = false → added action = []) :
    (core actions).flatMap added = actions.flatMap added := by
  induction actions with
  | nil => rfl
  | cons action actions ih =>
      by_cases hCore : action.isCore = true
      · rw [core_cons_of_pos _ hCore, List.flatMap_cons, List.flatMap_cons, ih]
      · rw [core_cons_of_neg _ hCore, ih, List.flatMap_cons,
          hOthers action (Bool.eq_false_iff.2 hCore), List.nil_append]

/-- What is dispatched to a function records no source. -/
theorem play_core_sources : (play (core actions) a).sources = (play actions a).sources := by
  rw [play_sources, play_sources, flatMap_core]
  intro action hOther
  cases action <;> first | rfl | cases hOther

/-- What is dispatched to a function assigns nothing. -/
theorem play_core_scope : (play (core actions) a).scope = (play actions a).scope := by
  rw [play_scope, play_scope, flatMap_core]
  intro action hOther
  cases action <;> first | rfl | cases hOther

/-- Apart from what is dispatched, the flows are those of the core. -/
theorem filter_flowsOf :
    (flowsOf actions a).filter (fun flow => !isDispatched flow) = flowsOf (core actions) a := by
  induction actions generalizing a with
  | nil => rfl
  | cons action actions ih =>
      rw [flowsOf, List.filter_append, ih]
      by_cases hCore : action.isCore = true
      · rw [core_cons_of_pos _ hCore, flowsOf]
        refine congrArg (· ++ _) (List.filter_eq_self.2 fun flow hFlow => ?_)
        cases action with
        | flow found =>
            rw [List.mem_singleton.1 hFlow]
            exact hCore
        | respond function sink =>
            rw [List.mem_singleton.1 hFlow]
            rfl
        | _ => cases hFlow
      · rw [core_cons_of_neg _ hCore]
        have hNone : (action.flows a).filter (fun flow => !isDispatched flow) = [] := by
          refine List.filter_eq_nil_iff.2 fun flow hFlow => ?_
          cases action with
          | flow found =>
              rw [List.mem_singleton.1 hFlow]
              exact hCore
          | respond function sink => exact absurd rfl hCore
          | _ => cases hFlow
        rw [hNone, List.nil_append]
        refine flowsOf_congr _ _ _ ?_ ?_
        · cases action <;> first | rfl | exact absurd rfl hCore
        · cases action <;> first | rfl | exact absurd rfl hCore

/-- The flows of routes are told by the length of their paths. -/
theorem countP_flowsOf :
    (flowsOf actions a).countP (fun flow => flow.path.length == 3) = routes actions := by
  induction actions generalizing a with
  | nil => rfl
  | cons action actions ih =>
      have hFirst : (action.flows a).countP (fun flow => flow.path.length == 3) =
          if action.isRoute then 1 else 0 := by
        cases action <;> simp [Action.flows, Action.isRoute, List.countP_singleton]
      rw [flowsOf, List.countP_append, ih, hFirst, Nat.add_comm, routes, routes, List.countP_cons]

end Core

/-- The first course has the core of the second, or it is a fault and has the beginning. -/
def Precedes (first second : Course) : Prop :=
  core first.2 <+: core second.2 ∧
    (first.1 = .ok () → second.1 = .ok () ∧ core first.2 = core second.2)

section Precedes

variable {first second third last : Course}

theorem Precedes.refl (course : Course) : Precedes course course :=
  ⟨List.prefix_refl _, fun hOk => ⟨hOk, rfl⟩⟩

theorem Precedes.trans (hFirst : Precedes first second) (hSecond : Precedes second third) :
    Precedes first third := by
  refine ⟨hFirst.1.trans hSecond.1, fun hOk => ?_⟩
  obtain ⟨hMiddle, hSame⟩ := hFirst.2 hOk
  exact ⟨(hSecond.2 hMiddle).1, hSame.trans (hSecond.2 hMiddle).2⟩

/-- What follows a course leaves its core at the beginning. -/
theorem core_prefix_andThen (first second : Course) :
    core first.2 <+: core (first.andThen second).2 := by
  rcases first with ⟨fault | _, actions⟩
  · exact List.prefix_refl _
  · rw [Course.andThen, core_append]
    exact List.prefix_append _ _

/-- Courses in turn precede those that each precedes. -/
theorem Precedes.andThen (hHere : Precedes first second) (hRest : Precedes third last) :
    Precedes (first.andThen third) (second.andThen last) := by
  rcases first with ⟨fault | _, actions⟩
  · exact ⟨hHere.1.trans (core_prefix_andThen second last), nofun⟩
  · obtain ⟨hOk, hSame⟩ := hHere.2 rfl
    rcases second with ⟨fault | _, others⟩
    · cases hOk
    · simp only [Precedes, Course.andThen, core_append]
      rw [show core actions = core others from hSame]
      refine ⟨(List.prefix_append_right_inj _).2 hRest.1, fun hDone => ?_⟩
      rw [(hRest.2 hDone).2]
      exact ⟨(hRest.2 hDone).1, rfl⟩

/-- What notes only what is dispatched may come first. -/
theorem precedes_of_silent (hSilent : core first.2 = []) :
    Precedes (first.andThen second) second := by
  rcases first with ⟨fault | _, actions⟩
  · refine ⟨?_, nofun⟩
    rw [Course.andThen, hSilent]
    exact List.nil_prefix
  · rw [Precedes, Course.andThen, core_append, hSilent, List.nil_append]
    exact ⟨List.prefix_refl _, fun hOk => ⟨hOk, rfl⟩⟩

/-- A course without a core may be put before another. -/
theorem precedes_silent (hSilent : core first.2 = []) (hOk : first.1 = .ok ()) :
    Precedes second (first.andThen second) := by
  rcases first with ⟨fault | _, actions⟩
  · cases hOk
  · rw [Precedes, Course.andThen, core_append, hSilent, List.nil_append]
    exact ⟨List.prefix_refl _, fun hOk => ⟨hOk, rfl⟩⟩

end Precedes

/-- The number of routes at an event other than a node. -/
def Event.routes : Event → Nat
  | .decorator _ t => if registers t then 1 else 0
  | _ => 0

/-- Only what is dispatched is noted, and each route. -/
def Dispatches (e : Event) (course : Course) : Prop :=
  core course.2 = [] ∧ (course.1 = .ok () → routes course.2 = e.routes)

/-- The courses of an event for an analysis that may be traced and for one that is not. -/
structure Paired [Output] (m n : Manner) (e : Event) (first second : Course) : Prop where
  loud : Scripted e.function e.function (e.work m) first.1 first.2
  quiet : Scripted e.function e.function (e.work n) second.1 second.2
  dispatches : e.node? = none → Dispatches e first ∧ Dispatches e second
  precedes : e.node? ≠ none → Precedes first second
  routes : e.node? ≠ none → first.1 = .ok () → routes first.2 = routes second.2

variable {m n : Manner} {f g : Json} {t : Tree} {a b : Analysis} {e : Event}
  {loud quiet : Event → Course} {es : List Event}

/-- Notes that are all dispatched leave no core. -/
theorem dispatches_of_within [Output] {expected : List Action}
    (h : Within e.function (e.work m) (.ok ()) expected) (hCore : core expected = [])
    (hRoutes : routes expected = e.routes) :
    ∃ course : Course, Scripted e.function e.function (e.work m) course.1 course.2 ∧
      Dispatches e course := by
  obtain ⟨result, actions, hScript, hBegin, hSame⟩ := h
  refine ⟨(result, actions), hScript, ?_, fun hOk => ?_⟩
  · rw [← filter_notes]
    have hPrefix := hBegin.filter Action.isCore
    rw [show expected.filter Action.isCore = [] from hCore] at hPrefix
    exact List.prefix_nil.1 hPrefix
  · rw [← routes_notes, (hSame () hOk).2, hRoutes]

/-- An event other than a node does not depend on what is known, and notes only what is dispatched.
-/
theorem exists_dispatches [Output] (m : Manner) (hEvent : e.node? = none) :
    ∃ course : Course, Scripted e.function e.function (e.work m) course.1 course.2 ∧
      Dispatches e course := by
  cases e with
  | node f t => cases hEvent
  | decorator f t =>
      refine dispatches_of_within (within_noteDecorator m f t) ?_ ?_
      · unfold routeNotes
        split <;> rfl
      · rw [routeNotes, Event.routes]
        split <;> rfl
  | defined f =>
      refine dispatches_of_within (within_noteProcessor f) ?_ ?_
      · unfold processorNotes
        split <;> rfl
      · unfold processorNotes
        split <;> rfl
  | broken f fault =>
      refine ⟨(.error fault, []), scripted_attempt (.error fault), rfl, fun hOk => ?_⟩
      cases hOk

/-- Every event has a course with the trace and one without. -/
theorem exists_paired [Output] (hSilent : n.traced = false) (e : Event) :
    ∃ courses : Course × Course, Paired m n e courses.1 courses.2 := by
  by_cases hEvent : e.node? = none
  · obtain ⟨loud, hLoud, hFirst⟩ := exists_dispatches m hEvent
    obtain ⟨quiet, hQuiet, hSecond⟩ := exists_dispatches n hEvent
    exact ⟨(loud, quiet), hLoud, hQuiet, fun _ => ⟨hFirst, hSecond⟩, fun h => absurd hEvent h,
      fun h => absurd hEvent h⟩
  · cases e with
    | node f t =>
        obtain ⟨result', actions', hQuiet, result, actions, hLoud, hBegin, hSame⟩ :=
          quiets_bind (quiets_askValue f t) fun _ =>
            quiets_enterNode (m := m) (n := n) hSilent f t
        refine ⟨((result, actions), (result', actions')), hLoud, hQuiet, fun h => absurd h hEvent,
          fun _ => ⟨?_, fun hOk => ⟨(hSame () hOk).1, ?_⟩⟩, fun _ hOk => ?_⟩
        · rw [← filter_notes, ← filter_notes]
          exact hBegin.filter _
        · rw [← filter_notes, ← filter_notes, (hSame () hOk).2]
        · rw [← routes_notes, (hSame () hOk).2, routes_notes]
    | _ => exact absurd rfl hEvent

def nodeEvents (es : List Event) : List Event :=
  (es.filterMap Event.node?).map fun (f, t) => .node f t

theorem nodeEvents_cons_of_none (hNode : e.node? = none) :
    nodeEvents (e :: es) = nodeEvents es := by
  rw [nodeEvents, List.filterMap_cons_none hNode, nodeEvents]

theorem nodeEvents_cons_node (f : Json) (t : Tree) (es : List Event) :
    nodeEvents (.node f t :: es) = .node f t :: nodeEvents es := rfl

section Courses

variable [Output] (hPairs : ∀ e, Paired m n e (loud e) (quiet e))
include hPairs

/-- Without the events other than nodes, a run gets at least as far. -/
theorem precedes_nodeEvents (es : List Event) :
    Precedes (courseOf loud es) (courseOf loud (nodeEvents es)) := by
  induction es with
  | nil => exact .refl _
  | cons e es ih =>
      rcases hNode : e.node? with _ | ⟨f, t⟩
      · rw [nodeEvents_cons_of_none hNode]
        exact (precedes_of_silent ((hPairs e).dispatches hNode).1.1).trans ih
      · obtain rfl := eq_node_of_node? hNode
        rw [nodeEvents_cons_node]
        exact (Precedes.refl _).andThen ih

/-- At nodes, a run without a trace gets at least as far. -/
theorem precedes_quiet (es : List Event) :
    Precedes (courseOf loud (nodeEvents es)) (courseOf quiet (nodeEvents es)) := by
  unfold nodeEvents
  induction es.filterMap Event.node? with
  | nil => exact .refl _
  | cons p ps ih => exact ((hPairs (.node p.1 p.2)).precedes nofun).andThen ih

/-- Events other than nodes that do not fail can be put in. -/
theorem precedes_of_nodeEvents (hOk : ∀ e ∈ es, e.node? = none → (quiet e).1 = .ok ()) :
    Precedes (courseOf quiet (nodeEvents es)) (courseOf quiet es) := by
  induction es with
  | nil => exact .refl _
  | cons e es ih =>
      obtain ⟨hHere, hRest⟩ := List.forall_mem_cons.1 hOk
      rcases hNode : e.node? with _ | ⟨f, t⟩
      · rw [nodeEvents_cons_of_none hNode]
        exact (ih hRest).trans (precedes_silent ((hPairs e).dispatches hNode).2.1 (hHere hNode))
      · obtain rfl := eq_node_of_node? hNode
        rw [nodeEvents_cons_node]
        exact (Precedes.refl _).andThen (ih hRest)

end Courses

/-- A course without a fault goes through all events. -/
theorem courseOf_ok {script : Event → Course} (hOk : (courseOf script es).1 = .ok ()) :
    (∀ e ∈ es, (script e).1 = .ok ()) ∧
      routes (courseOf script es).2 = (es.map fun e => routes (script e).2).sum := by
  induction es with
  | nil => exact ⟨nofun, rfl⟩
  | cons e es ih =>
      rw [courseOf] at hOk ⊢
      rcases hCourse : script e with ⟨fault | _, actions⟩
      · rw [hCourse] at hOk
        cases hOk
      · rw [hCourse] at hOk
        obtain ⟨hRest, hRoutes⟩ := ih hOk
        refine ⟨List.forall_mem_cons.2 ⟨by rw [hCourse], hRest⟩, ?_⟩
        rw [Course.andThen, List.map_cons, List.sum_cons, ← hRoutes, hCourse]
        exact List.countP_append

/-- The number of routes at an event, where the script says it for nodes. -/
def routesAt (script : Event → Course) (e : Event) : Nat :=
  match e with
  | .node f t => routes (script (.node f t)).2
  | e => e.routes

/-- Away from nodes the routes depend on the event alone. -/
theorem routesAt_of_none {script : Event → Course} (hNode : e.node? = none) :
    routesAt script e = e.routes := by
  cases e with
  | node f t => cases hNode
  | _ => rfl

theorem routesAt_of_ne {script : Event → Course} (hNode : e.node? ≠ none) :
    routesAt script e = routes (script e).2 := by
  cases e with
  | node f t => rfl
  | _ => exact absurd rfl hNode

/-- The routes at the decorators of a definition do not depend on the function that is credited. -/
theorem map_routesAt_definitionEvents (script : Event → Course) (f g : Json) (t : Tree) :
    (definitionEvents f t).map (routesAt script) =
      (definitionEvents g t).map (routesAt script) := by
  unfold definitionEvents
  split
  · rw [List.map_append, List.map_append, List.map_map, List.map_map]
    rfl
  · rfl

/-- To whom a definition is credited does not change its routes. -/
theorem map_routesAt_ownEvents (script : Event → Course) (c d : Credit) (f : Json) (t : Tree) :
    (ownEvents c f t).map (routesAt script) = (ownEvents d f t).map (routesAt script) := by
  rw [ownEvents, ownEvents, List.map_cons, List.map_cons]
  split
  · rw [map_routesAt_definitionEvents]
  · rfl

/-- Nor do those of a tree, up to their order. -/
theorem map_routesAt_events (script : Event → Course) (c d : Credit) (f : Json) (t : Tree) :
    ((events c f t).map (routesAt script)).Perm ((events d f t).map (routesAt script)) := by
  refine ((events_perm c t f).map _).trans (.trans ?_ ((events_perm d t f).map _).symm)
  rw [List.map_flatMap, List.map_flatMap]
  exact .of_eq (congrArg (List.flatMap · _) (funext fun (g, node) =>
    map_routesAt_ownEvents script c d g node))

/-- At the decorators of a well-formed tree, an analysis without a trace that credits them to the
functions themselves does not fail. -/
theorem definition_ok [Output] {script : Event → Course} (h : t.WellFormed)
    (hScript : IsScript ⟨.own, false⟩ script) (hEvent : e ∈ events .own f t)
    (hNode : e.node? = none) : (script e).1 = .ok () := by
  have hWell : e.WellFormed := by
    rw [(events_perm .own t f).mem_iff, List.mem_flatMap] at hEvent
    obtain ⟨⟨g, d⟩, hMember, hOwn⟩ := hEvent
    rcases List.mem_cons.1 hOwn with rfl | hCredited
    · cases hNode
    · split at hCredited
      · next hKind =>
          have hTree : d ∈ (nodesWithin .null t).map Prod.snd := by
            rw [map_snd_nodesWithin, ← map_snd_nodesWithin t f]
            exact List.mem_map_of_mem hMember
          obtain ⟨p, hFound, rfl⟩ := List.mem_map.1 hTree
          have hDefinition := nodesWithin_wellFormed h p hFound
          refine definitionEvents_wellFormed ?_ hDefinition hKind e hCredited
          rw [Credit.function, innerFunction_of_definition hKind]
          exact isPlace_inner (.inl rfl) hDefinition
      · cases hCredited
  have hRuns : ¬e.Stops ⟨.own, false⟩ := by
    intro hStops
    cases e with
    | decorator g d => exact absurd hStops.1 Bool.false_ne_true
    | _ => exact hStops
  obtain ⟨b, hOut, -⟩ := handle_noted (a := {}) hWell hRuns
  exact congrArg Prod.fst ((hScript e {}).symm.trans hOut)

/-- Two analyses agree on the current function and on what responses show. -/
structure Agrees (a b : Analysis) : Prop where
  function : a.function = b.function
  sources : a.sources = b.sources
  scope : a.scope = b.scope

/-- The first of some actions append the first of their flows. -/
theorem flowsOf_prefix {first second : List Action} (h : first <+: second) (a : Analysis) :
    flowsOf first a <+: flowsOf second a := by
  obtain ⟨rest, rfl⟩ := h
  rw [flowsOf_append]
  exact List.prefix_append _ _

/-- Actions with the same core keep states in agreement. -/
theorem agrees_play {first second : List Action} (hAgrees : Agrees a b)
    (hSame : core first = core second) (f : Json) :
    Agrees ((play first a).enterFunction f) ((play second b).enterFunction f) where
  function := rfl
  sources := by
    change (play first a).sources = (play second b).sources
    rw [← play_core_sources, ← play_core_sources second, hSame, play_sources, play_sources,
      hAgrees.sources]
  scope := by
    change (play first a).scope = (play second b).scope
    rw [← play_core_scope, ← play_core_scope second, hSame, play_scope, play_scope, hAgrees.scope]

section Visits

variable [Output] (hPairs : ∀ e, Paired m ⟨.own, false⟩ e (loud e) (quiet e)) (h : t.WellFormed)
include hPairs h

/-- Over a well-formed tree, the course without a trace has the same core, or a longer one. The
decorators are left out, then the trace, and the decorators put in at their other places. -/
theorem precedes_visit (f : Json) :
    Precedes (courseOf loud (events m.credit f t)) (courseOf quiet (events .own f t)) := by
  have hNodes : nodeEvents (events m.credit f t) = nodeEvents (events .own f t) := by
    rw [nodeEvents, nodeEvents, filterMap_node?_events, filterMap_node?_events]
  have hFirst := (precedes_nodeEvents hPairs (events m.credit f t)).trans
    (precedes_quiet hPairs (events m.credit f t))
  rw [hNodes] at hFirst
  exact hFirst.trans (precedes_of_nodeEvents hPairs fun e hEvent hNode =>
    definition_ok h (fun e => (hPairs e).quiet) hEvent hNode)

/-- If the course with a trace is one without a fault, both note equally many routes. -/
theorem routes_visit (f : Json) (hOk : (courseOf loud (events m.credit f t)).1 = .ok ()) :
    routes (courseOf loud (events m.credit f t)).2 =
      routes (courseOf quiet (events .own f t)).2 := by
  obtain ⟨hLoud, hFirst⟩ := courseOf_ok hOk
  obtain ⟨hQuiet, hSecond⟩ := courseOf_ok ((precedes_visit hPairs h f).2 hOk).1
  have hLeft : ∀ e ∈ events m.credit f t, routes (loud e).2 = routesAt loud e := by
    intro e hEvent
    by_cases hNode : e.node? = none
    · rw [routesAt_of_none hNode]
      exact ((hPairs e).dispatches hNode).1.2 (hLoud e hEvent)
    · rw [routesAt_of_ne hNode]
  have hRight : ∀ e ∈ events .own f t, routes (quiet e).2 = routesAt loud e := by
    intro e hEvent
    by_cases hNode : e.node? = none
    · rw [routesAt_of_none hNode]
      exact ((hPairs e).dispatches hNode).2.2 (hQuiet e hEvent)
    · have hBoth : e ∈ events m.credit f t := by
        obtain ⟨⟨g, d⟩, hSome⟩ := Option.ne_none_iff_exists'.1 hNode
        have hFound := List.mem_filterMap.2 ⟨e, hEvent, hSome⟩
        rw [filterMap_node?_events, ← filterMap_node?_events m.credit, List.mem_filterMap] at hFound
        obtain ⟨other, hOther, hSame⟩ := hFound
        rwa [eq_node_of_node? hSome, ← eq_node_of_node? hSame]
      rw [routesAt_of_ne hNode]
      exact ((hPairs e).routes hNode (hLoud e hBoth)).symm
  rw [hFirst, hSecond, List.map_congr_left hLeft, List.map_congr_left hRight]
  exact (map_routesAt_events loud m.credit .own f t).sum_eq

end Visits

/-- The courses that the two visits of a well-formed tree take in a function. -/
theorem exists_courses [Output] (m : Manner) (h : t.WellFormed) (f : Json) :
    ∃ first second : Course,
      (∀ a, a.function = f → ∃ g,
        (visit m t).perform a = (first.1, (play first.2 a).enterFunction g)) ∧
      (∀ a, a.function = f → ∃ g,
        (visit ⟨.own, false⟩ t).perform a = (second.1, (play second.2 a).enterFunction g)) ∧
      Precedes first second ∧ (first.1 = .ok () → routes first.2 = routes second.2) := by
  choose courses hPairs using exists_paired (m := m) (n := ⟨.own, false⟩) rfl
  refine ⟨_, _, ?_, ?_, precedes_visit hPairs h f, routes_visit hPairs h f⟩
  · rintro a rfl
    obtain ⟨g, hRun⟩ := run_eq_courseOf (fun e => (hPairs e).loud) a.function
      (events m.credit a.function t)
    exact ⟨g, (perform_visit h).trans (hRun a)⟩
  · rintro a rfl
    obtain ⟨g, hRun⟩ := run_eq_courseOf (fun e => (hPairs e).quiet) a.function
      (events .own a.function t)
    exact ⟨g, (perform_visit h).trans (hRun a)⟩

/-- The flows apart from those that are dispatched to functions. -/
def undispatched (flows : List DataFlow) : List DataFlow :=
  flows.filter fun flow => !isDispatched flow

/-- The number of flows over three stations. -/
def routeCount (flows : List DataFlow) : Nat := flows.countP fun flow => flow.path.length == 3

/-- The traced analysis that credits decorators to the enclosing function, and the other one, visit
a well-formed tree from states that agree. Apart from what is dispatched to functions, the first
finds what the second finds, or the beginning of it. If the first does not fail, neither does the
second, they agree again, and they find the same apart from what is dispatched, with equally many
routes. In a function with a name, or outside of functions, the first does not fail exactly if all
decorators can be shown. -/
theorem visits_agree [Output] (t : Tree) (h : t.WellFormed) (a b : Analysis)
    (hAgrees : Agrees a b) :
    (∃ found found',
      ((visit Mode.sorted.manner t).perform a).2.flows = a.flows ++ found ∧
      ((visit Mode.walked.manner t).perform b).2.flows = b.flows ++ found' ∧
      undispatched found <+: undispatched found' ∧
      (((visit Mode.sorted.manner t).perform a).1 = .ok () →
        ((visit Mode.walked.manner t).perform b).1 = .ok () ∧
        Agrees ((visit Mode.sorted.manner t).perform a).2
          ((visit Mode.walked.manner t).perform b).2 ∧
        undispatched found = undispatched found' ∧ routeCount found = routeCount found')) ∧
    (IsPlace a.function →
      (((visit Mode.sorted.manner t).perform a).1 = .ok () ↔ DecoratorsShowable t)) := by
  obtain ⟨first, second, hFirst, hSecond, hCore, hRoutes⟩ :=
    exists_courses Mode.sorted.manner h a.function
  obtain ⟨g, hLoud⟩ := hFirst a rfl
  obtain ⟨g', hQuiet⟩ := hSecond b hAgrees.function.symm
  change (visit Mode.walked.manner t).perform b = _ at hQuiet
  have hFound : undispatched (flowsOf first.2 a) = flowsOf (core first.2) a := filter_flowsOf _ a
  have hFound' : undispatched (flowsOf second.2 b) = flowsOf (core second.2) a := by
    rw [undispatched, filter_flowsOf]
    exact flowsOf_congr _ _ _ hAgrees.sources.symm hAgrees.scope.symm
  refine ⟨⟨flowsOf first.2 a, flowsOf second.2 b, ?_, ?_, ?_, fun hOk => ?_⟩, fun hPlace => ?_⟩
  · rw [hLoud]
    exact play_flows first.2 a
  · rw [hQuiet]
    exact play_flows second.2 b
  · rw [hFound, hFound']
    exact flowsOf_prefix hCore.1 a
  · have hDone : first.1 = .ok () := (congrArg Prod.fst hLoud).symm.trans hOk
    obtain ⟨hOther, hSame⟩ := hCore.2 hDone
    have hEnd : ((play first.2 a).enterFunction g).function = a.function :=
      visit_function (u := ()) (hDone ▸ hLoud)
    have hEnd' : ((play second.2 b).enterFunction g').function = b.function :=
      visit_function (u := ()) (hOther ▸ hQuiet)
    refine ⟨(congrArg Prod.fst hQuiet).trans hOther, ?_, ?_, ?_⟩
    · obtain rfl : g = g' := hEnd.trans (hAgrees.function.trans hEnd'.symm)
      rw [hLoud, hQuiet]
      exact agrees_play hAgrees hSame g
    · rw [hFound, hFound', hSame]
    · rw [routeCount, routeCount, countP_flowsOf, countP_flowsOf, hRoutes hDone]
  · rw [visit_ok_iff hPlace h]
    exact ⟨fun hShown => hShown rfl, fun hShown _ => hShown⟩

/-- A source with a route in which the decorator has one digit, and a response. -/
def smallTree : Tree := .ofStatements [.ofDefinition "second" [numbered 1] [
  .node .exprStmt default [.ofMethod "flask" "jsonify" []]]]

/-- Where a decorator has too many digits, the traced visit stops and finds nothing, while the other
one finds a route and a response. With one digit, both find a route and a response. -/
theorem visits_agree_numbered :
    (((visit Mode.sorted.manner hugeTree).perform {}).1.isOk = false ∧
      undispatched ((visit Mode.sorted.manner hugeTree).perform {}).2.flows = [] ∧
      (undispatched ((visit Mode.walked.manner hugeTree).perform {}).2.flows).length = 1 ∧
      routeCount ((visit Mode.walked.manner hugeTree).perform {}).2.flows = 1) ∧
    undispatched ((visit Mode.sorted.manner smallTree).perform {}).2.flows =
        undispatched ((visit Mode.walked.manner smallTree).perform {}).2.flows ∧
      (undispatched ((visit Mode.sorted.manner smallTree).perform {}).2.flows).length = 1 ∧
      routeCount ((visit Mode.sorted.manner smallTree).perform {}).2.flows = 1 ∧
      routeCount ((visit Mode.walked.manner smallTree).perform {}).2.flows = 1 := by
  have hShown : DecoratorsShowable smallTree := by
    unfold DecoratorsShowable
    decide +kernel
  obtain ⟨⟨found, found', hFlows, hFlows', -, hAgree⟩, hOk⟩ :=
    visits_agree smallTree (by decide) {} {} ⟨rfl, rfl, rfl⟩
  obtain ⟨-, -, hSame, hRoutes⟩ := hAgree ((hOk (.inl rfl)).2 hShown)
  rw [List.nil_append] at hFlows hFlows'
  rw [hFlows, hFlows', ← hRoutes, ← hFlows]
  refine ⟨by decide +kernel, hFlows ▸ hSame, ?_⟩
  decide +kernel

end RepoAudit.Flask
