import Mathlib.Data.List.TakeWhile
import RepoAudit.Proofs.Flask.Events
import RepoAudit.Proofs.Flask.Outcomes

/-!
Runs over the events of well-formed trees. Main statement: a run gets to the events before the first
one that stops it, and adds what there is to note at those.
-/
namespace RepoAudit.Flask

open Syntax Analysis

instance (m : Manner) : DecidablePred (Event.Stops m)
  | .decorator _ t => inferInstanceAs (Decidable (m.traced = true ∧ ¬t.Showable))
  | .node .. | .defined _ | .broken .. => inferInstanceAs (Decidable False)

/-- The events that a run gets to: those before the first that stops it. -/
def reached (m : Manner) (es : List Event) : List Event := es.takeWhile fun e => ¬e.Stops m

/-- The flows that are found along events, with the sources and assignments that are known before
the first. -/
def flowsAlong (known : List (Json × SourceRecord)) (scope : List (Json × Binding)) :
    List Event → List DataFlow
  | [] => []
  | e :: es => e.flows known (scope.map (·.1)) ++
    flowsAlong (setEntries e.records known) (setEntries e.bindings scope) es

/-- The state `b` is `a` with what events add. -/
structure NotedAll (es : List Event) (a b : Analysis) : Prop where
  entryPoints : b.entryPoints =
    (es.flatMap Event.endpoints).foldl (fun set name => insertNew name set) a.entryPoints
  flows : b.flows = a.flows ++ flowsAlong a.sources a.scope es
  sources : b.sources = setEntries (es.flatMap Event.records) a.sources
  scope : b.scope = setEntries (es.flatMap Event.bindings) a.scope

variable {m : Manner} {f : Json} {es : List Event} {a b c : Analysis}

theorem notedAll_nil (a : Analysis) (f : Json) : NotedAll [] a (a.enterFunction f) :=
  ⟨rfl, (List.append_nil _).symm, rfl, rfl⟩

/-- What events add is what the first adds and then the others. -/
theorem NotedAll.cons {e : Event} (hFirst : Noted e a b) (hRest : NotedAll es b c) :
    NotedAll (e :: es) a c where
  entryPoints := by
    rw [hRest.entryPoints, hFirst.entryPoints, List.flatMap_cons, List.foldl_append]
  flows := by
    rw [hRest.flows, hFirst.flows, hFirst.sources, hFirst.scope, flowsAlong, List.append_assoc,
      carriers]
  sources := by
    rw [hRest.sources, hFirst.sources, List.flatMap_cons, setEntries_append]
  scope := by
    rw [hRest.scope, hFirst.scope, List.flatMap_cons, setEntries_append]

/-- A run over events of well-formed trees adds what there is to note up to the first event that
stops it. -/
theorem run_notedAll [Output] (hWell : ∀ e ∈ es, e.WellFormed) :
    NotedAll (reached m es) a ((plan m).run f es a).2 := by
  induction es generalizing a with
  | nil => exact notedAll_nil a f
  | cons e es ih =>
      have hFirst := hWell e List.mem_cons_self
      have hRest : ∀ e ∈ es, e.WellFormed := fun e h => hWell e (List.mem_cons_of_mem _ h)
      by_cases hStops : e.Stops m
      · obtain ⟨fault, hOut⟩ := handle_stops (a := a) hFirst hStops
        rw [Plan.run, hOut, reached, List.takeWhile_cons_of_neg (by simpa using hStops)]
        exact notedAll_nil a e.function
      · obtain ⟨b, hOut, hNoted⟩ := handle_noted (a := a) hFirst hStops
        rw [Plan.run, hOut, reached, List.takeWhile_cons_of_pos (by simpa using hStops)]
        exact .cons hNoted (ih hRest)

/-- A run over events of well-formed trees has a result unless an event stops it. -/
theorem run_ok_iff [Output] (hWell : ∀ e ∈ es, e.WellFormed) :
    ((plan m).run f es a).1 = .ok () ↔ ∀ e ∈ es, ¬e.Stops m := by
  induction es generalizing a with
  | nil => simp [Plan.run]
  | cons e es ih =>
      have hFirst := hWell e List.mem_cons_self
      have hRest : ∀ e ∈ es, e.WellFormed := fun e h => hWell e (List.mem_cons_of_mem _ h)
      by_cases hStops : e.Stops m
      · obtain ⟨fault, hOut⟩ := handle_stops (a := a) hFirst hStops
        simp [Plan.run, hOut, hStops]
      · obtain ⟨b, hOut, -⟩ := handle_noted (a := a) hFirst hStops
        simp only [Plan.run, hOut, ih hRest, List.forall_mem_cons, hStops, not_false_eq_true,
          true_and]

/-- All events are reached exactly if none of them stops the visit. -/
theorem reached_eq_self_iff : reached m es = es ↔ ∀ e ∈ es, ¬e.Stops m := by
  simp [reached, List.takeWhile_eq_self_iff]

/-- Inside a well-formed node the current function is a name or none. -/
theorem isPlace_inner {t : Tree} (hPlace : IsPlace f) (h : t.WellFormed) :
    IsPlace (innerFunction f t) := by
  by_cases hDefinition : t.kind? = some .functionDef
  · obtain ⟨span, name, args, body, decorators, rest, rfl, hName, -⟩ := h.definition hDefinition
    exact .inr ⟨name, rfl, hName⟩
  · rwa [innerFunction_of_ne hDefinition]

/-- At a definition there are its decorators and then the definition. -/
theorem definitionEvents_eq {t : Tree} (h : t.WellFormed)
    (hDefinition : t.kind? = some .functionDef) :
    definitionEvents f t = t.decorators.map (.decorator f) ++ [.defined f] := by
  obtain ⟨span, name, args, body, decorators, rest, rfl, -⟩ := h.definition hDefinition
  rfl

theorem definitionEvents_wellFormed {t : Tree} (hPlace : IsPlace f) (h : t.WellFormed)
    (hDefinition : t.kind? = some .functionDef) : ∀ e ∈ definitionEvents f t, e.WellFormed := by
  rw [definitionEvents_eq h hDefinition, List.forall_mem_append, List.forall_mem_map]
  refine ⟨fun decorator hDecorator => ⟨hPlace, ?_⟩, by simpa [Event.WellFormed] using hPlace⟩
  obtain ⟨span, name, args, body, decorators, rest, rfl, -, hDecorators⟩ := h.definition hDefinition
  exact hDecorators decorator hDecorator

/-- Inside a well-formed tree, the functions have names. -/
theorem nodesWithin_isPlace {t : Tree} (hPlace : IsPlace f) (h : t.WellFormed) :
    ∀ p ∈ nodesWithin f t, IsPlace p.1 :=
  nodesWithin_function t f hPlace fun _ hNode _ => isPlace_inner (.inl rfl) (h.of_mem_nodes hNode)

/-- The events of a well-formed tree are well-formed. -/
theorem events_wellFormed {c : Credit} {t : Tree} (hPlace : IsPlace f) (h : t.WellFormed) :
    ∀ e ∈ events c f t, e.WellFormed := by
  intro e hEvent
  rw [(events_perm c t f).mem_iff, List.mem_flatMap] at hEvent
  obtain ⟨⟨g, d⟩, hNode, hOwn⟩ := hEvent
  have hFunction : IsPlace g := nodesWithin_isPlace hPlace h (g, d) hNode
  have hDefinition : d.WellFormed := nodesWithin_wellFormed h (g, d) hNode
  rcases List.mem_cons.1 hOwn with rfl | hCredited
  · exact ⟨hFunction, hDefinition⟩
  · split at hCredited
    · next hKind =>
        refine definitionEvents_wellFormed ?_ hDefinition hKind e hCredited
        cases c with
        | own => exact isPlace_inner hFunction hDefinition
        | enclosing => exact hFunction
    · cases hCredited

/-- Visiting a tree is running its events. -/
theorem perform_visit [Output] {t : Tree} (h : t.WellFormed) :
    (visit m t).perform a = (plan m).run a.function (events m.credit a.function t) a := by
  obtain ⟨kind, span, fields, rfl⟩ := h.node_eq
  exact perform_walk m (.node kind span fields) a

/-- Every decorator of a plain definition in the tree can be shown. -/
def DecoratorsShowable (t : Tree) : Prop :=
  ∀ d ∈ t.nodes, d.kind? = some .functionDef → ∀ decorator ∈ d.decorators, decorator.Showable

section Visit

variable {t : Tree} (hPlace : IsPlace a.function) (h : t.WellFormed)
include hPlace h

/-- A visit adds what there is to note at the events that it gets to. -/
theorem visit_notedAll [Output] :
    NotedAll (reached m (events m.credit a.function t)) a ((visit m t).perform a).2 := by
  rw [perform_visit h]
  exact run_notedAll (events_wellFormed hPlace h)

/-- A visit has a result unless it is traced and a decorator cannot be shown. -/
theorem visit_ok_iff [Output] : ((visit m t).perform a).1 = .ok () ↔
    (m.traced = true → DecoratorsShowable t) := by
  have hWell := nodesWithin_wellFormed (f := a.function) h
  rw [perform_visit h, run_ok_iff (events_wellFormed hPlace h), DecoratorsShowable,
    ← map_snd_nodesWithin t a.function]
  constructor
  · intro hRuns hTraced d hMember hDefinition decorator hDecorator
    obtain ⟨⟨g, d⟩, hNode, rfl⟩ := List.mem_map.1 hMember
    by_contra hShown
    refine hRuns (.decorator (m.credit.function g d) decorator) ?_ ⟨hTraced, hShown⟩
    rw [(events_perm _ t _).mem_iff, List.mem_flatMap]
    refine ⟨(g, d), hNode, List.mem_cons_of_mem _ ?_⟩
    rw [if_pos hDefinition, definitionEvents_eq (hWell _ hNode) hDefinition]
    exact List.mem_append_left _ (List.mem_map_of_mem hDecorator)
  · intro hShown e hEvent hStops
    rw [(events_perm _ t _).mem_iff, List.mem_flatMap] at hEvent
    obtain ⟨⟨g, d⟩, hNode, hOwn⟩ := hEvent
    rcases List.mem_cons.1 hOwn with rfl | hCredited
    · exact hStops
    · split at hCredited
      · next hDefinition =>
          rw [definitionEvents_eq (hWell _ hNode) hDefinition] at hCredited
          rcases List.mem_append.1 hCredited with hMember | hDefined
          · obtain ⟨decorator, hDecorator, rfl⟩ := List.mem_map.1 hMember
            exact hStops.2 (hShown hStops.1 d (List.mem_map_of_mem hNode) hDefinition decorator
              hDecorator)
          · rw [List.mem_singleton.1 hDefined] at hStops
            exact hStops
      · cases hCredited

end Visit

end RepoAudit.Flask
