import RepoAudit.Proofs.Express.Visit
import RepoAudit.Proofs.Flask.Separate

/-!
The current function before and after visits. Main statement: a visit of a well-formed tree that
finishes ends in the function in which it started. Visits that only keep track of the function
always finish, those of Flask sources unless a decorator cannot be shown, and those of Express
sources unless there is a middleware call without arguments. The first of these calls ends a visit
in the innermost function around it, with all that was noted before it.
-/
namespace RepoAudit

open Syntax

/-- Keeping track of the function notes nothing. -/
theorem functionTracker_eq : functionTracker = Tracking.visitor fun _ => pure () := by
  unfold functionTracker Tracking.visitor
  congr
  funext t
  by_cases hDefinition : t.kind? = some .functionDef
  · simp [hDefinition, functionTracker]
  · simp [hDefinition]

variable {a : Analysis} {f g : Json} {t : Tree}

/-- Where only the function is tracked, a node changes nothing else. -/
theorem handle_trackNode (h : t.WellFormed) :
    (Tracking.plan fun _ => pure ()).handle (f, t) a = (.ok (), a.enterFunction f) := by
  change (Tracking.noteNode (fun _ => pure ()) t).perform (a.enterFunction f) = _
  rw [Tracking.noteNode, Step.perform_bind, Flask.perform_askValue h]
  by_cases hDefinition : t.kind? = some .functionDef
  · obtain ⟨span, name, args, body, decorators, rest, rfl, -⟩ := h.definition hDefinition
    rfl
  · simp [hDefinition]

/-- A run that only tracks ends in the function around. -/
theorem run_track {ps : List (Json × Tree)} (hWell : ∀ p ∈ ps, p.2.WellFormed) :
    (Tracking.plan fun _ => pure ()).run f ps a = (.ok (), a.enterFunction f) := by
  induction ps with
  | nil => rfl
  | cons p ps ih =>
      obtain ⟨hFirst, hRest⟩ := List.forall_mem_cons.1 hWell
      rw [Plan.run, handle_trackNode hFirst]
      simp only
      rw [Plan.run_enterFunction, ih hRest]

/-- Keeping track of the function changes nothing in the end. -/
theorem functionTracker_visit (h : t.WellFormed) (a : Analysis) :
    (functionTracker.visit t).perform a = (.ok (), a) := by
  have hNote : ∀ (_ : Tree) (a : Analysis),
      (pure () : Step Analysis Unit).Leads a fun _ b => b.function = a.function := fun _ _ => rfl
  rw [functionTracker_eq, Tracking.perform_visit hNote h.1,
    run_track (nodesWithin_wellFormed h), Analysis.enterFunction_self]

theorem Flask.Event.WellFormed.isPlace {e : Flask.Event} (h : e.WellFormed) :
    Flask.IsPlace e.function := by
  cases e with
  | node f t => exact h.1
  | decorator f t => exact h.1
  | defined f => exact h
  | broken f fault => exact h.elim

/-- A run that is to end in a place does so, also if it ends in a fault. -/
theorem Flask.run_isPlace [Output] {m : Flask.Manner} {es : List Flask.Event}
    (hPlace : Flask.IsPlace f) (hEvents : ∀ e ∈ es, e.WellFormed) :
    Flask.IsPlace ((Flask.plan m).run f es a).2.function := by
  induction es generalizing a with
  | nil => exact hPlace
  | cons e es ih =>
      obtain ⟨hFirst, hRest⟩ := List.forall_mem_cons.1 hEvents
      have hFunction := (Flask.keepsFunction_plan m).handle_function e a
      rw [Plan.run]
      rcases hOut : (Flask.plan m).handle e a with ⟨_ | _, b⟩
      · rw [hOut] at hFunction
        exact hFunction ▸ hFirst.isPlace
      · exact ih hRest

namespace Express

/-- In a tree inside the function `f`, the first middleware call without arguments stands in `g`
and after the nodes `passed`. -/
structure FirstBareUse (f : Json) (t : Tree) (passed : List (Json × Tree)) (g : Json) : Prop where
  nodes : ∃ call rest, nodesWithin f t = passed ++ (g, call) :: rest ∧ isBareUse call = true
  free : ∀ p ∈ passed, isBareUse p.2 = false

/-- If there is a middleware call without arguments, there is a first one. -/
theorem exists_firstBareUse (f : Json) (h : ∃ d ∈ t.nodes, isBareUse d = true) :
    ∃ passed g, FirstBareUse f t passed g := by
  obtain ⟨d, hMember, hBare⟩ := h
  rw [← map_snd_nodesWithin t f] at hMember
  obtain ⟨p, hNode, rfl⟩ := List.mem_map.1 hMember
  have hSome : ((nodesWithin f t).find? fun p => isBareUse p.2).isSome :=
    List.find?_isSome.2 ⟨p, hNode, hBare⟩
  obtain ⟨⟨g, call⟩, hFirst⟩ := Option.isSome_iff_exists.1 hSome
  obtain ⟨hCall, passed, rest, hNodes, hFree⟩ := List.find?_eq_some_iff_append.1 hFirst
  refine ⟨passed, g, ⟨call, rest, hNodes, hCall⟩, ?_⟩
  intro p hPassed
  simpa using hFree p hPassed

/-- A visit notes all nodes, or those before the first middleware call without arguments. -/
theorem visit_outcome (h : t.WellFormed) (a : Analysis) :
    (∀ d ∈ t.nodes, isBareUse d = false) ∧
        (visit t).perform a = (.ok (), noted (nodesWithin a.function t) a) ∨
      (∃ d ∈ t.nodes, isBareUse d = true) ∧ ∃ passed g, FirstBareUse a.function t passed g ∧
        (visit t).perform a = (.error .listIndexRange, (noted passed a).enterFunction g) := by
  by_cases hBare : ∃ d ∈ t.nodes, isBareUse d = true
  · obtain ⟨passed, g, hFirst⟩ := exists_firstBareUse a.function hBare
    obtain ⟨call, rest, hNodes, hCall⟩ := hFirst.nodes
    exact .inr ⟨hBare, passed, g, hFirst, visit_stops h hNodes hFirst.free hCall⟩
  · have hFree : ∀ d ∈ t.nodes, isBareUse d = false := by
      intro d hMember
      by_contra hCall
      exact hBare ⟨d, hMember, by simpa using hCall⟩
    exact .inl ⟨hFree, visit_free h hFree⟩

end Express

/-- Visits of well-formed trees that finish leave the current function as it was. Keeping track of
the function always finishes. A visit of a Flask source finishes if the decorators can be shown,
or need not be. A visit of an Express source fails if a middleware call has no arguments; it then
stays in the function around the first of these, and keeps what was noted before it and nothing
else. -/
theorem visits_restore_function [Output] (h : t.WellFormed) (m : Flask.Manner) (a : Analysis) :
    (functionTracker.visit t).perform a = (.ok (), a) ∧
      (∀ b, (Flask.visit m t).perform a = (.ok (), b) → b.function = a.function) ∧
      (Flask.IsPlace a.function →
        (((Flask.visit m t).perform a).1 = .ok () ↔
          (m.traced = true → Flask.DecoratorsShowable t)) ∧
        Flask.IsPlace ((Flask.visit m t).perform a).2.function) ∧
      (∀ b, (Express.visit t).perform a = (.ok (), b) → b.function = a.function) ∧
      ((∃ fault b, (Express.visit t).perform a = (.error fault, b)) ↔
        ∃ d ∈ t.nodes, Express.isBareUse d = true) ∧
      ∀ fault b, (Express.visit t).perform a = (.error fault, b) →
        fault = .listIndexRange ∧ ∃ passed g, Express.FirstBareUse a.function t passed g ∧
          b = (Express.noted passed a).enterFunction g := by
  refine ⟨functionTracker_visit h a, fun b => Flask.visit_function, fun hPlace => ⟨?_, ?_⟩, ?_⟩
  · exact Flask.visit_ok_iff hPlace h
  · rw [Flask.perform_visit h]
    exact Flask.run_isPlace hPlace (Flask.events_wellFormed hPlace h)
  · rcases Express.visit_outcome h a with ⟨hFree, hOut⟩ | ⟨hBare, passed, g, hFirst, hOut⟩
    · rw [hOut]
      refine ⟨?_, ⟨nofun, ?_⟩, nofun⟩
      · rintro b hEnd
        cases hEnd
        rfl
      · rintro ⟨d, hMember, hBare⟩
        rw [hFree d hMember] at hBare
        cases hBare
    · rw [hOut]
      refine ⟨nofun, ⟨fun _ => hBare, fun _ => ⟨_, _, rfl⟩⟩, ?_⟩
      rintro fault b hEnd
      cases hEnd
      exact ⟨rfl, passed, g, hFirst, rfl⟩

/-- A source in which a function handles a route and has one inside it that uses middleware without
arguments. -/
def Express.bareTree : Tree := .ofStatements [.ofDefinition "outer" [] [
  .node .exprStmt default [.ofMethod "app" "get"
    [.node .constant default [.leaf (.text "/a"), .absent]]],
  .ofDefinition "inner" [] [.node .exprStmt default [.ofMethod "app" "use" []]]]]

/-- The visit of the Express source ends in the inner function and keeps the route. The visit of a
Flask source whose inner decorator cannot be shown does not finish either. -/
theorem visits_restore_function_inner :
    (∃ b, (Express.visit Express.bareTree).perform {} = (.error .listIndexRange, b) ∧
        b.function.isOneOf ["inner"] = true ∧ b.entryPoints = ["GET__/a (HTTP endpoint)"]) ∧
      ((Flask.visit .standard Flask.nestedTree).perform {}).1 ≠ .ok () := by
  have hBare : Express.bareTree.WellFormed := by decide
  have hNested : Flask.nestedTree.WellFormed := by decide
  obtain ⟨-, -, -, -, hFails, hStops⟩ := visits_restore_function hBare .standard {}
  obtain ⟨-, -, hFlask, -⟩ := visits_restore_function hNested .standard {}
  constructor
  · obtain ⟨fault, b, hOut⟩ := hFails.2 (by decide)
    obtain ⟨rfl, -⟩ := hStops fault b hOut
    refine ⟨b, hOut, ?_⟩
    obtain rfl : _ = b := congrArg Prod.snd hOut
    decide +kernel
  · intro hOk
    have hShown := (hFlask (.inl rfl)).1.1 hOk rfl
    revert hShown
    unfold Flask.DecoratorsShowable Tree.Showable
    decide +kernel

end RepoAudit
