import RepoAudit.Flow.Session
import RepoAudit.Proofs.Flask.Run

/-!
The flows at calls. Those at the nodes of a tree are told by the nodes alone, in their order. Main
statement: apart from what is dispatched to functions, a visit finds the flows at the nodes that it
gets to, which are all nodes if every decorator can be shown.
-/
namespace RepoAudit.Flask

open Syntax

/-- Whether a flow is dispatched to a function from the network: by a route or as a processor. -/
def isDispatched (flow : DataFlow) : Bool :=
  match flow.path with
  | first :: _ :: _ => first.isOneOf ["wsgi_app"]
  | _ => false

/-- The sources that are known after some nodes. -/
def knownAfter (passed : List (Json × Tree)) : List (Json × SourceRecord) :=
  setEntries (passed.flatMap fun (f, t) => recordsAt f t) []

/-- The assignments that are known after some nodes. -/
def boundAfter (passed : List (Json × Tree)) : List (Json × Binding) :=
  setEntries (passed.flatMap fun (f, t) => bindingsAt f t) []

/-- The variables that are assigned at some nodes, in whatever functions these stand. -/
def variablesAfter (passed : List (Json × Tree)) : List Text :=
  (passed.flatMap fun (_, t) => t.assignedNames).eraseDups

/-- The flows at the calls among nodes, after the nodes that are passed. -/
def callFlows (passed : List (Json × Tree)) : List (Json × Tree) → List DataFlow
  | [] => []
  | (f, t) :: rest =>
    (flowAt (knownAfter passed) ((variablesAfter passed).map .str) f t).toList ++
      callFlows (passed ++ [(f, t)]) rest

/-- The nodes that a standard visit gets to, with the functions around them. -/
def visited (t : Tree) : List (Json × Tree) :=
  (reached .standard (events .enclosing .null t)).filterMap Event.node?

/-- The nodes that a standard visit does not get to. -/
def unvisited (t : Tree) : List (Json × Tree) :=
  ((events .enclosing .null t).dropWhile fun e => ¬e.Stops .standard).filterMap Event.node?

variable {t : Tree}

/-- No call is dispatched. -/
theorem isDispatched_of_flowAt {known : List (Json × SourceRecord)} {carriers : List Json}
    {f : Json} {flow : DataFlow} (h : flowAt known carriers f t = some flow) :
    isDispatched flow = false := by
  unfold flowAt at h
  split at h
  · split at h
    · next hSource =>
        cases h
        have hOther : ("wsgi_app" : Text) ∉ sources := by decide
        rw [isDispatched]
        simp only [Json.isOneOf, List.contains_cons, List.contains_nil, Bool.or_false,
          beq_eq_false_iff_ne]
        intro hEq
        rw [hEq] at hSource
        exact hOther (by simpa using hSource)
    · split at h
      · cases h
        rfl
      · cases h
  · cases h

theorem callFlows_append (passed first second : List (Json × Tree)) :
    callFlows passed (first ++ second) =
      callFlows passed first ++ callFlows (passed ++ first) second := by
  induction first generalizing passed with
  | nil => simp [callFlows]
  | cons p first ih => simp [callFlows, ih]

/-- The variables of an analysis are those that were assigned. -/
theorem map_fst_boundAfter (passed : List (Json × Tree)) :
    (boundAfter passed).map (·.1) = (variablesAfter passed).map Json.str := by
  have hKey : ∀ a b : Text, (Json.str a == Json.str b) = (a == b) := fun _ _ => rfl
  refine map_fst_setEntries hKey ?_
  simp [List.map_flatMap, bindingsAt, bindingsTo, Function.comp_def]

/-- Events other than nodes find only what is dispatched, and record nothing. -/
theorem notes_of_node?_eq_none {e : Event} (h : e.node? = none)
    (known : List (Json × SourceRecord)) (carriers : List Json) :
    e.records = [] ∧ e.bindings = [] ∧
      ∀ flow ∈ e.flows known carriers, isDispatched flow = true := by
  cases e with
  | node f t => cases h
  | decorator f t =>
      refine ⟨rfl, rfl, fun flow hFlow => ?_⟩
      rw [Event.flows] at hFlow
      split at hFlow
      · rw [List.mem_singleton.1 hFlow]
        rfl
      · cases hFlow
  | defined f =>
      refine ⟨rfl, rfl, fun flow hFlow => ?_⟩
      rw [Event.flows] at hFlow
      split at hFlow
      · rw [List.mem_singleton.1 hFlow]
        rfl
      · cases hFlow
  | broken f fault => exact ⟨rfl, rfl, fun flow hFlow => by cases hFlow⟩

/-- Only the event of a node has this node. -/
theorem eq_node_of_node? {e : Event} {f : Json} (h : e.node? = some (f, t)) : e = .node f t := by
  cases e with
  | node g d =>
      cases h
      rfl
  | decorator g d => cases h
  | defined g => cases h
  | broken g fault => cases h

/-- Along events, the flows at calls are those at the nodes among them. -/
theorem filter_flowsAlong (passed : List (Json × Tree)) (es : List Event) :
    (flowsAlong (knownAfter passed) (boundAfter passed) es).filter
        (fun flow => !isDispatched flow) =
      callFlows passed (es.filterMap Event.node?) := by
  induction es generalizing passed with
  | nil => rfl
  | cons e es ih =>
      rw [flowsAlong, List.filter_append, map_fst_boundAfter]
      rcases hNode : e.node? with _ | ⟨f, t⟩
      · obtain ⟨hRecords, hBindings, hFlows⟩ := notes_of_node?_eq_none hNode (knownAfter passed)
          ((variablesAfter passed).map Json.str)
        rw [List.filterMap_cons_none hNode, hRecords, hBindings, setEntries_nil, setEntries_nil,
          ih, List.filter_eq_nil_iff.2 (fun flow hFlow => by simp [hFlows flow hFlow]),
          List.nil_append]
      · rw [List.filterMap_cons_some hNode, callFlows]
        obtain rfl := eq_node_of_node? hNode
        have hKnown : setEntries (Event.node f t).records (knownAfter passed) =
            knownAfter (passed ++ [(f, t)]) := by
          simp [knownAfter, Event.records, setEntries_append]
        have hBound : setEntries (Event.node f t).bindings (boundAfter passed) =
            boundAfter (passed ++ [(f, t)]) := by
          simp [boundAfter, Event.bindings, setEntries_append]
        rw [hKnown, hBound, ih]
        congr 1
        refine List.filter_eq_self.2 fun flow hFlow => ?_
        rw [Event.flows, Option.mem_toList] at hFlow
        simp [isDispatched_of_flowAt hFlow]

/-- Each node of a tree is visited or not. -/
theorem visited_append_unvisited (t : Tree) : visited t ++ unvisited t = nodesWithin .null t := by
  rw [visited, unvisited, reached, ← List.filterMap_append, List.takeWhile_append_dropWhile,
    filterMap_node?_events]

/-- A visit that gets to its end gets to all nodes. -/
theorem unvisited_of_showable (h : t.WellFormed) (hShown : DecoratorsShowable t) :
    unvisited t = [] := by
  have hOk := (visit_ok_iff (m := .standard) (a := {}) (.inl rfl) h).2 fun _ => hShown
  rw [perform_visit h, run_ok_iff (events_wellFormed (.inl rfl) h)] at hOk
  rw [unvisited, List.dropWhile_eq_nil_iff.2 fun e hEvent => by simpa using hOk e hEvent]
  rfl

/-- Apart from what is dispatched to functions, a visit finds the flows at the calls of a tree in
order, as far as it gets. That is the whole tree if every decorator can be shown; otherwise
something is missing exactly if there are flows at the calls that it does not get to. -/
theorem visit_finds_call_flows [Output] (t : Tree) (h : t.WellFormed) :
    (DecoratorsShowable t → ((visit .standard t).perform {}).1 = .ok () ∧
      ((visit .standard t).perform {}).2.flows.filter (fun flow => !isDispatched flow) =
        callFlows [] (nodesWithin .null t)) ∧
      (nodesWithin .null t).map Prod.snd = t.nodes ∧
      visited t ++ unvisited t = nodesWithin .null t ∧
      ((visit .standard t).perform {}).2.flows.filter (fun flow => !isDispatched flow) =
        callFlows [] (visited t) ∧
      (((visit .standard t).perform {}).2.flows.filter (fun flow => !isDispatched flow) =
        callFlows [] (nodesWithin .null t) ↔ callFlows (visited t) (unvisited t) = []) := by
  have hNoted := visit_notedAll (m := .standard) (a := {}) (.inl rfl) h
  have hFlows : ((visit .standard t).perform {}).2.flows.filter (fun flow => !isDispatched flow) =
      callFlows [] (visited t) := by
    rw [hNoted.flows]
    exact filter_flowsAlong [] _
  have hAll : callFlows [] (nodesWithin .null t) =
      callFlows [] (visited t) ++ callFlows (visited t) (unvisited t) := by
    rw [← visited_append_unvisited, callFlows_append, List.nil_append]
  refine ⟨fun hShown => ⟨(visit_ok_iff (.inl rfl) h).2 fun _ => hShown, ?_⟩,
    map_snd_nodesWithin t .null, visited_append_unvisited t, hFlows, ?_⟩
  · rw [hFlows, hAll, unvisited_of_showable h hShown, callFlows, List.append_nil]
  · rw [hFlows, hAll]
    constructor
    · intro hSame
      exact List.self_eq_append_right.1 hSame
    · intro hRest
      rw [hRest, List.append_nil]

/-- A decorator with an integer. -/
def numbered (n : Int) : Tree :=
  .ofMethod "app" "get" [.node .constant default [.leaf (.int n), .absent]]

theorem integers_numbered (n : Int) : (numbered n).integers = [n] := rfl

/-- A source in which the decorator of the first function has more digits than are shown, and the
second function makes a response. -/
def hugeTree : Tree := .ofStatements [
  .ofDefinition "first" [numbered Json.shownBound] [.node .passStmt default []],
  .ofDefinition "second" [] [.node .exprStmt default [.ofMethod "flask" "jsonify" []]]]

/-- The first function stops the visit, and the response in the second is not found. -/
theorem visit_finds_call_flows_huge : hugeTree.WellFormed ∧
    ((visit .standard hugeTree).perform {}).2.flows.filter (fun flow => !isDispatched flow) = [] ∧
    callFlows [] (nodesWithin .null hugeTree) =
      [⟨.str "second", .str "second::jsonify", [.str "second"], []⟩] := by
  have hWell : hugeTree.WellFormed := by decide
  obtain ⟨-, -, -, hFlows, -⟩ := visit_finds_call_flows hugeTree hWell
  have hStops : (Event.decorator .null (numbered Json.shownBound)).Stops .standard := by
    refine ⟨rfl, fun hShown => ?_⟩
    rw [Tree.Showable, integers_numbered, List.forall_mem_singleton, Int.natAbs_natCast] at hShown
    exact Nat.lt_irrefl _ hShown
  have hEvents : events .enclosing .null hugeTree = (events .enclosing .null hugeTree).take 10 ++
      .decorator .null (numbered Json.shownBound) :: (events .enclosing .null hugeTree).drop 11 :=
    rfl
  have hBefore : ∀ e ∈ (events .enclosing .null hugeTree).take 10, ¬e.Stops .standard := by
    decide
  have hVisited : visited hugeTree =
      ((events .enclosing .null hugeTree).take 10).filterMap Event.node? := by
    rw [visited, reached, hEvents, List.takeWhile_append_of_pos (by simpa using hBefore),
      List.takeWhile_cons_of_neg (by rw [decide_eq_true_eq]; exact not_not_intro hStops),
      List.append_nil]
    rfl
  rw [hFlows, hVisited]
  exact ⟨hWell, rfl, rfl⟩

end RepoAudit.Flask
