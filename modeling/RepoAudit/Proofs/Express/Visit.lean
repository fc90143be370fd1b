import RepoAudit.Proofs.Express.Chain
import RepoAudit.Proofs.Flask.Run
import RepoAudit.Proofs.Flow.Tracking

/-!
What the analysis of trees of Express calls notes at their nodes. Main statements: whatever routes,
middleware and assignments keep, a visit of any tree keeps; and on a well-formed tree a visit is a
run over the nodes, which adds what there is to note at each of them up to the first middleware
call that has no argument.
-/
namespace RepoAudit.Express

open Syntax Step
open Flask (kind?_node)

/-- What calls keep. -/
structure CallsKeep (p : Analysis → Prop) : Prop where
  route : ∀ name a, p a → p ((a.addEntryPoint (httpEndpoint name)).addFlow (routeFlow name))
  middleware : ∀ name a, p a → p (a.addFlow (middlewareFlow name))

/-- What the steps of an analysis keep. -/
structure Keeps (p : Analysis → Prop) : Prop extends CallsKeep p where
  bind : ∀ name value a, p a → p (a.bind name value)
  source : ∀ name record a, p a → p (a.setSource name record)

/-- What is noted at a node, apart from the current function. -/
def note (t : Tree) : Step Analysis Unit :=
  match t.kind? with
  | some .call => noteCall t
  | some .assign => noteAssignment t
  | _ => pure ()

section CallsKeep

variable {p : Analysis → Prop} {a : Analysis} (hKeeps : CallsKeep p)
include hKeeps

theorem noteHandler_leads (attr : Json) (t : Tree) (h : p a) :
    (noteHandler attr t).Leads a fun _ => p := by
  apply leads_attempt ?_ fun _ _ => h
  intro arguments _
  apply leads_ite
  · intro _
    apply leads_attempt ?_ fun _ _ => h
    intro argument _
    apply leads_ite
    · intro _
      exact hKeeps.route _ a h
    · intro _
      exact h
  · intro _
    exact h

theorem noteMiddleware_leads (t : Tree) (h : p a) : (noteMiddleware t).Leads a fun _ => p := by
  apply leads_attempt ?_ fun _ _ => h
  intro argument _
  apply leads_ite
  · intro _
    apply leads_attempt ?_ fun _ _ => h
    intro name _
    exact hKeeps.middleware name a h
  · intro _
    exact hKeeps.middleware _ a h

theorem noteCall_leads (t : Tree) (h : p a) : (noteCall t).Leads a fun _ => p := by
  apply leads_attempt ?_ fun _ _ => h
  intro called _
  apply leads_ite
  · intro _
    apply leads_attempt ?_ fun _ _ => h
    intro value _
    apply leads_ite
    · intro _
      apply leads_attempt ?_ fun _ _ => h
      intro attr _
      apply leads_ite
      · intro _
        exact noteHandler_leads hKeeps attr t h
      · intro _
        apply leads_ite
        · intro _
          exact noteMiddleware_leads hKeeps t h
        · intro _
          exact h
    · intro _
      exact h
  · intro _
    exact h

end CallsKeep

section Keeps

variable {p : Analysis → Prop} {a : Analysis} (hKeeps : Keeps p)
include hKeeps

theorem noteTarget_leads (t target : Tree) (h : p a) :
    (noteTarget t target).Leads a fun _ => p := by
  apply leads_ite
  · intro _
    apply leads_attempt ?_ fun _ _ => h
    intro value _
    apply leads_attempt ?_ fun _ _ => h
    intro name _
    have hBound := hKeeps.bind name value a h
    apply leads_modify
    apply leads_ite
    · intro _
      apply leads_attempt ?_ fun _ _ => hBound
      intro path _
      apply leads_ite
      · intro _
        exact hKeeps.source _ _ _ hBound
      · intro _
        exact hBound
    · intro _
      exact hBound
  · intro _
    exact h

/-- What calls and assignments keep is kept at every node. -/
theorem note_leads (t : Tree) (h : p a) : (note t).Leads a fun _ => p := by
  unfold note
  split
  · exact noteCall_leads hKeeps.toCallsKeep t h
  · apply leads_attempt ?_ fun _ _ => h
    intro targets _
    exact leads_forM targets (fun target _ a => noteTarget_leads hKeeps t target) h
  · exact h

end Keeps

/-- No node moves to another function. -/
theorem note_function (t : Tree) (a : Analysis) :
    (note t).Leads a fun _ b => b.function = a.function := by
  apply note_leads (p := fun b => b.function = a.function) ?_ t rfl
  exact ⟨⟨fun _ _ => id, fun _ _ => id⟩, fun _ _ _ => id, fun _ _ _ => id⟩

/-- The visitor notes every node and keeps track of the function. -/
theorem visitor_eq : visitor = Tracking.visitor note := by
  unfold visitor Tracking.visitor
  congr
  funext t
  unfold enter note
  split
  · next hCall => simp [hCall]
  · next hAssign => simp [hAssign]
  · next hCall hAssign =>
      split
      · rfl
      · next hOther => simp [functionTracker, hOther]

/-- Whatever the steps of an analysis and a change of the function keep, a visit keeps. -/
theorem visit_leads {p : Analysis → Prop} {a : Analysis} (hKeeps : Keeps p)
    (hFunction : ∀ f a, p a → p (a.enterFunction f)) (t : Tree) (h : p a) :
    (visit t).Leads a fun _ => p := by
  unfold visit
  rw [visitor_eq]
  apply Visitor.visit_leads ?_ ?_ t h
  · intro t a h
    apply leads_ite
    · intro hDefinition
      simp only [functionTracker, hDefinition, beq_self_eq_true, if_true]
      apply leads_attempt ?_ fun _ _ => h
      intro name _
      exact hFunction name a h
    · intro _
      exact note_leads hKeeps t h
  · intro t before a h
    apply leads_ite
    · intro _
      exact hFunction before.function a h
    · intro _
      exact h

/-- Whether a node is a middleware call without arguments. -/
def isBareUse (t : Tree) : Bool :=
  match t.method? with
  | some (_, attr) => attr == "use" && t.arguments.isEmpty
  | none => false

/-- The labels by which calls handle requests. -/
def handlerLabels : List Text := ["get", "post", "put", "delete", "patch"]

/-- The name of the route that a call handles: its first argument is a path. -/
def handlerName? (t : Tree) : Option Text :=
  match t.method?, t.arguments.head?.bind Tree.text? with
  | some (_, attr), some path =>
    if handlerLabels.contains attr && !path.isEmpty then
      some (attr.upper ++ "__" ++ path)
    else none
  | _, _ => none

def middlewareName? (t : Tree) : Option Text :=
  match t.method?, t.arguments.head? with
  | some (_, attr), some argument =>
    if attr == "use" then some (argument.name?.getD "unnamed_middleware") else none
  | _, _ => none

def requestPath? (value : Tree) : Option Text :=
  match value.kind?, attributePath value with
  | some .attribute, .ok path => if sources.contains path then some path else none
  | _, _ => none

/-- The sources that are recorded where a value is assigned to variables. -/
def recordsTo (names : List Text) (value : Tree) : List (Json × SourceRecord) :=
  match requestPath? value with
  | some path => names.map fun name => (.str name, ⟨.requestData, .str path⟩)
  | none => []

/-- The entry points that are found at a node. -/
def endpointsAt (t : Tree) : List Text := (handlerName? t).toList.map httpEndpoint

/-- The flows that are found at a node. -/
def flowsAt (t : Tree) : List DataFlow :=
  (handlerName? t).toList.map routeFlow ++
    (middlewareName? t).toList.map fun name => middlewareFlow (.str name)

/-- The sources that are recorded at a node. -/
def recordsAt (t : Tree) : List (Json × SourceRecord) := recordsTo t.assignedNames t.assignedValue

/-- The state with what there is to note at nodes, each in the function that stands with it. -/
def noted (ps : List (Json × Tree)) (a : Analysis) : Analysis :=
  { a with
    entryPoints := (ps.flatMap fun p => endpointsAt p.2).foldl
      (fun set name => insertNew name set) a.entryPoints
    flows := a.flows ++ ps.flatMap fun p => flowsAt p.2
    sources := setEntries (ps.flatMap fun p => recordsAt p.2) a.sources
    scope := setEntries (ps.flatMap fun p => Flask.bindingsAt p.1 p.2) a.scope }

/-- How a node of a well-formed tree is noted: a middleware call without arguments is a fault. -/
def outcomeAt (t : Tree) (a : Analysis) : Except Fault Unit × Analysis :=
  if isBareUse t then (.error .listIndexRange, a) else (.ok (), noted [(a.function, t)] a)

section Noted

variable {a : Analysis} {f : Json} {t : Tree} {ps : List (Json × Tree)}

@[simp] theorem noted_nil (a : Analysis) : noted [] a = a := by simp [noted]

theorem noted_cons (p : Json × Tree) (ps : List (Json × Tree)) (a : Analysis) :
    noted (p :: ps) a = noted ps (noted [p] a) := by
  simp [noted, setEntries_append]

@[simp] theorem noted_function (ps : List (Json × Tree)) (a : Analysis) :
    (noted ps a).function = a.function := rfl

/-- At a node that assigns nothing, only the flows and the entry points change. -/
theorem noted_of_ne_assign (h : t.kind? ≠ some .assign) : noted [(f, t)] a =
    { a with
      entryPoints := (endpointsAt t).foldl (fun set name => insertNew name set) a.entryPoints
      flows := a.flows ++ flowsAt t } := by
  have hRecords : recordsAt t = [] := by
    unfold recordsAt recordsTo
    rw [Flask.assignedNames_of_ne h]
    cases requestPath? t.assignedValue <;> rfl
  simp [noted, hRecords, Flask.bindingsAt_of_ne h]

/-- Nothing is noted at a node that neither assigns nor calls an attribute by one of the labels. -/
theorem outcomeAt_eq_self (hAssign : t.kind? ≠ some .assign)
    (hMethod : ∀ receiver attr, t.method? = some (receiver, attr) →
      attr ∉ handlerLabels ∧ attr ≠ "use") : outcomeAt t a = (.ok (), a) := by
  rw [outcomeAt, noted_of_ne_assign hAssign, endpointsAt, flowsAt, isBareUse, handlerName?,
    middlewareName?]
  cases hCalled : t.method? with
  | none => simp
  | some called =>
      obtain ⟨hLabel, hUse⟩ := hMethod called.1 called.2 hCalled
      cases t.arguments.head? with
      | none => simp [hUse]
      | some argument => cases hText : argument.text? <;> simp [hText, hLabel, hUse]

end Noted

/-- A call of an attribute of a plain name is noted by its label. -/
def noteLabel (attr : Json) (t : Tree) : Step Analysis Unit :=
  if attr.isOneOf handlerLabels then noteHandler attr t
  else if attr.isOneOf ["use"] then noteMiddleware t
  else pure ()

section Calls

variable {a : Analysis} {t : Tree} {args : List Tree} {receiver attr : Text}
  (hMethod : t.method? = some (receiver, attr)) (hField : t.field "args" = .ok (.list args))
  (hArguments : t.arguments = args)
include hMethod hField hArguments

/-- A handler is noted if its first argument is a path. -/
theorem perform_noteHandler (hLabel : attr ∈ handlerLabels) (hAssign : t.kind? ≠ some .assign) :
    (noteHandler (.str attr) t).perform a = outcomeAt t a := by
  have hOther : ¬attr = "use" := by
    rintro rfl
    exact absurd hLabel (by decide)
  have hUse : isBareUse t = false := by simp [isBareUse, hMethod, hOther]
  have hMiddleware : middlewareName? t = none := by
    unfold middlewareName?
    rw [hMethod]
    cases t.arguments.head? with
    | none => rfl
    | some argument => simp [hOther]
  rw [outcomeAt, hUse, noted_of_ne_assign hAssign, endpointsAt, flowsAt, hMiddleware, handlerName?,
    hMethod, hArguments, noteHandler]
  simp only [perform_bind, perform_attempt, hField, Tree.truthy]
  cases args with
  | nil => simp
  | cons argument args =>
      simp only [List.isEmpty_cons, Bool.not_false, if_true, perform_bind, perform_attempt,
        Tree.first, List.head?_cons, Option.bind_some]
      cases argument.text? with
      | none => simp
      | some path =>
          cases path with
          | nil => simp
          | cons c path => simp [hLabel, Json.display, Analysis.addEntryPoint, Analysis.addFlow]

/-- Middleware is noted if there is an argument. Otherwise the argument is sought in vain. -/
theorem perform_noteMiddleware (hUse : attr = "use") (hAssign : t.kind? ≠ some .assign)
    (hWell : ∀ arg ∈ args, arg.WellFormed) :
    (noteMiddleware t).perform a = outcomeAt t a := by
  have hHandler : handlerName? t = none := by
    unfold handlerName?
    rw [hMethod, hUse]
    cases t.arguments.head?.bind Tree.text? with
    | none => rfl
    | some path => rfl
  rw [outcomeAt, isBareUse, noted_of_ne_assign hAssign, endpointsAt, flowsAt, hHandler,
    middlewareName?, hMethod, hArguments, noteMiddleware]
  cases args with
  | nil =>
      have hFirst : (t.field "args" >>= Tree.first) = .error .listIndexRange := by
        rw [hField]
        rfl
      simp only [perform_bind, perform_attempt, hFirst, hUse]
      rfl
  | cons argument args =>
      have hFirst : (t.field "args" >>= Tree.first) = .ok argument := by
        rw [hField]
        rfl
      simp only [perform_bind, perform_attempt, hFirst]
      by_cases hName : argument.kind? = some .name
      · obtain ⟨span, id, rest, rfl, -⟩ := (hWell argument List.mem_cons_self).name hName
        simp only [kind?_node, beq_self_eq_true, if_true, perform_bind, perform_attempt,
          Tree.nameField_id]
        simp [Tree.name?, Tree.ident, hUse, Analysis.addFlow]
      · simp [hName, Flask.name?_of_ne hName, hUse, Analysis.addFlow]

theorem perform_noteLabel (hAssign : t.kind? ≠ some .assign)
    (hWell : ∀ arg ∈ args, arg.WellFormed) :
    (noteLabel (.str attr) t).perform a = outcomeAt t a := by
  unfold noteLabel
  by_cases hLabel : attr ∈ handlerLabels
  · rw [if_pos (by simpa [Json.isOneOf] using hLabel)]
    exact perform_noteHandler hMethod hField hArguments hLabel hAssign
  · rw [if_neg (by simpa [Json.isOneOf] using hLabel)]
    by_cases hUse : attr = "use"
    · rw [if_pos (by simp [Json.isOneOf, hUse])]
      exact perform_noteMiddleware hMethod hField hArguments hUse hAssign hWell
    · rw [if_neg (by simp [Json.isOneOf, hUse]), outcomeAt_eq_self hAssign]
      · rfl
      · intro _ _ hOther
        rw [hMethod] at hOther
        cases hOther
        exact ⟨hLabel, hUse⟩

end Calls

/-- Only a middleware call can fail. -/
theorem perform_noteCall {a : Analysis} {t : Tree} (h : t.WellFormed)
    (hKind : t.kind? = some .call) : (noteCall t).perform a = outcomeAt t a := by
  have hAssign : t.kind? ≠ some .assign := by simp [hKind]
  have hNothing (hMethod : t.method? = none) : (Except.ok (), a) = outcomeAt t a := by
    rw [outcomeAt_eq_self hAssign]
    simp [hMethod]
  obtain ⟨span, called, args, rest, rfl, hCalled, hArgs⟩ := h.call_arguments hKind
  simp only [noteCall, perform_bind, perform_attempt, Tree.field_func hCalled]
  by_cases hAttribute : called.kind? = some .attribute
  · obtain ⟨spanCalled, value, attr, more, rfl, hValue, -⟩ := hCalled.attribute hAttribute
    simp only [kind?_node, beq_self_eq_true, if_true, perform_bind, perform_attempt,
      Tree.field_attribute_value hValue]
    by_cases hName : value.kind? = some .name
    · obtain ⟨spanValue, receiver, others, rfl, -⟩ := hValue.name hName
      simp only [kind?_node, beq_self_eq_true, if_true, perform_bind, perform_attempt,
        Tree.nameField_attr]
      exact perform_noteLabel Tree.method?_call rfl rfl hAssign hArgs
    · simp only [hName, beq_iff_eq, if_false]
      apply hNothing
      simp [Tree.method?, Tree.called?, Tree.attribute?, Tree.ident, Flask.name?_of_ne hName]
  · simp only [hAttribute, beq_iff_eq, if_false]
    apply hNothing
    simp [Tree.method?, Tree.called?, Flask.attribute?_of_ne hAttribute]

section Assignments

variable {a : Analysis} {t target : Tree} {targets : List Tree}

/-- The state with the value of an assignment assigned to variables. -/
def assigned (names : List Text) (t : Tree) (a : Analysis) : Analysis :=
  { a with
    sources := setEntries (recordsTo names t.assignedValue) a.sources
    scope := setEntries (Flask.bindingsTo names a.function t) a.scope }

theorem assigned_nil (t : Tree) (a : Analysis) : assigned [] t a = a := by
  unfold assigned recordsTo
  cases requestPath? t.assignedValue <;> simp [Flask.bindingsTo]

theorem assigned_singleton (name : Text) (t : Tree) (a : Analysis) : assigned [name] t a =
    match requestPath? t.assignedValue with
    | some path =>
      (a.bind (.str name) t.assignedValue).setSource (.str name) ⟨.requestData, .str path⟩
    | none => a.bind (.str name) t.assignedValue := by
  unfold assigned recordsTo
  cases requestPath? t.assignedValue <;> rfl

theorem assigned_append (first second : List Text) (t : Tree) (a : Analysis) :
    assigned (first ++ second) t a = assigned second t (assigned first t a) := by
  unfold assigned recordsTo
  cases requestPath? t.assignedValue <;> simp [Flask.bindingsTo, setEntries_append]

/-- What is noted at an assignment is what it assigns to variables. -/
theorem outcomeAt_of_assign (h : t.kind? = some .assign) :
    outcomeAt t a = (.ok (), assigned t.assignedNames t a) := by
  have hMethod : t.method? = none := Flask.method?_of_ne (by simp [h])
  simp [outcomeAt, isBareUse, noted, endpointsAt, flowsAt, handlerName?, middlewareName?, hMethod,
    assigned, recordsAt, Flask.bindingsAt]

variable {base : Option Text} {labels : List Text} (hValue : IsChain t.assignedValue base labels)
  (hField : t.field "value" = .ok t.assignedValue)
include hValue hField

/-- A plain name is assigned to, and other targets are passed over. -/
theorem perform_noteTarget (hTarget : target.kind? = some .name → target.name?.isSome) :
    (noteTarget t target).perform a = (.ok (), assigned target.name?.toList t a) := by
  unfold noteTarget
  by_cases hName : target.kind? = some .name
  · obtain ⟨name, hId⟩ := Option.isSome_iff_exists.1 (hTarget hName)
    obtain ⟨span, others, rfl⟩ := Tree.eq_node_of_name? hId
    have hKey : ((Syntax.Tree.node .name span (.ident name :: others)).nameField "id" >>=
        Json.asKey) = .ok (.str name) := rfl
    simp only [kind?_node, beq_self_eq_true, if_true, perform_bind, perform_attempt, hField, hKey,
      perform_modify]
    change _ = (Except.ok (), assigned [name] t a)
    rw [assigned_singleton]
    by_cases hAttribute : t.assignedValue.kind? = some .attribute
    · simp only [requestPath?, hAttribute, beq_self_eq_true, if_true, perform_bind,
        perform_attempt, hValue.attributePath]
      split
      · rfl
      · rfl
    · have hNone : requestPath? t.assignedValue = none := by
        unfold requestPath?
        split
        · next hKind _ => exact absurd hKind hAttribute
        · rfl
      simp only [hNone, hAttribute, beq_iff_eq, if_false]
      rfl
  · simp only [hName, beq_iff_eq, if_false, Flask.name?_of_ne hName, Option.toList_none,
      assigned_nil]
    rfl

/-- Targets are assigned to in turn. -/
theorem perform_noteTargets
    (hTargets : ∀ target ∈ targets, target.kind? = some .name → target.name?.isSome) :
    (targets.forM (noteTarget t)).perform a =
      (.ok (), assigned (targets.filterMap Tree.name?) t a) := by
  induction targets generalizing a with
  | nil =>
      rw [List.filterMap_nil, assigned_nil]
      rfl
  | cons target targets ih =>
      obtain ⟨hTarget, hRest⟩ := List.forall_mem_cons.1 hTargets
      have hNames : (target :: targets).filterMap Tree.name? =
          target.name?.toList ++ targets.filterMap Tree.name? := by
        cases hName : target.name? <;> simp [hName]
      rw [List.forM_eq_forM, List.forM_cons, perform_bind,
        perform_noteTarget hValue hField hTarget, hNames, assigned_append]
      exact ih hRest

end Assignments

section Visits

variable {a : Analysis} {f : Json} {t : Tree} {passed rest : List (Json × Tree)}

/-- An assignment of a chain is noted, whatever is assigned to besides plain names. -/
theorem perform_noteChain {span : Span} {targets others : List Tree} {value : Tree}
    {base : Option Text} {labels : List Text} (hValue : IsChain value base labels)
    (hTargets : ∀ target ∈ targets, target.kind? = some .name → target.name?.isSome) :
    (noteAssignment (.node .assign span (.list targets :: value :: others))).perform a =
      outcomeAt (.node .assign span (.list targets :: value :: others)) a := by
  have hElements : ((Syntax.Tree.node .assign span (.list targets :: value :: others)).field
      "targets" >>= Tree.elements) = .ok targets := rfl
  rw [outcomeAt_of_assign rfl]
  unfold noteAssignment
  rw [perform_bind, perform_attempt, hElements]
  exact perform_noteTargets hValue (Tree.field_of_node hValue.isNode rfl) hTargets

/-- An assignment in a well-formed tree has one outcome. -/
theorem perform_noteAssignment (h : t.WellFormed) (hKind : t.kind? = some .assign) :
    (noteAssignment t).perform a = outcomeAt t a := by
  obtain ⟨span, targets, value, others, rfl, hTargets, hValue⟩ := h.assign hKind
  obtain ⟨base, labels, hChain⟩ := exists_isChain value hValue
  refine perform_noteChain hChain fun target hTarget hName => ?_
  obtain ⟨span, id, rest, rfl, -⟩ := (hTargets target hTarget).name hName
  rfl

/-- What happens at a node of a well-formed tree. -/
theorem perform_noteNode (h : t.WellFormed) :
    (Tracking.noteNode note t).perform a = outcomeAt t a := by
  have hNothing (hAssign : t.kind? ≠ some .assign) (hCall : t.kind? ≠ some .call) :
      (Except.ok (), a) = outcomeAt t a := by
    rw [outcomeAt_eq_self hAssign]
    simp [Flask.method?_of_ne hCall]
  rw [Tracking.noteNode, perform_bind, Flask.perform_askValue h]
  by_cases hDefinition : t.kind? = some .functionDef
  · simp only [if_pos hDefinition]
    rw [← hNothing (by simp [hDefinition]) (by simp [hDefinition])]
    obtain ⟨span, name, args, body, decorators, others, rfl, -⟩ := h.definition hDefinition
    rfl
  · simp only [if_neg hDefinition, note]
    split
    · next hCall => exact perform_noteCall h hCall
    · next hAssign => exact perform_noteAssignment h hAssign
    · next hCall hAssign => exact hNothing hAssign hCall

/-- A run gets through nodes that are no middleware calls without arguments. -/
theorem run_append_of_free (hWell : ∀ p ∈ passed, p.2.WellFormed)
    (hFree : ∀ p ∈ passed, isBareUse p.2 = false) :
    (Tracking.plan note).run f (passed ++ rest) a =
      (Tracking.plan note).run f rest (noted passed a) := by
  induction passed generalizing a with
  | nil => rw [noted_nil, List.nil_append]
  | cons p passed ih =>
      obtain ⟨hFirst, hOthers⟩ := List.forall_mem_cons.1 hWell
      obtain ⟨hFreeFirst, hFreeOthers⟩ := List.forall_mem_cons.1 hFree
      have hOut : (Tracking.plan note).handle p a = (.ok (), (noted [p] a).enterFunction p.1) := by
        refine (perform_noteNode hFirst).trans ?_
        rw [outcomeAt, hFreeFirst]
        rfl
      rw [List.cons_append, Plan.run, hOut]
      simp only
      rw [Plan.run_enterFunction, ih hOthers hFreeOthers, ← noted_cons]

/-- A visit is a run over the nodes, each in the function around it. -/
theorem perform_visit (h : t.WellFormed) :
    (visit t).perform a = (Tracking.plan note).run a.function (nodesWithin a.function t) a := by
  unfold visit
  rw [visitor_eq, Tracking.perform_visit note_function h.1]

/-- A visit without middleware calls that lack arguments notes all nodes. -/
theorem visit_free (h : t.WellFormed) (hFree : ∀ d ∈ t.nodes, isBareUse d = false) :
    (visit t).perform a = (.ok (), noted (nodesWithin a.function t) a) := by
  have hNodes : ∀ p ∈ nodesWithin a.function t, isBareUse p.2 = false := by
    intro p hNode
    exact hFree p.2 (mem_nodes_of_mem_nodesWithin hNode)
  rw [perform_visit h, ← List.append_nil (nodesWithin a.function t),
    run_append_of_free (nodesWithin_wellFormed h) hNodes, List.append_nil]
  exact congrArg _ (Analysis.enterFunction_self _)

/-- A visit stops at the first middleware call without arguments, in the function around it. -/
theorem visit_stops (h : t.WellFormed) {call : Tree}
    (hNodes : nodesWithin a.function t = passed ++ (f, call) :: rest)
    (hFree : ∀ p ∈ passed, isBareUse p.2 = false) (hBare : isBareUse call = true) :
    (visit t).perform a = (.error .listIndexRange, (noted passed a).enterFunction f) := by
  have hWell := nodesWithin_wellFormed (f := a.function) h
  rw [hNodes, List.forall_mem_append, List.forall_mem_cons] at hWell
  have hOut : (Tracking.plan note).handle (f, call) (noted passed a) =
      (.error .listIndexRange, (noted passed a).enterFunction f) := by
    refine (perform_noteNode hWell.2.1).trans ?_
    rw [outcomeAt, hBare]
    rfl
  rw [perform_visit h, hNodes, run_append_of_free hWell.1 hFree, Plan.run, hOut]

end Visits

end RepoAudit.Express
