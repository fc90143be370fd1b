import RepoAudit.Proofs.Flask.Notes

/-!
What happens at the events of a well-formed tree. Main statement: an event either adds exactly what
there is to note and prints, or it is a decorator that cannot be shown, and adds nothing.
-/
namespace RepoAudit.Flask

open Syntax Analysis

variable {m : Manner} {a : Analysis} {f : Json} {t : Tree} {span : Span} {fields : List Tree}

theorem kind?_node (kind : Kind) : (Syntax.Tree.node kind span fields).kind? = some kind := rfl

/-- Request data is recorded under the name of its function and flows into it. -/
theorem perform_noteSource (name receiver path : Text) :
    (noteSource (.str name) (.str receiver) path).perform a =
      (.ok (), (a.setSource (.str name) ⟨.requestData, .str (name ++ "::" ++ path)⟩).addFlow
        ⟨.str (name ++ "::" ++ path), .str name, [.str path, .str name], [.str receiver]⟩) := rfl

/-- A response flows out of whatever is recorded for its function, over all variables. -/
theorem perform_noteSink (name attr : Text) :
    (noteSink (.str name) (.str attr)).perform a =
      (.ok (), a.addFlow ⟨recordedSource a.sources (.str name), .str (name ++ "::" ++ attr),
        [.str name], a.carriers⟩) := rfl

/-- An attribute of the request is noted as a source of the function. -/
theorem perform_noteAttribute (hFunction : a.function = f) (hPlace : IsPlace f) (h : t.WellFormed)
    (hKind : t.kind? = some .attribute) :
    ∃ b, (noteAttribute t).perform a = (.ok (), b) ∧ Noted (.node f t) a b := by
  obtain ⟨span, value, attr, rest, rfl, hValue, hAttr⟩ := h.attribute hKind
  have hNothing
      (hReads : readsRequest (.node .attribute span (value :: .ident attr :: rest)) = false) :
      Noted (.node f (.node .attribute span (value :: .ident attr :: rest))) a a :=
    noted_of_attribute rfl hFunction rfl rfl (by simp [attributeRecords, hReads]) rfl
  simp only [noteAttribute, Step.perform_bind, Step.perform_attempt,
    Tree.field_attribute_value hValue]
  by_cases hName : value.kind? = some .name
  · obtain ⟨spanValue, name, others, rfl, -⟩ := hValue.name hName
    simp only [kind?_node, beq_self_eq_true, if_true, Step.perform_bind, Step.perform_attempt,
      Tree.nameField_id, Tree.nameField_attr]
    by_cases hRequest : name = "request"
    · have hOne : Json.isOneOf ["request"] (.str name) = true := by simp [Json.isOneOf, hRequest]
      rw [if_pos hOne, Step.perform_bind, Step.perform_attempt]
      by_cases hSource : sources.contains ("request." ++ (Json.str attr).display) = true
      · simp only [if_pos hSource, Step.perform_bind, Step.perform_get, Step.perform_attempt,
          hFunction, hPlace.asKey]
        refine ⟨_, rfl, noted_of_attribute rfl hFunction rfl rfl ?_ rfl⟩
        have hReads : readsRequest (.node .attribute span
            (.node .name spanValue (.ident name :: others) :: .ident attr :: rest)) = true := by
          simpa [readsRequest, Json.display, Tree.attribute?, Tree.name?, Tree.ident, hRequest]
            using hSource
        simp [attributeRecords, hReads, hFunction, setSource]
      · simp only [if_neg hSource]
        refine ⟨a, rfl, hNothing ?_⟩
        simpa [readsRequest, Json.display, Tree.attribute?, Tree.name?, Tree.ident, hRequest]
          using hSource
    · have hOne : ¬Json.isOneOf ["request"] (.str name) = true := by simp [Json.isOneOf, hRequest]
      rw [if_neg hOne]
      refine ⟨a, rfl, hNothing ?_⟩
      simp [readsRequest, Tree.attribute?, Tree.name?, Tree.ident, hRequest]
  · simp only [hName, beq_iff_eq, if_false]
    refine ⟨a, rfl, hNothing ?_⟩
    simp [readsRequest, Tree.attribute?, Tree.ident, name?_of_ne hName]

/-- The state `b` is `a` with the value of an assignment assigned to variables. -/
structure Assigned (names : List Text) (t : Tree) (a b : Analysis) : Prop where
  function : b.function = a.function
  entryPoints : b.entryPoints = a.entryPoints
  flows : b.flows = a.flows
  sources : b.sources = setEntries (inputsTo names a.function t) a.sources
  scope : b.scope = setEntries (bindingsTo names a.function t) a.scope

theorem assigned_nil (t : Tree) (a : Analysis) : Assigned [] t a a :=
  ⟨rfl, rfl, rfl, by simp [inputsTo], rfl⟩

/-- Names are assigned to in turn. -/
theorem Assigned.append {first second : List Text} {b c : Analysis} (hFirst : Assigned first t a b)
    (hSecond : Assigned second t b c) : Assigned (first ++ second) t a c where
  function := hSecond.function.trans hFirst.function
  entryPoints := hSecond.entryPoints.trans hFirst.entryPoints
  flows := hSecond.flows.trans hFirst.flows
  sources := by
    have hInputs : inputsTo (first ++ second) a.function t =
        inputsTo first a.function t ++ inputsTo second a.function t := by
      unfold inputsTo
      split <;> simp
    rw [hSecond.sources, hFirst.sources, hFirst.function, hInputs, setEntries_append]
  scope := by
    rw [hSecond.scope, hFirst.scope, hFirst.function, bindingsTo, bindingsTo, bindingsTo,
      List.map_append, setEntries_append]

/-- A function that is defined is noted if it processes every request. -/
theorem perform_noteProcessor (hFunction : a.function = f) (hPlace : IsPlace f) :
    ∃ b, noteProcessor.perform a = (.ok (), b) ∧ Noted (.defined f) a b := by
  rw [noteProcessor, Step.perform_bind, Step.perform_get]
  simp only [Step.perform_bind, Step.perform_attempt, hFunction, hPlace.asKey]
  by_cases hProcesses : f.isOneOf processors = true
  · simp only [if_pos hProcesses]
    refine ⟨_, rfl, hFunction, rfl, ?_, rfl, rfl⟩
    rw [Event.flows, if_pos hProcesses]
    rfl
  · simp only [if_neg hProcesses]
    refine ⟨a, rfl, hFunction, rfl, ?_, rfl, rfl⟩
    rw [Event.flows, if_neg hProcesses, List.append_nil]

/-- In a well-formed tree every constant has a value. -/
theorem perform_askValue (h : t.WellFormed) :
    (askValue t : Step Analysis Unit).perform a = (.ok (), a) := by
  unfold askValue
  by_cases hConstant : t.kind? = some .constant
  · obtain ⟨span, value, rest, rfl⟩ := h.constant hConstant
    rfl
  · simp [hConstant]

variable [Output]

/-- A line that the output writes is appended to what was printed. -/
theorem perform_say (a : Analysis) {line : Text} (h : line.Sayable) :
    (say line).perform a = (.ok (), { a with lines := a.lines ++ [line] }) := by
  rw [say, Step.perform_bind, Step.perform_attempt, h.printed]
  rfl

/-- A line that the output writes is printed. -/
theorem perform_trace (m : Manner) (a : Analysis) {line : Text} (h : line.Sayable) :
    (m.trace line).perform a = (.ok (), m.printing line a) := by
  unfold Manner.trace Manner.printing
  by_cases hTraced : m.traced = true
  · rw [if_pos hTraced, if_pos hTraced, perform_say a h]
  · rw [if_neg hTraced, if_neg hTraced]
    rfl

/-- What follows the line about a call of an attribute of a plain name. -/
def noteMethod (m : Manner) (function receiver attr : Json) (path : Text) : Step Analysis Unit := do
  if sources.contains path then
    m.trace ("[DEBUG] Found source pattern: " ++ path)
    if function.truthy then noteSource function receiver path
  else if (← Step.attempt attr.asKey).isOneOf sinks then
    m.trace ("[DEBUG] Found sink pattern: " ++ attr.display)
    if function.truthy then noteSink function attr

/-- A call of a method is noted as a source, a sink or neither. -/
theorem perform_noteMethod {receiver attr : Text} (hFunction : a.function = f) (hPlace : IsPlace f)
    (hKind : t.kind? = some .call) (hMethod : t.method? = some (receiver, attr))
    (hReceiver : IsName receiver) (hAttr : IsName attr) :
    ∃ b, (noteMethod m f (.str receiver) (.str attr) (receiver ++ "." ++ attr)).perform a =
      (.ok (), b) ∧ Noted (.node f t) a b := by
  have hPath : Text.Sayable ("[DEBUG] Found source pattern: " ++ (receiver ++ "." ++ attr)) := by
    simp [hReceiver.writable.sayable, hAttr.writable.sayable]
  have hLine : Text.Sayable ("[DEBUG] Found sink pattern: " ++ (Json.str attr).display) := by
    simp [Json.display, hAttr.writable.sayable]
  have hOutside : Noted (.node .null t) a a ∨ f ≠ .null := by
    by_cases hNull : f = .null
    · exact .inl (noted_refl (hNull ▸ hFunction) (by simp [hKind]) (by simp [hKind]) (.inl rfl))
    · exact .inr hNull
  unfold noteMethod
  by_cases hSource : sources.contains (receiver ++ "." ++ attr) = true
  · rw [if_pos hSource, Step.perform_bind, perform_trace m a hPath]
    rcases hPlace with rfl | ⟨name, rfl, hName⟩
    · exact ⟨_, rfl, (hOutside.resolve_right (· rfl)).printing _⟩
    · simp only [hName.truthy, if_true]
      rw [perform_noteSource]
      refine ⟨_, rfl, noted_of_call hKind hFunction rfl ?_ ?_ rfl⟩
      · simp only [flowAt, hMethod, hSource, if_true]
        rfl
      · simp only [callRecords, hMethod, hSource, if_true]
        rfl
  · have hSink : (Json.str attr).isOneOf sinks = sinks.contains attr := rfl
    have hKey : (Json.str attr).asKey = .ok (.str attr) := rfl
    rw [if_neg hSource, Step.perform_bind, Step.perform_attempt, hKey]
    simp only [hSink]
    have hRecords : callRecords f t = [] := by
      cases f <;> simp only [callRecords, hMethod, hSource, if_false, Bool.false_eq_true]
    by_cases hContains : sinks.contains attr = true
    · simp only [if_pos hContains]
      rw [Step.perform_bind, perform_trace m a hLine]
      rcases hPlace with rfl | ⟨name, rfl, hName⟩
      · exact ⟨_, rfl, (hOutside.resolve_right (· rfl)).printing _⟩
      · simp only [hName.truthy, if_true]
        rw [perform_noteSink]
        refine ⟨_, rfl, noted_of_call hKind hFunction rfl ?_ (by rw [hRecords]; rfl) rfl⟩
        simp only [flowAt, hMethod, hSource, hContains, if_true, if_false, Bool.false_eq_true]
        rfl
    · simp only [if_neg hContains]
      have hFlow : flowAt a.sources a.carriers f t = none := by
        cases f <;>
          simp only [flowAt, hMethod, hSource, hContains, if_false, Bool.false_eq_true]
      exact ⟨a, rfl,
        noted_of_call hKind hFunction rfl (by simp [hFlow]) (by rw [hRecords]; rfl) rfl⟩

/-- A call is noted if it calls an attribute of a plain name. -/
theorem perform_noteCall (hFunction : a.function = f) (hPlace : IsPlace f) (h : t.WellFormed)
    (hKind : t.kind? = some .call) :
    ∃ b, (noteCall m t).perform a = (.ok (), b) ∧ Noted (.node f t) a b := by
  obtain ⟨span, called, rest, rfl, hCalled⟩ := h.call hKind
  simp only [noteCall, Step.perform_bind, Step.perform_attempt, Tree.field_func hCalled]
  by_cases hAttribute : called.kind? = some .attribute
  · obtain ⟨spanCalled, value, attr, more, rfl, hValue, hAttr⟩ := hCalled.attribute hAttribute
    simp only [kind?_node, beq_self_eq_true, if_true, Step.perform_bind, Step.perform_attempt,
      Tree.field_attribute_value hValue, Tree.nameField_attr]
    by_cases hName : value.kind? = some .name
    · obtain ⟨spanValue, receiver, others, rfl, hReceiver⟩ := hValue.name hName
      simp only [kind?_node, beq_self_eq_true, if_true, Step.perform_bind, Step.perform_attempt,
        Tree.nameField_id, Json.display, Step.perform_get]
      rw [perform_trace m a (by simp [hReceiver.writable.sayable, hAttr.writable.sayable])]
      simp only [printing_function, hFunction]
      obtain ⟨b, hOut, hNoted⟩ := perform_noteMethod (m := m)
        (a := m.printing ("\n[DEBUG] Processing function call: " ++ (receiver ++ "." ++ attr)) a)
        hFunction hPlace rfl Tree.method?_call hReceiver hAttr
      exact ⟨b, hOut, hNoted.of_printing⟩
    · simp only [hName, beq_iff_eq, if_false]
      refine ⟨a, rfl, noted_refl hFunction (by simp [kind?_node]) (by simp [kind?_node]) (.inr ?_)⟩
      simp [Tree.method?, Tree.called?, Tree.attribute?, Tree.ident, name?_of_ne hName]
  · simp only [hAttribute, beq_iff_eq, if_false]
    refine ⟨a, rfl, noted_refl hFunction (by simp [kind?_node]) (by simp [kind?_node]) (.inr ?_)⟩
    simp [Tree.method?, Tree.called?, attribute?_of_ne hAttribute]

/-- What follows the record of an assignment to a variable. -/
def noteInput (m : Manner) (name : Json) (value : Tree) : Step Analysis Unit := do
  if value.kind? == some .call then
    let function ← Step.attempt (value.field "func")
    if function.kind? == some .name then
      let called ← Step.attempt (function.nameField "id")
      m.trace ("[DEBUG] Assignment value is function call: " ++ called.display)
      if called.isOneOf inputFunctions then
        modify fun a => a.setSource name ⟨.externalInput, a.function⟩

/-- A variable that gets a value from outside becomes a source. -/
theorem perform_noteInput {value : Tree} (hValue : value.WellFormed) (name : Json) :
    ∃ lines, (noteInput m name value).perform a = (.ok (), { (if isInput value then
      a.setSource name ⟨.externalInput, a.function⟩ else a) with lines := lines }) := by
  have hNothing (hInput : isInput value = false) : a = { (if isInput value then
      a.setSource name ⟨.externalInput, a.function⟩ else a) with lines := a.lines } := by
    simp [hInput]
  unfold noteInput
  by_cases hCall : value.kind? = some .call
  · obtain ⟨spanValue, called, rest, rfl, hCalled⟩ := hValue.call hCall
    simp only [kind?_node, beq_self_eq_true, if_true, Step.perform_bind, Step.perform_attempt,
      Tree.field_func hCalled]
    by_cases hName : called.kind? = some .name
    · obtain ⟨spanCalled, function, others, rfl, hFunction⟩ := hCalled.name hName
      have hInput : isInput (.node .call spanValue
          (.node .name spanCalled (.ident function :: others) :: rest)) =
          (Json.str function).isOneOf inputFunctions := rfl
      simp only [kind?_node, beq_self_eq_true, if_true, Step.perform_bind, Step.perform_attempt,
        Tree.nameField_id, hInput]
      rw [perform_trace m a (by simp [Json.display, hFunction.writable.sayable])]
      by_cases hTakes : (Json.str function).isOneOf inputFunctions = true
      · simp only [if_pos hTakes]
        exact ⟨_, rfl⟩
      · simp only [if_neg hTakes]
        exact ⟨_, rfl⟩
    · simp only [hName, beq_iff_eq, if_false]
      refine ⟨a.lines, congrArg _ (hNothing ?_)⟩
      simp [isInput, Tree.calledName?, Tree.called?, name?_of_ne hName]
  · simp only [hCall, beq_iff_eq, if_false]
    refine ⟨a.lines, congrArg _ (hNothing ?_)⟩
    simp [isInput, Tree.calledName?, called?_of_ne hCall]

section Targets

variable {value : Tree} (hValue : value.WellFormed) (hField : t.field "value" = .ok value)
  (hAssigned : t.assignedValue = value)
include hValue hField hAssigned

/-- A plain name is bound to the value, and other targets are passed over. -/
theorem perform_noteTarget {target : Tree} (hTarget : target.WellFormed) :
    ∃ b, (noteTarget m t target).perform a = (.ok (), b) ∧
      Assigned target.name?.toList t a b := by
  unfold noteTarget
  by_cases hName : target.kind? = some .name
  · obtain ⟨spanTarget, name, others, rfl, hId⟩ := hTarget.name hName
    simp only [kind?_node, beq_self_eq_true, if_true, Step.perform_bind, Step.perform_attempt,
      Tree.nameField_id, hField]
    rw [perform_trace m a (by simp [Json.display, hId.writable.sayable])]
    obtain ⟨lines, hInput⟩ := perform_noteInput (m := m) (a := (m.printing
      ("[DEBUG] Assignment to variable: " ++ (Json.str name).display) a).bind (.str name) value)
      hValue (.str name)
    refine ⟨_, hInput, ?_⟩
    subst hAssigned
    by_cases hTakes : isInput t.assignedValue = true
    · simp only [if_pos hTakes]
      refine ⟨rfl, rfl, rfl, ?_, rfl⟩
      rw [inputsTo, if_pos hTakes]
      rfl
    · simp only [if_neg hTakes]
      refine ⟨rfl, rfl, rfl, ?_, rfl⟩
      rw [inputsTo, if_neg hTakes]
      rfl
  · simp only [hName, beq_iff_eq, if_false, name?_of_ne hName]
    exact ⟨a, rfl, assigned_nil t a⟩

/-- The plain names among targets are bound in turn. -/
theorem perform_noteTargets (targets : List Tree)
    (hTargets : ∀ target ∈ targets, target.WellFormed) :
    ∃ b, (targets.forM (noteTarget m t)).perform a = (.ok (), b) ∧
      Assigned (targets.filterMap Tree.name?) t a b := by
  induction targets generalizing a with
  | nil => exact ⟨a, rfl, assigned_nil t a⟩
  | cons target targets ih =>
      obtain ⟨b, hOut, hFirst⟩ := perform_noteTarget (m := m) (a := a) hValue hField hAssigned
        (hTargets target List.mem_cons_self)
      obtain ⟨c, hRest, hAll⟩ := ih (a := b) fun t h => hTargets t (List.mem_cons_of_mem _ h)
      refine ⟨c, ?_, ?_⟩
      · rw [List.forM_eq_forM, List.forM_cons, Step.perform_bind, hOut]
        exact hRest
      · have hNames : (target :: targets).filterMap Tree.name? =
            target.name?.toList ++ targets.filterMap Tree.name? := by
          cases hName : target.name? <;> simp [hName]
        rw [hNames]
        exact hFirst.append hAll

end Targets

/-- An assignment is noted for each of its targets that is a variable. -/
theorem perform_noteAssignment (hFunction : a.function = f) (hPlace : IsPlace f)
    (h : t.WellFormed) (hKind : t.kind? = some .assign) :
    ∃ b, (noteAssignment m t).perform a = (.ok (), b) ∧ Noted (.node f t) a b := by
  obtain ⟨span, targets, value, rest, rfl, hTargets, hValue⟩ := h.assign hKind
  have hElements : ((Syntax.Tree.node .assign span (.list targets :: value :: rest)).field
      "targets" >>= Tree.elements) = .ok targets := rfl
  unfold noteAssignment
  rw [Step.perform_bind, Step.perform_get]
  simp only [Step.perform_bind, Step.perform_attempt, hElements]
  rw [perform_trace m a (by simp [hFunction, hPlace.display_writable.sayable])]
  obtain ⟨b, hOut, hAssigned⟩ := perform_noteTargets (m := m)
    (a := m.printing ("\n[DEBUG] Processing assignment in " ++ a.function.display) a)
    (t := .node .assign span (.list targets :: value :: rest)) hValue
    (Tree.field_assign_value hValue) rfl targets hTargets
  refine ⟨b, hOut, hAssigned.function.trans hFunction, hAssigned.entryPoints, ?_, ?_, ?_⟩
  · rw [Event.flows, flowAt_of_ne (by simp [kind?_node]), Option.toList_none, List.append_nil]
    exact hAssigned.flows
  · rw [Event.records, recordsAt, attributeRecords_of_ne (by simp [kind?_node]),
      callRecords_of_ne (by simp [kind?_node]), List.append_nil, List.append_nil, ← hFunction]
    exact hAssigned.sources
  · rw [Event.bindings, ← hFunction]
    exact hAssigned.scope

/-- The line about a decorator is printed, unless it has to show what cannot be shown. -/
theorem perform_traceDecorator (h : t.WellFormed) (hShown : m.traced = true → t.Showable) :
    ∃ lines, (traceDecorator m t).perform a = (.ok (), { a with lines := lines }) := by
  unfold traceDecorator
  by_cases hTraced : m.traced = true
  · obtain ⟨shown, hDump⟩ := (Tree.dump_ok_iff h).2 (hShown hTraced)
    obtain ⟨kind, span, fields, rfl⟩ := h.node_eq
    rw [if_pos hTraced, Step.perform_bind, Step.perform_attempt, hDump]
    exact ⟨_, perform_say a (by simp [(Tree.shown_writable _ hDump).sayable])⟩
  · rw [if_neg hTraced]
    exact ⟨a.lines, rfl⟩

/-- A decorator that cannot be shown stops a traced analysis. -/
theorem perform_noteDecorator_stops (h : t.WellFormed) (hTraced : m.traced = true)
    (hShown : ¬t.Showable) : ∃ fault, (noteDecorator m t).perform a = (.error fault, a) := by
  rcases hDump : t.dump with fault | shown
  · rw [noteDecorator_eq, traceDecorator, if_pos hTraced]
    simp only [Step.perform_bind, Step.perform_attempt, hDump]
    exact ⟨fault, rfl⟩
  · exact absurd ((Tree.dump_ok_iff h).1 ⟨shown, hDump⟩) hShown

/-- A decorator that registers a route is noted for the current function. -/
theorem perform_noteRouteOf (hPlace : IsPlace a.function) (h : t.WellFormed) :
    ∃ lines, (noteRouteOf m t).perform a =
      (.ok (), { (if registersRoute t then noteRoute a else a) with lines := lines }) := by
  have hNothing (hRoute : registersRoute t = false) :
      a = { (if registersRoute t then noteRoute a else a) with lines := a.lines } := by
    simp [hRoute]
  unfold noteRouteOf
  by_cases hCall : t.kind? = some .call
  · obtain ⟨span, called, rest, rfl, hCalled⟩ := h.call hCall
    simp only [kind?_node, beq_self_eq_true, if_true, Step.perform_bind, Step.perform_attempt,
      Tree.field_func hCalled]
    by_cases hAttribute : called.kind? = some .attribute
    · obtain ⟨spanCalled, value, attr, more, rfl, hValue, hAttr⟩ := hCalled.attribute hAttribute
      have hRoute : registersRoute (.node .call span
          (.node .attribute spanCalled (value :: .ident attr :: more) :: rest)) =
          (Json.str attr).isOneOf routeDecorators := rfl
      simp only [Tree.nameField_attr, hRoute]
      by_cases hRegisters : (Json.str attr).isOneOf routeDecorators = true
      · simp only [if_pos hRegisters, Step.perform_bind, Step.perform_get]
        rw [perform_trace m a (by simp [Json.display, hAttr.writable.sayable])]
        simp only [printing_function]
        rw [perform_trace m _ (by simp [hPlace.display_writable.sayable])]
        exact ⟨_, rfl⟩
      · simp only [if_neg hRegisters]
        exact ⟨a.lines, rfl⟩
    · obtain ⟨fault, hFault⟩ := Tree.nameField_attr_of_ne hAttribute
      simp only [hFault]
      refine ⟨a.lines, congrArg _ (hNothing ?_)⟩
      simp [registersRoute, Tree.called?, attribute?_of_ne hAttribute]
  · simp only [hCall, beq_iff_eq, if_false]
    refine ⟨a.lines, congrArg _ (hNothing ?_)⟩
    simp [registersRoute, called?_of_ne hCall]

/-- A decorator that can be shown is noted. -/
theorem perform_noteDecorator (hFunction : a.function = f) (hPlace : IsPlace f) (h : t.WellFormed)
    (hShown : m.traced = true → t.Showable) :
    ∃ b, (noteDecorator m t).perform a = (.ok (), b) ∧ Noted (.decorator f t) a b := by
  subst hFunction
  obtain ⟨before, hTrace⟩ := perform_traceDecorator (a := a) h hShown
  obtain ⟨after, hRoute⟩ := perform_noteRouteOf (m := m) (a := { a with lines := before }) hPlace h
  rw [noteDecorator_eq, Step.perform_bind, hTrace]
  refine ⟨_, hRoute, ?_⟩
  by_cases hRegisters : registersRoute t = true
  · simp only [if_pos hRegisters]
    refine ⟨rfl, ?_, ?_, rfl, rfl⟩
    · rw [Event.endpoints, if_pos hRegisters]
      rfl
    · rw [Event.flows, if_pos hRegisters]
      rfl
  · simp only [if_neg hRegisters]
    refine ⟨rfl, ?_, ?_, rfl, rfl⟩
    · rw [Event.endpoints, if_neg hRegisters]
      rfl
    · rw [Event.flows, if_neg hRegisters, List.append_nil]

/-- A node is noted by its kind. -/
theorem perform_enterNode (hFunction : a.function = f) (hPlace : IsPlace f) (h : t.WellFormed) :
    ∃ b, (Event.enterNode m t).perform a = (.ok (), b) ∧ Noted (.node f t) a b := by
  have hNothing (hAssign : t.kind? ≠ some .assign) (hAttribute : t.kind? ≠ some .attribute)
      (hCall : t.kind? ≠ some .call) : Noted (.node f t) a a :=
    noted_refl hFunction hAssign hAttribute (.inr (method?_of_ne hCall))
  unfold Event.enterNode
  by_cases hDefinition : t.kind? = some .functionDef
  · rw [if_pos hDefinition]
    obtain ⟨span, name, args, body, decorators, rest, rfl, hName, -⟩ := h.definition hDefinition
    simp only [Step.perform_bind, Step.perform_attempt, Tree.nameField_name]
    rw [perform_trace m a (by simp [Json.display, hName.writable.sayable])]
    exact ⟨_, rfl, (hNothing (by simp [kind?_node]) (by simp [kind?_node])
      (by simp [kind?_node])).printing _⟩
  · rw [if_neg hDefinition, enter]
    split
    · next hKind => exact absurd hKind hDefinition
    · next hAssign => exact perform_noteAssignment hFunction hPlace h hAssign
    · next hAttribute => exact perform_noteAttribute hFunction hPlace h hAttribute
    · next hCall => exact perform_noteCall hFunction hPlace h hCall
    · next _ hAssign hAttribute hCall =>
        exact ⟨a, rfl, hNothing hAssign hAttribute hCall⟩

/-- An event of a well-formed tree that does not stop the analysis adds what there is to note. -/
theorem handle_noted {e : Event} (hWell : e.WellFormed) (hRuns : ¬e.Stops m) :
    ∃ b, (plan m).handle e a = (.ok (), b) ∧ Noted e a b := by
  have hMoved {b : Analysis} (h : Noted e (a.enterFunction e.function) b) : Noted e a b :=
    ⟨h.function, h.entryPoints, h.flows, h.sources, h.scope⟩
  suffices h : ∃ b, (e.work m).perform (a.enterFunction e.function) = (.ok (), b) ∧
      Noted e (a.enterFunction e.function) b by
    obtain ⟨b, hOut, hNoted⟩ := h
    exact ⟨b, hOut, hMoved hNoted⟩
  cases e with
  | node f t =>
      obtain ⟨hPlace, hTree⟩ := hWell
      rw [Event.work, Step.perform_bind, perform_askValue hTree]
      exact perform_enterNode rfl hPlace hTree
  | decorator f t =>
      obtain ⟨hPlace, hTree⟩ := hWell
      refine perform_noteDecorator rfl hPlace hTree fun hTraced => ?_
      by_contra hShown
      exact hRuns ⟨hTraced, hShown⟩
  | defined f => exact perform_noteProcessor rfl hWell
  | broken f fault => exact hWell.elim

/-- An event that stops the analysis adds nothing. -/
theorem handle_stops {e : Event} (hWell : e.WellFormed) (hStops : e.Stops m) :
    ∃ fault, (plan m).handle e a = (.error fault, a.enterFunction e.function) := by
  cases e with
  | decorator f t => exact perform_noteDecorator_stops hWell.2 hStops.1 hStops.2
  | node f t => exact hStops.elim
  | defined f => exact hStops.elim
  | broken f fault => exact hStops.elim

end RepoAudit.Flask
