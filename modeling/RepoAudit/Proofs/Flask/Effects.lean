import RepoAudit.Flow.Flask.Visit
import RepoAudit.Proofs.Json.Display
import RepoAudit.Proofs.Json.Keys
import RepoAudit.Proofs.Step

/-!
What the parts of a Flask analysis can do to its state, on trees of whatever form and with or
without a fault. Calls, attributes and decorators do one thing or nothing, apart from printing.
-/
namespace RepoAudit.Flask

open Syntax Analysis Step

/-- The state `b` is `a`, apart from what was printed. -/
def Prints (a b : Analysis) : Prop := ∃ lines, b = { a with lines := lines }

section Prints

variable {a b c : Analysis}

theorem Prints.refl (a : Analysis) : Prints a a := ⟨a.lines, rfl⟩

theorem Prints.trans (hFirst : Prints a b) (hSecond : Prints b c) : Prints a c := by
  obtain ⟨_, rfl⟩ := hFirst
  obtain ⟨lines, rfl⟩ := hSecond
  exact ⟨lines, rfl⟩

theorem Prints.function (h : Prints a b) : b.function = a.function := by
  obtain ⟨_, rfl⟩ := h
  rfl

theorem Prints.sources (h : Prints a b) : b.sources = a.sources := by
  obtain ⟨_, rfl⟩ := h
  rfl

end Prints

/-- A line changes nothing but what was printed, whether or not it can be printed. -/
theorem say_prints [Output] (line : Text) (a : Analysis) : Prints a ((say line).perform a).2 := by
  rw [say, perform_bind, perform_attempt]
  rcases line.printed with fault | line
  · exact .refl a
  · exact ⟨_, rfl⟩

/-- The trace changes nothing but what was printed. -/
theorem trace_prints [Output] (m : Manner) (line : Text) (a : Analysis) :
    Prints a ((m.trace line).perform a).2 := by
  unfold Manner.trace
  split
  · exact say_prints line a
  · exact .refl a

/-- What follows a line of the trace does so in a state that differs only in what was printed, and
so does a fault in its place. -/
theorem leads_trace [Output] {m : Manner} {line : Text} {a : Analysis}
    {next : Unit → Step Analysis Unit} {q : Except Fault Unit → Analysis → Prop}
    (hFault : ∀ fault b, Prints a b → q (.error fault) b)
    (hNext : ∀ b, Prints a b → (next ()).Leads b q) : (m.trace line >>= next).Leads a q := by
  have hPrints := trace_prints m line a
  refine leads_bind ?_
  rw [Leads]
  rcases hOut : (m.trace line).perform a with ⟨fault | _, b⟩
  · rw [hOut] at hPrints
    exact hFault fault b hPrints
  · rw [hOut] at hPrints
    exact hNext b hPrints

/-- Asking a constant for its value changes nothing. -/
theorem leads_askValue {t : Tree} {a : Analysis} {next : Unit → Step Analysis Unit}
    {q : Except Fault Unit → Analysis → Prop} (hFault : ∀ fault, q (.error fault) a)
    (hNext : (next ()).Leads a q) : (askValue t >>= next).Leads a q := by
  refine leads_bind ?_
  refine leads_ite (fun _ => ?_) (fun _ => hNext)
  exact leads_attempt (fun _ _ => hNext) (fun fault _ => hFault fault)

/-- The line about a decorator. Not every decorator can be shown. -/
def traceDecorator [Output] (m : Manner) (decorator : Tree) : Step Analysis Unit :=
  if m.traced then do say ("[DEBUG] Found decorator: " ++ (← Step.attempt decorator.dump))
  else pure ()

/-- What follows the line about a decorator. -/
def noteRouteOf [Output] (m : Manner) (decorator : Tree) : Step Analysis Unit := do
  if decorator.kind? == some .call then
    let function ← Step.attempt (decorator.field "func")
    match function.nameField "attr" with
    | .ok attr =>
      if attr.isOneOf routeDecorators then
        m.trace ("[DEBUG] Found Flask route decorator: " ++ attr.display)
        m.trace ("[DEBUG] Processing route decorator for function: "
          ++ (← get).function.display)
        modify noteRoute
    | .error _ => pure ()

/-- Notes the current function if it processes every request. -/
def noteProcessor : Step Analysis Unit := do
  let function ← Step.attempt (← get).function.asKey
  if function.isOneOf processors then
    modify (·.addFlow (processorFlow function))

/-- A decorator is traced first and looked at then. -/
theorem noteDecorator_eq [Output] (m : Manner) (decorator : Tree) :
    noteDecorator m decorator =
      traceDecorator m decorator >>= fun _ => noteRouteOf m decorator := by
  unfold noteDecorator traceDecorator
  by_cases hTraced : m.traced = true
  · simp only [if_pos hTraced, bind_assoc]
    rfl
  · simp only [if_neg hTraced, pure_bind]
    rfl

/-- The trace of a decorator changes nothing but what was printed. -/
theorem traceDecorator_prints [Output] (m : Manner) (decorator : Tree) (a : Analysis) :
    Prints a ((traceDecorator m decorator).perform a).2 := by
  unfold traceDecorator
  split
  · rw [perform_bind, perform_attempt]
    rcases decorator.dump with fault | shown
    · exact .refl a
    · exact say_prints _ a
  · exact .refl a

/-- A decorator is noted as a route of the current function, or not at all. -/
theorem noteDecorator_leads [Output] (m : Manner) (decorator : Tree) (a : Analysis) :
    (noteDecorator m decorator).Leads a fun _ b => Prints a b ∨ Prints (noteRoute a) b := by
  have hTrace := traceDecorator_prints m decorator a
  rw [noteDecorator_eq]
  refine leads_bind ?_
  rw [Leads]
  rcases hOut : (traceDecorator m decorator).perform a with ⟨fault | _, b⟩
  · rw [hOut] at hTrace
    exact .inl hTrace
  · rw [hOut] at hTrace
    refine leads_ite (fun _ => ?_) (fun _ => .inl hTrace)
    refine leads_attempt (fun called _ => ?_) (fun _ _ => .inl hTrace)
    split
    · refine leads_ite (fun _ => ?_) (fun _ => .inl hTrace)
      refine leads_trace (fun _ c hFirst => .inl (hTrace.trans hFirst)) fun c hFirst => ?_
      refine leads_get ?_
      refine leads_trace (fun _ d hSecond => .inl ((hTrace.trans hFirst).trans hSecond))
        fun d hSecond => ?_
      obtain ⟨lines, rfl⟩ := (hTrace.trans hFirst).trans hSecond
      exact .inr ⟨lines, rfl⟩
    · exact .inl hTrace

/-- The current function is noted as a processor, or not at all. -/
theorem noteProcessor_leads (a : Analysis) :
    noteProcessor.Leads a fun _ b => b = a ∨ b = a.addFlow (processorFlow a.function) := by
  refine leads_get ?_
  refine leads_attempt (fun function hKey => ?_) (fun _ _ => .inl rfl)
  obtain ⟨rfl, -⟩ := Json.asKey_eq_ok_iff.1 hKey
  exact leads_ite (fun _ => .inr rfl) (fun _ => .inl rfl)

/-- An attribute of the request that holds data from outside. -/
structure IsRequestAttribute (t : Tree) : Prop where
  kind : t.kind? = some .attribute
  value : ∃ value, t.field "value" = .ok value ∧ value.kind? = some .name ∧
    value.nameField "id" = .ok (.str "request")
  attr : ∃ attr, t.nameField "attr" = .ok attr ∧
    sources.contains ("request." ++ attr.display) = true

/-- An attribute is noted as a source of the current function, or not at all. -/
theorem noteAttribute_leads (t : Tree) (a : Analysis) :
    (noteAttribute t).Leads a fun _ b => b = a ∨
      a.function.IsKey ∧ b = a.setSource a.function ⟨.flaskInput, a.function⟩ := by
  refine leads_attempt (fun value _ => ?_) (fun _ _ => .inl rfl)
  refine leads_ite (fun _ => ?_) (fun _ => .inl rfl)
  refine leads_attempt (fun name _ => ?_) (fun _ _ => .inl rfl)
  refine leads_ite (fun _ => ?_) (fun _ => .inl rfl)
  refine leads_attempt (fun attr _ => ?_) (fun _ _ => .inl rfl)
  refine leads_ite (fun _ => ?_) (fun _ => .inl rfl)
  refine leads_get ?_
  refine leads_attempt (fun function hKey => ?_) (fun _ _ => .inl rfl)
  obtain ⟨rfl, hFunction⟩ := Json.asKey_eq_ok_iff.1 hKey
  exact .inr ⟨hFunction, rfl⟩

/-- An attribute of the request is noted, if the current function can be a key. -/
theorem perform_noteAttribute_request {t : Tree} {a : Analysis} (h : IsRequestAttribute t)
    (hKey : a.function.IsKey) : (noteAttribute t).perform a =
      (.ok (), a.setSource a.function ⟨.flaskInput, a.function⟩) := by
  obtain ⟨value, hValue, hName, hId⟩ := h.value
  obtain ⟨attr, hAttr, hSource⟩ := h.attr
  have hRequest : Json.isOneOf ["request"] (.str "request") = true := by decide
  have hAsKey : a.function.asKey = .ok a.function := hKey
  simp only [noteAttribute, perform_bind, perform_attempt, hValue, hName, beq_self_eq_true, if_true,
    hId, hRequest, hAttr, hSource, perform_get, hAsKey, perform_modify]

/-- Data is read by way of the request: every such path has one dot, and the request before it. -/
theorem receiver_of_source {receiver attr : Text}
    (h : sources.contains (receiver ++ "." ++ attr) = true) : receiver = "request" := by
  have hPaths : ∀ path ∈ sources, path.count (.char '.') = 1 ∧
      path.takeWhile (· != .char '.') = ("request" : Text) := by decide
  obtain ⟨hCount, hReceiver⟩ := hPaths _ (List.contains_iff_mem.1 h)
  have hDot : Text.ofString "." = [.char '.'] := rfl
  rw [hDot, List.count_append, List.count_append, List.count_singleton_self] at hCount
  have hNone : CodePoint.char '.' ∉ receiver := List.count_eq_zero.1 (by omega)
  have hBefore : ∀ p ∈ receiver, (p != CodePoint.char '.') = true := by
    intro p hMember
    rw [bne_iff_ne]
    rintro rfl
    exact hNone hMember
  rw [hDot, List.append_assoc, List.takeWhile_append_of_pos hBefore] at hReceiver
  simpa using hReceiver

/-- What is noted at a call: nothing; that the current function reads an attribute of the request,
which is what is called; or that it makes a response. -/
inductive CallNote (t : Tree) (a : Analysis) : Except Fault Unit → Analysis → Prop
  | nothing (result : Except Fault Unit) {b : Analysis} (h : Prints a b) : CallNote t a result b
  | source {called : Tree} {b : Analysis} (location : Json) (flow : DataFlow)
    (hCalled : t.field "func" = .ok called) (hRequest : IsRequestAttribute called)
    (hKey : a.function.IsKey) (hPath : flow.path.length = 2)
    (h : Prints ((a.setSource a.function ⟨.requestData, location⟩).addFlow flow) b) :
    CallNote t a (.ok ()) b
  | sink {b : Analysis} (sink : Json) (carriers : List Json) (hKey : a.function.IsKey)
    (h : Prints (a.addFlow ⟨sourceOf a a.function, sink, [a.function], carriers⟩) b) :
    CallNote t a (.ok ()) b

/-- A call does not change the current function. -/
theorem CallNote.function {t : Tree} {a b : Analysis} {result : Except Fault Unit}
    (h : CallNote t a result b) : b.function = a.function := by
  cases h with
  | nothing _ h => exact h.function
  | source _ _ _ _ _ _ h => exact h.function
  | sink _ _ _ h => exact h.function

/-- What there is to note at a call, for every tree. -/
theorem noteCall_leads [Output] (m : Manner) (t : Tree) (a : Analysis) :
    (noteCall m t).Leads a (CallNote t a) := by
  refine leads_attempt (fun called hCalled => ?_) (fun _ _ => .nothing _ (.refl a))
  refine leads_ite (fun hKind => ?_) (fun _ => .nothing _ (.refl a))
  refine leads_attempt (fun value hValue => ?_) (fun _ _ => .nothing _ (.refl a))
  refine leads_ite (fun hName => ?_) (fun _ => .nothing _ (.refl a))
  refine leads_attempt (fun receiver hReceiver => ?_) (fun _ _ => .nothing _ (.refl a))
  refine leads_attempt (fun attr hAttr => ?_) (fun _ _ => .nothing _ (.refl a))
  refine leads_trace (fun _ b hFirst => .nothing _ hFirst) fun b hFirst => ?_
  obtain ⟨before, rfl⟩ := hFirst
  refine leads_get ?_
  refine leads_ite (fun hSource => ?_) (fun _ => ?_)
  · refine leads_trace (fun _ c hSecond => .nothing _ (.trans ⟨before, rfl⟩ hSecond))
      fun c hSecond => ?_
    obtain ⟨lines, rfl⟩ := hSecond
    refine leads_ite (fun _ => ?_) (fun _ => .nothing _ ⟨lines, rfl⟩)
    have hWord := receiver_of_source hSource
    obtain rfl := Json.eq_request_of_display hWord
    have hRequest : IsRequestAttribute called :=
      ⟨by simpa using hKind, ⟨value, hValue, by simpa using hName, hReceiver⟩, attr, hAttr, hSource⟩
    refine leads_attempt (fun function hKey => ?_) (fun _ _ => .nothing _ ⟨lines, rfl⟩)
    obtain ⟨rfl, hFunction⟩ := Json.asKey_eq_ok_iff.1 hKey
    refine leads_modify ?_
    refine leads_attempt (fun carrier _ => ?_) (fun _ hFault => nomatch hFault)
    exact .source _ ⟨_, _, [_, _], _⟩ hCalled hRequest hFunction rfl ⟨lines, rfl⟩
  · refine leads_attempt (fun key _ => ?_) (fun _ _ => .nothing _ ⟨before, rfl⟩)
    refine leads_ite (fun _ => ?_) (fun _ => .nothing _ ⟨before, rfl⟩)
    refine leads_trace (fun _ c hSecond => .nothing _ (.trans ⟨before, rfl⟩ hSecond))
      fun c hSecond => ?_
    obtain ⟨lines, rfl⟩ := hSecond
    refine leads_ite (fun _ => ?_) (fun _ => .nothing _ ⟨lines, rfl⟩)
    refine leads_attempt (fun function hKey => ?_) (fun _ _ => .nothing _ ⟨lines, rfl⟩)
    obtain ⟨rfl, hFunction⟩ := Json.asKey_eq_ok_iff.1 hKey
    exact .sink _ _ hFunction ⟨lines, rfl⟩

/-- A variable to which an assignment assigns what comes from outside. -/
structure TakesInput (t : Tree) (assigned : Json) : Prop where
  target : ∃ targets target, (t.field "targets" >>= Tree.elements) = .ok targets ∧
    target ∈ targets ∧ target.kind? = some .name ∧ target.nameField "id" = .ok assigned
  value : ∃ value called name, t.field "value" = .ok value ∧ value.kind? = some .call ∧
    value.field "func" = .ok called ∧ called.kind? = some .name ∧
    called.nameField "id" = .ok name ∧ name.isOneOf inputFunctions = true
  key : assigned.IsKey

/-- An assignment keeps what survives printing, bindings, and the sources that it records. -/
theorem noteAssignment_leads [Output] (m : Manner) (t : Tree) {p : Analysis → Prop}
    (hPrints : ∀ a b, Prints a b → p a → p b)
    (hBind : ∀ a name value, p a → p (a.bind name value))
    (hInput : ∀ a assigned, TakesInput t assigned → p a →
      p (a.setSource assigned ⟨.externalInput, a.function⟩)) {a : Analysis} (h : p a) :
    (noteAssignment m t).Leads a fun _ => p := by
  refine leads_get ?_
  refine leads_trace (fun _ b hTrace => hPrints a b hTrace h) fun b hTrace => ?_
  refine leads_attempt (fun targets hTargets => ?_) (fun _ _ => hPrints a b hTrace h)
  refine leads_forM targets (fun target hTarget c hBefore => ?_) (hPrints a b hTrace h)
  refine leads_ite (fun hTargetKind => ?_) (fun _ => hBefore)
  refine leads_attempt (fun name hName => ?_) (fun _ _ => hBefore)
  refine leads_trace (fun _ d hLine => hPrints c d hLine hBefore) fun d hLine => ?_
  have hAfter := hPrints c d hLine hBefore
  refine leads_attempt (fun value hValue => ?_) (fun _ _ => hAfter)
  refine leads_attempt (fun key hKey => ?_) (fun _ _ => hAfter)
  obtain ⟨rfl, hIsKey⟩ := Json.asKey_eq_ok_iff.1 hKey
  refine leads_modify ?_
  have hBound := hBind d key value hAfter
  refine leads_ite (fun hCall => ?_) (fun _ => hBound)
  refine leads_attempt (fun called hCalled => ?_) (fun _ _ => hBound)
  refine leads_ite (fun hCalledKind => ?_) (fun _ => hBound)
  refine leads_attempt (fun function hFunction => ?_) (fun _ _ => hBound)
  refine leads_trace (fun _ e hSecond => hPrints _ e hSecond hBound) fun e hSecond => ?_
  refine leads_ite (fun hOutside => ?_) (fun _ => hPrints _ e hSecond hBound)
  refine hInput e key ⟨?_, ?_, hIsKey⟩ (hPrints _ e hSecond hBound)
  · exact ⟨targets, target, hTargets, hTarget, by simpa using hTargetKind, hName⟩
  · exact ⟨value, called, function, hValue, by simpa using hCall, hCalled,
      by simpa using hCalledKind, hFunction, hOutside⟩

end RepoAudit.Flask
