import RepoAudit.Proofs.Entries
import RepoAudit.Proofs.Flask.Events
import RepoAudit.Proofs.Syntax.Parts
import RepoAudit.Proofs.Syntax.Shown

/-!
What there is to note at the events of a well-formed tree. Sources, variables and entry points
depend on the event alone, flows also on what is known.
-/
namespace RepoAudit.Flask

open Syntax Analysis

/-- A function of a well-formed tree, or the place outside of all functions. -/
def IsPlace (f : Json) : Prop := f = .null ∨ ∃ name, f = .str name ∧ IsName name

/-- The current function can be a key. -/
theorem IsPlace.asKey {f : Json} (h : IsPlace f) : f.asKey = .ok f := by
  rcases h with rfl | ⟨name, rfl, _⟩ <;> rfl

/-- The current function can be printed to every output. -/
theorem IsPlace.display_writable {f : Json} (h : IsPlace f) : f.display.Writable := by
  rcases h with rfl | ⟨name, rfl, hName⟩
  · exact Text.writable_ofString _
  · exact hName.writable

/-- Whether a value comes from outside: it is the result of one of four functions. -/
def isInput (value : Tree) : Bool :=
  match value.calledName? with
  | some name => inputFunctions.contains name
  | none => false

/-- Whether a node is an attribute of the request that holds data from outside. -/
def readsRequest (t : Tree) : Bool :=
  match t.attribute? with
  | some (value, attr) => value.name? == some "request" && sources.contains ("request." ++ attr)
  | none => false

/-- Whether a decorator registers a route: it calls an attribute with one of five labels. -/
def registersRoute (decorator : Tree) : Bool :=
  match decorator.called?.bind Tree.attribute? with
  | some (_, attr) => routeDecorators.contains attr
  | none => false

/-- The sources that are recorded where variables are assigned: all of them, if the value comes from
outside. -/
def inputsTo (names : List Text) (f : Json) (t : Tree) : List (Json × SourceRecord) :=
  if isInput t.assignedValue then names.map fun name => (.str name, ⟨.externalInput, f⟩) else []

/-- The sources that are recorded at an assignment. -/
def inputRecords (f : Json) (t : Tree) : List (Json × SourceRecord) := inputsTo t.assignedNames f t

def attributeRecords (f : Json) (t : Tree) : List (Json × SourceRecord) :=
  if readsRequest t then [(f, ⟨.flaskInput, f⟩)] else []

def callRecords (f : Json) (t : Tree) : List (Json × SourceRecord) :=
  match f, t.method? with
  | .str name, some (receiver, attr) =>
    if sources.contains (receiver ++ "." ++ attr) then
      [(f, ⟨.requestData, .str (name ++ "::" ++ (receiver ++ "." ++ attr))⟩)]
    else []
  | _, _ => []

/-- The sources that are recorded at a node. -/
def recordsAt (f : Json) (t : Tree) : List (Json × SourceRecord) :=
  inputRecords f t ++ attributeRecords f t ++ callRecords f t

/-- The assignments of the value of an assignment to variables. -/
def bindingsTo (names : List Text) (f : Json) (t : Tree) : List (Json × Binding) :=
  names.map fun name => (.str name, ⟨f, t.assignedValue⟩)

/-- The assignments that are recorded at a node. -/
def bindingsAt (f : Json) (t : Tree) : List (Json × Binding) := bindingsTo t.assignedNames f t

/-- Where the data of a function comes from by the recorded sources. -/
def recordedSource (known : List (Json × SourceRecord)) (f : Json) : Json :=
  match known.lookup f with
  | some record => record.location
  | none => f

/-- The flow at a call of an attribute of a plain name inside a function: into the function from
request data, or out of it by a response. -/
def flowAt (known : List (Json × SourceRecord)) (carriers : List Json) (f : Json) (t : Tree) :
    Option DataFlow :=
  match f, t.method? with
  | .str name, some (receiver, attr) =>
    if sources.contains (receiver ++ "." ++ attr) then
      some ⟨.str (name ++ "::" ++ (receiver ++ "." ++ attr)), f,
        [.str (receiver ++ "." ++ attr), f], [.str receiver]⟩
    else if sinks.contains attr then
      some ⟨recordedSource known f, .str (name ++ "::" ++ attr), [f], carriers⟩
    else none
  | _, _ => none

namespace Event

/-- The sources that are recorded at an event. -/
def records : Event → List (Json × SourceRecord)
  | node f t => recordsAt f t
  | _ => []

/-- The assignments that are recorded at an event. -/
def bindings : Event → List (Json × Binding)
  | node f t => bindingsAt f t
  | _ => []

/-- The entry points that are found at an event. -/
def endpoints : Event → List Text
  | decorator f t => if registersRoute t then [httpEndpoint f.display] else []
  | _ => []

/-- The flows that are found at an event. -/
def flows (known : List (Json × SourceRecord)) (carriers : List Json) : Event → List DataFlow
  | node f t => (flowAt known carriers f t).toList
  | decorator f t => if registersRoute t then [routeFlow f] else []
  | defined f => if f.isOneOf processors then [processorFlow f] else []
  | broken .. => []

def WellFormed : Event → Prop
  | node f t | decorator f t => IsPlace f ∧ t.WellFormed
  | defined f => IsPlace f
  | broken .. => False

/-- A traced analysis stops at a decorator that cannot be shown. -/
def Stops (m : Manner) : Event → Prop
  | decorator _ t => m.traced = true ∧ ¬t.Showable
  | _ => False

end Event

/-- The state `b` is `a` with what an event adds, in the function of the event. -/
structure Noted (e : Event) (a b : Analysis) : Prop where
  function : b.function = e.function
  entryPoints : b.entryPoints =
    e.endpoints.foldl (fun set name => insertNew name set) a.entryPoints
  flows : b.flows = a.flows ++ e.flows a.sources a.carriers
  sources : b.sources = setEntries e.records a.sources
  scope : b.scope = setEntries e.bindings a.scope

/-- The state after a line of the trace. -/
def Manner.printing (m : Manner) (line : Text) (a : Analysis) : Analysis :=
  { a with lines := if m.traced then a.lines ++ [line] else a.lines }

section Printing

variable (m : Manner) (line : Text) (a : Analysis)

@[simp] theorem printing_function : (m.printing line a).function = a.function := rfl

end Printing

theorem attribute?_of_ne {t : Tree} (h : t.kind? ≠ some .attribute) : t.attribute? = none := by
  unfold Tree.attribute?
  split
  · exact absurd rfl h
  · rfl

theorem name?_of_ne {t : Tree} (h : t.kind? ≠ some .name) : t.name? = none := by
  unfold Tree.name?
  split
  · exact absurd rfl h
  · rfl

theorem called?_of_ne {t : Tree} (h : t.kind? ≠ some .call) : t.called? = none := by
  unfold Tree.called?
  split
  · exact absurd rfl h
  · rfl

theorem assignedNames_of_ne {t : Tree} (h : t.kind? ≠ some .assign) : t.assignedNames = [] := by
  unfold Tree.assignedNames
  split
  · exact absurd rfl h
  · rfl

section Noted

variable {m : Manner} {a : Analysis} {f : Json} {t : Tree} {span : Span} {fields : List Tree}

theorem inputRecords_of_ne (h : t.kind? ≠ some .assign) :
    inputRecords f t = [] := by
  simp [inputRecords, inputsTo, assignedNames_of_ne h]

/-- Variables are bound at assignments only. -/
theorem bindingsAt_of_ne (h : t.kind? ≠ some .assign) : bindingsAt f t = [] := by
  simp [bindingsAt, bindingsTo, assignedNames_of_ne h]

theorem attributeRecords_of_ne (h : t.kind? ≠ some .attribute) :
    attributeRecords f t = [] := by
  simp [attributeRecords, readsRequest, attribute?_of_ne h]

theorem method?_of_ne (h : t.kind? ≠ some .call) : t.method? = none := by
  simp [Tree.method?, called?_of_ne h]

/-- Request data is recorded at calls only. -/
theorem callRecords_of_ne (h : t.kind? ≠ some .call) :
    callRecords f t = [] := by
  simp [callRecords, method?_of_ne h]

/-- Flows are found at calls only. -/
theorem flowAt_of_ne {known : List (Json × SourceRecord)} {carriers : List Json}
    (h : t.kind? ≠ some .call) : flowAt known carriers f t = none := by
  simp [flowAt, method?_of_ne h]

/-- A line behind an event does not change what it adds. -/
theorem Noted.printing {e : Event} {b : Analysis} (h : Noted e a b) (line : Text) :
    Noted e a (m.printing line b) :=
  ⟨h.function, h.entryPoints, h.flows, h.sources, h.scope⟩

/-- A line before an event does not change what it adds. -/
theorem Noted.of_printing {e : Event} {b : Analysis} {line : Text}
    (h : Noted e (m.printing line a) b) : Noted e a b :=
  ⟨h.function, h.entryPoints, h.flows, h.sources, h.scope⟩

/-- Nothing is noted at a node that calls no attribute of a plain name, nor at any call outside of
the functions. -/
theorem noted_refl (hFunction : a.function = f) (hAssign : t.kind? ≠ some .assign)
    (hAttribute : t.kind? ≠ some .attribute) (hMethod : f = .null ∨ t.method? = none) :
    Noted (.node f t) a a where
  function := hFunction
  entryPoints := rfl
  flows := by
    rcases hMethod with rfl | hNone
    · simp [Event.flows, flowAt]
    · simp [Event.flows, flowAt, hNone]
  sources := by
    have hCall : callRecords f t = [] := by
      rcases hMethod with rfl | hNone
      · simp [callRecords]
      · simp [callRecords, hNone]
    simp [Event.records, recordsAt, inputRecords_of_ne hAssign, attributeRecords_of_ne hAttribute,
      hCall]
  scope := by simp [Event.bindings, bindingsAt_of_ne hAssign]

/-- What is noted at a call is its source and its flow. -/
theorem noted_of_call {b : Analysis} (hKind : t.kind? = some .call) (hFunction : b.function = f)
    (hEntryPoints : b.entryPoints = a.entryPoints)
    (hFlows : b.flows = a.flows ++ (flowAt a.sources a.carriers f t).toList)
    (hSources : b.sources = setEntries (callRecords f t) a.sources) (hScope : b.scope = a.scope) :
    Noted (.node f t) a b where
  function := hFunction
  entryPoints := hEntryPoints
  flows := hFlows
  sources := by
    simpa [Event.records, recordsAt, inputRecords_of_ne, attributeRecords_of_ne, hKind]
      using hSources
  scope := by simpa [Event.bindings, bindingsAt_of_ne, hKind] using hScope

/-- What is noted at an attribute is a source. -/
theorem noted_of_attribute {b : Analysis} (hKind : t.kind? = some .attribute)
    (hFunction : b.function = f) (hEntryPoints : b.entryPoints = a.entryPoints)
    (hFlows : b.flows = a.flows)
    (hSources : b.sources = setEntries (attributeRecords f t) a.sources)
    (hScope : b.scope = a.scope) : Noted (.node f t) a b where
  function := hFunction
  entryPoints := hEntryPoints
  flows := by simpa [Event.flows, flowAt_of_ne, hKind] using hFlows
  sources := by
    simpa [Event.records, recordsAt, inputRecords_of_ne, callRecords_of_ne, hKind] using hSources
  scope := by simpa [Event.bindings, bindingsAt_of_ne, hKind] using hScope

end Noted

end RepoAudit.Flask
