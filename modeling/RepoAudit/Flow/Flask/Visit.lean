import RepoAudit.Flow.Analysis
import RepoAudit.Flow.Flask.Patterns
import RepoAudit.Syntax.Dump

/-!
Flows in Flask sources. Assignments, attribute accesses and calls are noted as they are entered.
Routes and processors are noted for one of two functions: for the function that is decorated, as
it is entered, or for the function around it, as it is left. An analysis may be traced: then it
prints a line for everything that it looks at.
-/
namespace RepoAudit.Flask

open Syntax Analysis

variable [Output]

/-- The function to which the routes and processors at a definition are credited. -/
inductive Credit where
  | own
  | enclosing
deriving DecidableEq, Repr

/-- How sources are analysed. -/
structure Manner where
  credit : Credit
  traced : Bool
deriving DecidableEq, Repr

def Manner.trace (m : Manner) (line : Text) : Step Analysis Unit :=
  if m.traced then say line else pure ()

def routeFlow (function : Json) : DataFlow :=
  ⟨.str ("HTTP::" ++ function.display), function,
    [.str "wsgi_app", .str "dispatch_request", function], [.str "request"]⟩

def processorFlow (function : Json) : DataFlow :=
  ⟨.str ("request::" ++ function.display), .str ("response::" ++ function.display),
    [.str "wsgi_app", function], [.str "request", .str "response"]⟩

def noteRoute (a : Analysis) : Analysis :=
  (a.addEntryPoint (httpEndpoint a.function.display)).addFlow (routeFlow a.function)

/-- Notes the route that a decorator registers, if it is a call of an attribute that does. -/
def noteDecorator (m : Manner) (decorator : Tree) : Step Analysis Unit := do
  if m.traced then
    say ("[DEBUG] Found decorator: " ++ (← Step.attempt decorator.dump))
  if decorator.kind? == some .call then
    let function ← Step.attempt (decorator.field "func")
    match function.nameField "attr" with
    | .ok attr =>
      if attr.isOneOf routeDecorators then
        m.trace ("[DEBUG] Found Flask route decorator: " ++ attr.display)
        m.trace ("[DEBUG] Processing route decorator for function: "
          ++ (← get).function.display)
        modify noteRoute
    | .error _ => pure ()

/-- Notes the routes that the decorators of a definition register, and the current function if it
processes every request. -/
def noteDefinition (m : Manner) (t : Tree) : Step Analysis Unit := do
  let decorators ← Step.attempt (t.field "decorator_list" >>= Tree.elements)
  decorators.forM (noteDecorator m)
  let function ← Step.attempt (← get).function.asKey
  if function.isOneOf processors then
    modify (·.addFlow (processorFlow function))

/-- Notes an assignment of a value to a target, if that is a variable. -/
def noteTarget (m : Manner) (t target : Tree) : Step Analysis Unit := do
  if target.kind? == some .name then
    let name ← Step.attempt (target.nameField "id")
    m.trace ("[DEBUG] Assignment to variable: " ++ name.display)
    let value ← Step.attempt (t.field "value")
    let name ← Step.attempt name.asKey
    modify (·.bind name value)
    if value.kind? == some .call then
      let function ← Step.attempt (value.field "func")
      if function.kind? == some .name then
        let called ← Step.attempt (function.nameField "id")
        m.trace ("[DEBUG] Assignment value is function call: " ++ called.display)
        if called.isOneOf inputFunctions then
          modify fun a => a.setSource name ⟨.externalInput, a.function⟩

def noteAssignment (m : Manner) (t : Tree) : Step Analysis Unit := do
  m.trace ("\n[DEBUG] Processing assignment in " ++ (← get).function.display)
  let targets ← Step.attempt (t.field "targets" >>= Tree.elements)
  targets.forM (noteTarget m t)

def noteAttribute (t : Tree) : Step Analysis Unit := do
  let value ← Step.attempt (t.field "value")
  if value.kind? == some .name then
    let name ← Step.attempt (value.nameField "id")
    if name.isOneOf ["request"] then
      let attr ← Step.attempt (t.nameField "attr")
      if sources.contains ("request." ++ attr.display) then
        let function ← Step.attempt (← get).function.asKey
        modify fun a => a.setSource function ⟨.flaskInput, a.function⟩

/-- Where the data of a function comes from: its recorded source, or the function itself. -/
def sourceOf (a : Analysis) (function : Json) : Json :=
  match a.sources.lookup function with
  | some record => record.location
  | none => function

/-- Notes that a function reads request data by a path that starts at a variable. -/
def noteSource (function receiver : Json) (path : Text) : Step Analysis Unit := do
  let name : Json := .str (function.display ++ "::" ++ path)
  let function ← Step.attempt function.asKey
  modify (·.setSource function ⟨.requestData, name⟩)
  let receiver ← Step.attempt receiver.asKey
  modify (·.addFlow ⟨name, function, [.str path, function], [receiver]⟩)

/-- Notes that a function makes a response, with all variables that are known. -/
def noteSink (function attr : Json) : Step Analysis Unit := do
  let function ← Step.attempt function.asKey
  modify fun a => a.addFlow ⟨sourceOf a function,
    .str (function.display ++ "::" ++ attr.display), [function], a.carriers⟩

/-- Notes a call of an attribute of a plain name, if it stands in a function. -/
def noteCall (m : Manner) (t : Tree) : Step Analysis Unit := do
  let called ← Step.attempt (t.field "func")
  if called.kind? == some .attribute then
    let value ← Step.attempt (called.field "value")
    if value.kind? == some .name then
      let receiver ← Step.attempt (value.nameField "id")
      let attr ← Step.attempt (called.nameField "attr")
      let path := receiver.display ++ "." ++ attr.display
      m.trace ("\n[DEBUG] Processing function call: " ++ path)
      let function := (← get).function
      if sources.contains path then
        m.trace ("[DEBUG] Found source pattern: " ++ path)
        if function.truthy then noteSource function receiver path
      else if (← Step.attempt attr.asKey).isOneOf sinks then
        m.trace ("[DEBUG] Found sink pattern: " ++ attr.display)
        if function.truthy then noteSink function attr

def enterDefinition (m : Manner) (t : Tree) : Step Analysis Unit := do
  let name ← Step.attempt (t.nameField "name")
  m.trace ("\n[DEBUG] Analyzing function: " ++ name.display)
  modify (·.enterFunction name)
  if m.credit == .own then noteDefinition m t

def enter (m : Manner) (t : Tree) : Step Analysis Unit :=
  match t.kind? with
  | some .functionDef => enterDefinition m t
  | some .assign => noteAssignment m t
  | some .attribute => noteAttribute t
  | some .call => noteCall m t
  | _ => pure ()

def leave (m : Manner) (t : Tree) (before : Analysis) : Step Analysis Unit := do
  if t.kind? == some .functionDef then
    modify (·.leaveFunction before)
    if m.credit == .enclosing then noteDefinition m t

def visitor (m : Manner) : Visitor Analysis := ⟨enter m, leave m⟩

def visit (m : Manner) (t : Tree) : Step Analysis Unit := (visitor m).visit t

end RepoAudit.Flask
