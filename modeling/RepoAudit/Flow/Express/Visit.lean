import RepoAudit.Flow.Express.Document

/-!
Flows in syntax trees of Express calls. A middleware call needs an argument: a walk ends at one
that has none and keeps what was noted before it.
-/
namespace RepoAudit.Express

open Syntax

def sources : List Text := [
  "req.body", "req.query", "req.params", "req.cookies", "req.headers", "req.files"]

mutual

/-- The attribute names of a chain of attributes, after the name at its base if it has one. -/
def attributeChain : Tree → Except Fault (List Tree)
  | .node .attribute span fields => do
    let attr ← (Syntax.Tree.node .attribute span fields).field "attr"
    return (← chainOfFirst fields) ++ [attr]
  | .node .name span fields => do return [← (Syntax.Tree.node .name span fields).field "id"]
  | _ => .ok []

/-- The chain of the object of an attribute, which is its first field. -/
def chainOfFirst : List Tree → Except Fault (List Tree)
  | .absent :: _ | [] => .error (.noAttribute Kind.attribute.title "value")
  | value :: _ => attributeChain value

end

/-- The path of an attribute: its chain, divided by points. -/
def attributePath (t : Tree) : Except Fault Text := do
  let names ← (← attributeChain t).zipIdx.mapM fun (name, i) => match name with
    | .leaf (.text s) => .ok s
    | name => .error (.joinItem i name.typeName)
  return joinWith "." names

def noteHandler (attr : Json) (t : Tree) : Step Analysis Unit := do
  let arguments ← Step.attempt (t.field "args")
  if arguments.truthy then
    let path := (← Step.attempt arguments.first).text?.getD []
    if !path.isEmpty then
      let name := attr.display.upper ++ "__" ++ path
      modify fun a => (a.addEntryPoint (httpEndpoint name)).addFlow (routeFlow name)

/-- Notes a middleware, by name if it is a plain one. -/
def noteMiddleware (t : Tree) : Step Analysis Unit := do
  let argument ← Step.attempt (t.field "args" >>= Tree.first)
  let name ←
    if argument.kind? == some .name then Step.attempt (argument.nameField "id")
    else pure (.str "unnamed_middleware")
  modify (·.addFlow (middlewareFlow name))

def noteCall (t : Tree) : Step Analysis Unit := do
  let called ← Step.attempt (t.field "func")
  if called.kind? == some .attribute then
    if (← Step.attempt (called.field "value")).kind? == some .name then
      let attr ← Step.attempt (called.nameField "attr")
      if attr.isOneOf ["get", "post", "put", "delete", "patch"] then noteHandler attr t
      else if attr.isOneOf ["use"] then noteMiddleware t

def noteTarget (t target : Tree) : Step Analysis Unit := do
  if target.kind? == some .name then
    let value ← Step.attempt (t.field "value")
    let name ← Step.attempt (target.nameField "id" >>= Json.asKey)
    modify (·.bind name value)
    if value.kind? == some .attribute then
      let path ← Step.attempt (attributePath value)
      if sources.contains path then
        modify (·.setSource name ⟨.requestData, .str path⟩)

def noteAssignment (t : Tree) : Step Analysis Unit := do
  let targets ← Step.attempt (t.field "targets" >>= Tree.elements)
  targets.forM (noteTarget t)

def enter (t : Tree) : Step Analysis Unit :=
  match t.kind? with
  | some .call => noteCall t
  | some .assign => noteAssignment t
  | _ => functionTracker.enter t

def visitor : Visitor Analysis := ⟨enter, functionTracker.leave⟩

def visit (t : Tree) : Step Analysis Unit := visitor.visit t

end RepoAudit.Express
