import RepoAudit.Flow.Analysis
import RepoAudit.Text.Case
import RepoAudit.Text.Scanner

/-!
Flows in Express sources, found by patterns: routes, middleware and, once a route is known, the
request data and the responses.
-/
namespace RepoAudit.Express

/-- An analysis of Express sources. -/
structure State where
  analysis : Analysis := {}
  /-- The route that was found last, in this source or an earlier one. -/
  route : Option Text := none

/-- A route: its method in capitals and its path. -/
structure Route where
  method : Text
  path : Text
deriving DecidableEq

def Route.name (r : Route) : Text := r.method ++ " " ++ r.path

def isQuote (p : CodePoint) : Bool := p == .char '\'' || p == .char '"'

/-- A path in quotes after an opening parenthesis. The two quotes may differ. -/
def quotedPath : Pattern Text := do
  Pattern.blanks
  Pattern.exactly "("
  discard (Pattern.one isQuote)
  let path ← Pattern.many1 fun p => !isQuote p
  discard (Pattern.one isQuote)
  return path

/-- A call of one of the methods of an application or a router, with a path. -/
def callRoute (methods : List Text) : Pattern Route := do
  discard (Pattern.anyOf ["app", "router"])
  Pattern.exactly "."
  let method ← Pattern.anyOf methods
  return ⟨method.upper, ← quotedPath⟩

/-- A decorator named for a method, with a path. -/
def decoratorRoute : Pattern Route := do
  Pattern.exactly "@"
  let method ← Pattern.anyOf ["Get", "Post", "Put", "Delete", "Patch"]
  return ⟨method.lower.upper, ← quotedPath⟩

/-- The forms of routes, in the order in which they are sought. -/
def routePatterns : List (Pattern Route) := [
  callRoute ["get", "post", "put", "delete", "patch"], callRoute ["use"], decoratorRoute]

/-- What stands between the parentheses of a middleware call, up to the first closing one. -/
def middleware (receiver : Text) : Pattern Text := do
  Pattern.exactly (receiver ++ ".use")
  Pattern.blanks
  Pattern.exactly "("
  let argument ← Pattern.many1 (· != .char ')')
  Pattern.exactly ")"
  return argument

def middlewarePatterns : List (Pattern Text) := [middleware "app", middleware "router"]

def requestPart (receiver : Text) : Pattern Text := do
  Pattern.exactly (receiver ++ ".")
  Pattern.anyOf ["body", "query", "params", "cookies", "headers"]

def requestPatterns : List (Pattern Text) := [requestPart "req", requestPart "request"]

/-- A call that answers. -/
def response (receiver : Text) : Pattern Text := do
  Pattern.exactly (receiver ++ ".")
  let kind ← Pattern.anyOf ["json", "send", "render", "redirect"]
  Pattern.blanks
  Pattern.exactly "("
  return kind

def responsePatterns : List (Pattern Text) := [response "res", response "response"]

/-- What the patterns of a family find: those of the first pattern, then those of the next. -/
def findEach {α : Type} (patterns : List (Pattern α)) (t : Text) : List α :=
  patterns.flatMap fun p => (findAll p t).map (·.value)

def routeFlow (name : Text) : DataFlow :=
  ⟨.str ("HTTP::" ++ name), .str name, [.str "express", .str "router", .str name],
    [.str "req", .str "res"]⟩

def middlewareFlow (name : Json) : DataFlow :=
  ⟨.str ("request::" ++ name.display), .str ("response::" ++ name.display),
    [.str "express", .str "middleware", name], [.str "req", .str "res", .str "next"]⟩

def requestFlow (route part : Text) : DataFlow :=
  ⟨.str ("request." ++ part), .str route, [.str "express", .str "request", .str part],
    [.str ("req." ++ part)]⟩

def responseFlow (route kind : Text) : DataFlow :=
  ⟨.str route, .str ("response." ++ kind), [.str "express", .str "response", .str kind],
    [.str ("res." ++ kind)]⟩

def onAnalysis {α : Type} (step : Step Analysis α) : Step State α := do
  let (result, after) := step.perform (← get).analysis
  modify fun s => { s with analysis := after }
  Step.attempt result

def say [Output] (line : Text) : Step State Unit := onAnalysis (Analysis.say line)

def State.addFlows (s : State) (flows : List DataFlow) : State :=
  { s with analysis := { s.analysis with flows := s.analysis.flows ++ flows } }

/-- Notes a route. It is then the one that was found last. -/
def noteRoute (s : State) (name : Text) : State :=
  { s with
    analysis := (s.analysis.addEntryPoint (httpEndpoint name)).addFlow (routeFlow name)
    route := some name }

/-- The names of the middleware in a source, those that are blank left out. -/
def middlewareNames (source : Text) : List Text :=
  ((findEach middlewarePatterns source).map Text.trim).filter fun name => !name.isEmpty

/-- The flows of request data and responses, all credited to one route. -/
def dataFlows (route source : Text) : List DataFlow :=
  (findEach requestPatterns source).map (requestFlow route)
    ++ (findEach responsePatterns source).map (responseFlow route)

/-- Analyses a source on top of what is known. -/
def scan (source : Text) (s : State) : State :=
  let s := ((findEach routePatterns source).map Route.name).foldl noteRoute s
  let s := s.addFlows ((middlewareNames source).map fun name => middlewareFlow (.str name))
  match s.route with
  | some route => s.addFlows (dataFlows route source)
  | none => s

end RepoAudit.Express
