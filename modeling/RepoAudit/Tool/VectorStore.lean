import RepoAudit.Slice
import RepoAudit.Step

/-!
Stores of code with a vector for each piece. The engine that makes vectors and finds the nearest is
left open. A store remembers what it asked of the engine, also when that failed.
-/
namespace RepoAudit

/-- A piece of code and where it stands. The parts may be any values. -/
structure StoredCode where
  content : Json
  path : Json
  startLine : Json
  endLine : Json

/-- An engine for vectors in `ν`. -/
structure Engine (ν : Type) where
  /-- The vectors of texts. -/
  encode : List Json → Except Fault (List ν)
  /-- An index with further vectors. -/
  append : (index more : List ν) → Except Fault (List ν)
  /-- The places of the vectors nearest to the given ones, as many as a count says. -/
  search : (index queries : List ν) → (count : Json) → Except Fault (List Json)
  /-- Whether a content follows a pattern. An engine may be unable to tell. -/
  follows? : Option (Json → Json → Except Fault Bool)

/-- A store of code. -/
structure VectorStore (ν : Type) where
  pieces : List StoredCode := []
  vectors : List ν := []
  encoded : List (List Json) := []
  searched : List Json := []

namespace VectorStore

variable {ν : Type}

abbrev Use (ν α : Type) := Step (VectorStore ν) α

def encode (engine : Engine ν) (texts : List Json) : Use ν (List ν) := do
  modify fun s => { s with encoded := s.encoded ++ [texts] }
  Step.attempt (engine.encode texts)

/-- Adds code. It is kept only after its vectors are. -/
def add (engine : Engine ν) (pieces : List StoredCode) : Use ν Unit := do
  if !pieces.isEmpty then
    let rows ← encode engine (pieces.map (·.content))
    let vectors ← Step.attempt (engine.append (← get).vectors rows)
    modify fun s => { s with vectors, pieces := s.pieces ++ pieces }

def search (engine : Engine ν) (queries : List ν) (count : Json) : Use ν (List Json) := do
  modify fun s => { s with searched := s.searched ++ [count] }
  Step.attempt (engine.search (← get).vectors queries count)

/-- The pieces that follow a pattern. The engine is asked only if there are pieces. -/
def filtered (engine : Engine ν) (pattern : Json) (found : List StoredCode) :
    Except Fault (List StoredCode) :=
  match engine.follows?, found with
  | some follows, found => found.filterM fun piece => follows piece.content pattern
  | none, [] => .ok []
  | none, _ :: _ => .error (.noAttribute "CodeVectorDB" "_matches_pattern")

/-- At most `count` pieces near a query. With a pattern, twice as many are searched, and those that
do not follow it are left out. A pattern that does not count as true is none. -/
def query (engine : Engine ν) (text count pattern : Json) : Use ν (List StoredCode) := do
  let rows ← encode engine [text]
  let candidates ← if pattern.truthy then Step.attempt count.twice else pure count
  let places ← search engine rows candidates
  let found ← Step.attempt (places.mapM (itemAtValue (← get).pieces))
  let fitting ← if pattern.truthy then Step.attempt (filtered engine pattern found) else pure found
  Step.attempt (sliceTo fitting count)

/-- How a store is asked. -/
structure Options where
  count : Json := .int 3
  pattern : Json := .null

/-- The options that named arguments give, next to the store and the text. -/
def Options.ofArguments (arguments : List (Text × Json)) : Except Fault Options :=
  let maker : Text := "CodeVectorDB.query_similar_code"
  arguments.foldlM (fun o (name, value) =>
    if name == "k" then .ok { o with count := value }
    else if name == "pattern_type" then .ok { o with pattern := value }
    else if name == "self" || name == "query" then .error (.repeatedArgument maker name)
    else .error (.unexpectedKeyword maker name)) {}

def queryWith (engine : Engine ν) (text : Json) (arguments : List (Text × Json)) :
    Use ν (List StoredCode) := do
  let o ← Step.attempt (Options.ofArguments arguments)
  query engine text o.count o.pattern

end VectorStore

end RepoAudit
