import RepoAudit.Json.Access

/-!
Data flows: where data enters, where it goes, over which stations, and which variables carry it.
Places and variables are named by values, which are texts wherever they come from a source; a place
without a name, such as the top level of a source, is null.
-/
namespace RepoAudit

structure DataFlow where
  source : Json
  sink : Json
  path : List Json
  carriers : List Json
deriving Inhabited

/-- A boundary of trust: what comes in, what goes out, and what cleans data on the way. -/
structure TrustBoundary where
  name : Text
  entryPoints : List Text
  exitPoints : List Text
  sanitizers : List Text
deriving DecidableEq

def httpEndpoint (name : Text) : Text := name ++ " (HTTP endpoint)"

def Json.isOneOf (words : List Text) : Json → Bool
  | .str t => words.contains t
  | _ => false

end RepoAudit
