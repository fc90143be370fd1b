import RepoAudit.Json.Access

/-!
What is known around findings, kept for a language model. Findings are told apart by identity.
-/
namespace RepoAudit

/-- What is known around a finding. -/
structure Surroundings where
  vulnerabilityType : Text
  similarCode : Json
  weaknesses : Json

/-- The surroundings of findings, each under the identity of its finding. -/
structure Context where
  entries : List (Text × Surroundings) := []

def joinableTexts (v : Json) : Except Fault (List Text) :=
  match v.elements with
  | .error _ => .error .joinNotIterable
  | .ok items => Json.textItems items

def Surroundings.text (s : Surroundings) : Except Fault Text := do
  let code := joinWith "\n" (← joinableTexts s.similarCode)
  return "\nFinding: " ++ s.vulnerabilityType ++ "\nSimilar Code Patterns:\n" ++ code
    ++ "\nCVE Information:\n" ++ s.weaknesses.display ++ "\n"

namespace Context

/-- Adds or replaces the surroundings of a finding. A finding without identity cannot be kept. -/
def add (c : Context) (identity : Option Text) (s : Surroundings) : Except Fault Context :=
  match identity with
  | some id => .ok ⟨setEntry id s c.entries⟩
  | none => .error (.unhashable "Finding")

def text (c : Context) : Except Fault Text := do
  return joinWith "\n" (← c.entries.mapM fun (_, s) => s.text)

end Context

end RepoAudit
