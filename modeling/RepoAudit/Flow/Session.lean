import RepoAudit.Flow.Express.Visit
import RepoAudit.Flow.Flask.Visit
import RepoAudit.Syntax.Parser

/-!
Analyses of sources, with what they print. A fault in an analysis is reported, and what was noted
before it stays; a line that cannot be printed outside of that ends the analysis.
-/
namespace RepoAudit

open Syntax Analysis

variable [Output]

def readSource (source : Json) : Except Fault Tree :=
  match source with
  | .str text => match text.chars? with
    | some chars => match parse chars with
      | some t => .ok t
      | none => .error .malformedSource
    | none => .error ((text.unencodable? .strict).getD .malformedSource)
  | _ => .error .notSource

def faultLine (file : Text) (fault : Fault) : Text :=
  let reason : Text := match fault with
    | .malformedSource => "Syntax error in "
    | _ => "Error analyzing "
  reason ++ file ++ ": " ++ fault.message

/-- An analysis of a file whose faults are reported. -/
def reported (file : Text) (step : Step Analysis Unit) : Step Analysis Unit :=
  tryCatch step fun fault => say (faultLine file fault)

def trackFunctions (source : Json) (file : Text) : Step Analysis Unit :=
  reported file do functionTracker.visit (← Step.attempt (readSource source))

def Flask.Manner.standard : Flask.Manner := ⟨.enclosing, true⟩

def Flask.analyze (source : Json) (file : Text) : Step Analysis Unit := do
  say ("[DEBUG] Starting Flask analysis of " ++ file)
  reported file do
    Flask.visit .standard (← Step.attempt (readSource source))
    say ("[DEBUG] Completed Flask analysis of " ++ file)

def Express.analyze (source : Json) (file : Text) : Step Express.State Unit := do
  Express.say ("[DEBUG] Starting Express analysis of " ++ file)
  match source with
  | .str text =>
    modify (Express.scan text)
    Express.say ("[DEBUG] Completed Express analysis of " ++ file)
  | source => Express.say (faultLine file (.notSearchable source.typeName))

/-- The analyses that exist for frameworks. -/
inductive Analyzer where
  | flask
  | express
deriving DecidableEq, Repr

namespace Analyzer

def forFramework? (framework : Text) : Option Analyzer :=
  if framework == "flask" then some .flask
  else if framework == "express" then some .express
  else none

def name : Analyzer → Text
  | flask => "FlaskAnalyzer"
  | express => "ExpressAnalyzer"

def greeting (a : Analyzer) : Text := "[DEBUG] Initializing " ++ a.name

end Analyzer

end RepoAudit
