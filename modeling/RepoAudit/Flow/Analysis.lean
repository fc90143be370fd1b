import RepoAudit.Entries
import RepoAudit.Flow.Basic
import RepoAudit.Syntax.Visitor

/-!
What an analysis of syntax trees knows so far, and what it printed. The analyses of several trees
share one state.
-/
namespace RepoAudit

open Syntax

/-- Why a variable counts as a source of data. -/
inductive Origin where
  | externalInput
  | flaskInput
  | requestData
deriving DecidableEq, Repr

/-- A source of data and where it was seen. -/
structure SourceRecord where
  origin : Origin
  location : Json

/-- The last assignment to a variable: in which function, and the assigned expression. -/
structure Binding where
  function : Json
  value : Tree

/-- The state of an analysis. -/
structure Analysis where
  entryPoints : List Text := []
  flows : List DataFlow := []
  function : Json := .null
  /-- The recorded sources by the name of the variable or function they are kept under. -/
  sources : List (Json × SourceRecord) := []
  scope : List (Json × Binding) := []
  /-- What was printed. -/
  lines : List Text := []

namespace Analysis

def addFlow (a : Analysis) (flow : DataFlow) : Analysis := { a with flows := a.flows ++ [flow] }

def addEntryPoint (a : Analysis) (name : Text) : Analysis :=
  { a with entryPoints := insertNew name a.entryPoints }

/-- Records a source under a name. -/
def setSource (a : Analysis) (name : Json) (record : SourceRecord) : Analysis :=
  { a with sources := setEntry name record a.sources }

/-- Records an assignment. -/
def bind (a : Analysis) (name : Json) (value : Tree) : Analysis :=
  { a with scope := setEntry name ⟨a.function, value⟩ a.scope }

/-- The variables that were assigned so far, in the order of their first assignments. -/
def carriers (a : Analysis) : List Json := a.scope.map (·.1)

/-- Enters a function definition: what follows is inside it. -/
def enterFunction (a : Analysis) (name : Json) : Analysis := { a with function := name }

/-- Returns to the function in which a definition stood. -/
def leaveFunction (a : Analysis) (before : Analysis) : Analysis :=
  { a with function := before.function }

/-- Prints a line. A line that cannot be printed is a fault and leaves nothing. -/
def say [Output] (line : Text) : Step Analysis Unit := do
  let line ← Step.attempt line.printed
  modify fun a => { a with lines := a.lines ++ [line] }

end Analysis

/-- The analysis that only keeps track of the current function. -/
def functionTracker : Visitor Analysis where
  enter t :=
    if t.kind? == some .functionDef then do
      let name ← Step.attempt (t.nameField "name")
      modify (·.enterFunction name)
    else pure ()
  leave t before :=
    if t.kind? == some .functionDef then modify (·.leaveFunction before) else pure ()

end RepoAudit
