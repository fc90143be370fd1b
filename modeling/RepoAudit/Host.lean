import RepoAudit.Directory
import RepoAudit.Step

/-!
The machine on which commands run. What commands do to it is left open: a host is any state with
an answer to each question. A work on a host reports in lines and remembers its commands, also
when it ends in a fault.
-/
namespace RepoAudit

/-- How a command ended: it succeeded, it failed, or it could not be run. -/
inductive Outcome where
  | finished (output : Text)
  | failed (exit : Exit) (errors : Text)
  | faulted (fault : Fault)

/-- A machine with states in `σ`. -/
structure Host (σ : Type) where
  /-- Runs a command. -/
  run : List Text → σ → Outcome × σ
  /-- Copies a repository to a path, or tells why not. -/
  clone : (repository path : Text) → σ → Option Fault × σ
  /-- The files as they are. -/
  disk : σ → Disk

/-- The state of a work: the machine, the lines of the report, and the commands that were run. -/
structure Console (σ : Type) where
  machine : σ
  lines : List Text := []
  commands : List (List Text) := []

/-- A work on a host. -/
abbrev Work (σ α : Type) := Step (Console σ) α

namespace Work

variable {σ : Type}

/-- Appends a line to the report. A line that cannot be printed is a fault. -/
def say [Output] (line : Text) : Work σ Unit := do
  let line ← Step.attempt line.printed
  modify fun c => { c with lines := c.lines ++ [line] }

def execute (host : Host σ) (command : List Text) : Work σ Outcome := do
  let c ← get
  let (outcome, machine) := host.run command c.machine
  set { c with machine, commands := c.commands ++ [command] }
  return outcome

def clone (host : Host σ) (repository path : Text) : Work σ (Option Fault) := do
  let c ← get
  let (fault, machine) := host.clone repository path c.machine
  set { c with machine }
  return fault

def disk (host : Host σ) : Work σ Disk := return host.disk (← get).machine

end Work

end RepoAudit
