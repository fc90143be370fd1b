import RepoAudit.Text.Blank

/-!
Patterns in texts. A pattern reads from the front of a text. All its matches are found from left
to right; the search goes on behind a match, so matches do not overlap.
-/
namespace RepoAudit

/-- A pattern gives what it found and the text behind it. -/
abbrev Pattern (α : Type) := StateT Text Option α

namespace Pattern

def exactly (t : Text) : Pattern Unit := do set (← StateT.lift (dropLead? t (← get)))

def anyOf (ts : List Text) : Pattern Text := do
  let s ← get
  match ts.find? fun t => t.isPrefixOf s with
  | some t => set (s.drop t.length); return t
  | none => failure

/-- The longest run of code points of a class, perhaps none. -/
def many (p : CodePoint → Bool) : Pattern Text := do
  let (taken, rest) := (← get).span p
  set rest
  return taken

/-- The longest run of code points of a class, at least one. -/
def many1 (p : CodePoint → Bool) : Pattern Text := do
  let taken ← many p
  if taken.isEmpty then failure
  return taken

/-- White space, perhaps none. -/
def blanks : Pattern Unit := discard (many (·.satisfies isBlank))

def one (p : CodePoint → Bool) : Pattern CodePoint := do
  match ← get with
  | c :: rest => if p c then set rest; return c else failure
  | [] => failure

end Pattern

/-- A match: where it starts, where it ends, and what was found. -/
structure Match (α : Type) where
  start : Nat
  stop : Nat
  value : α

/-- The matches from a position on, where the next `skip` code points belong to the last match. -/
def findFrom {α : Type} (p : Pattern α) : (position skip : Nat) → Text → List (Match α)
  | _, _, [] => []
  | position, skip + 1, _ :: rest => findFrom p (position + 1) skip rest
  | position, 0, c :: rest => match p.run (c :: rest) with
    | some (a, after) =>
      let width := (c :: rest).length - after.length
      ⟨position, position + width, a⟩ :: findFrom p (position + 1) (width - 1) rest
    | none => findFrom p (position + 1) 0 rest

def findAll {α : Type} (p : Pattern α) (t : Text) : List (Match α) := findFrom p 0 0 t

end RepoAudit
