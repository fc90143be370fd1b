import RepoAudit.Syntax.Token
import RepoAudit.Text.Normal

/-!
Reading trees from tokens. A reader takes tokens from the front and gives up on the first that
does not fit; an alternative then starts again where the first one started.
-/
namespace RepoAudit.Syntax.Grammar

/-- The tokens that are left, and where the last token that shows in the source ended. -/
structure Input where
  tokens : List Token
  last : Position

/-- A reader of tokens. -/
abbrev Reader := StateT Input Option

variable {α β : Type}

def peek : Reader Lexeme := do
  match (← get).tokens with
  | token :: _ => return token.lexeme
  | [] => return .finish

def here : Reader Position := do
  match (← get).tokens with
  | token :: _ => return token.span.start
  | [] => return (← get).last

def advance : Reader Lexeme := do
  let input ← get
  match input.tokens with
  | token :: rest =>
    let last := match token.lexeme with
      | .newline | .indent | .dedent | .finish => input.last
      | _ => token.span.stop
    set (Input.mk rest last)
    return token.lexeme
  | [] => failure

def atSymbol (s : String) : Reader Bool := do
  match ← peek with
  | .symbol t => return s == t
  | _ => return false

def atWord (s : String) : Reader Bool := do
  match ← peek with
  | .word t => return s == t
  | _ => return false

def symbol (s : String) : Reader Unit := do
  if ← atSymbol s then discard advance else failure

def word (s : String) : Reader Unit := do
  if ← atWord s then discard advance else failure

def acceptSymbol (s : String) : Reader Bool := do
  if ← atSymbol s then discard advance; return true
  else return false

def acceptWord (s : String) : Reader Bool := do
  if ← atWord s then discard advance; return true
  else return false

/-- Takes a symbol if it is admitted and comes next. -/
def acceptSymbolIf (admitted : Bool) (s : String) : Reader Bool :=
  if admitted then acceptSymbol s else return false

def acceptWordIf (admitted : Bool) (s : String) : Reader Bool :=
  if admitted then acceptWord s else return false

def oneOf (table : List (String × α)) : Reader α := do
  match ← peek with
  | .symbol t => match table.find? fun (s, _) => s == t with
    | some (_, a) => discard advance; return a
    | none => failure
  | _ => failure

/-- Takes an identifier. Its name is the word's normal form; whether a word is a keyword shows in
the word as it is written. -/
def identifier : Reader Text := do
  match ← peek with
  | .word s =>
    if keywords.contains s then failure
    else discard advance; return Text.ofChars (normalName s.toList)
  | _ => failure

def newline : Reader Unit := do
  match ← peek with
  | .newline => discard advance
  | _ => failure

def indent : Reader Unit := do
  match ← peek with
  | .indent => discard advance
  | _ => failure

def dedent : Reader Unit := do
  match ← peek with
  | .dedent => discard advance
  | _ => failure

def option (p : Reader α) : Reader (Option α) := (some <$> p) <|> pure none

/-- Reads as often as possible, at most `count` times. -/
def upTo : (count : Nat) → Reader α → Reader (List α)
  | 0, _ => return []
  | count + 1, p => do
    match ← option p with
    | some a => return a :: (← upTo count p)
    | none => return []

/-- Reads as often as possible. Every success takes a token, so the tokens bound the number. -/
def many (p : Reader α) : Reader (List α) := do upTo (← get).tokens.length p

def many1 (p : Reader α) : Reader (List α) := do return (← p) :: (← many p)

/-- Reads items with a symbol between neighbours. -/
def separated (sep : String) (p : Reader α) : Reader (List α) := do
  return (← p) :: (← many (symbol sep *> p))

def node (kind : Kind) (start : Position) (fields : List Tree) : Reader Tree := do
  return .node kind ⟨start, (← get).last⟩ fields

def mark (kind : Kind) : Tree := .node kind default []

def load : Tree := mark .load

end RepoAudit.Syntax.Grammar
