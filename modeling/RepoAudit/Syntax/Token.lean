import RepoAudit.Syntax.Tree

/-!
Tokens of Python sources: words, numbers, strings and symbols, and the ends of lines and changes
of indentation that shape blocks.
-/
namespace RepoAudit.Syntax

/-- The marks before a string's quote. -/
structure StringMarks where
  raw : Bool := false
  bytes : Bool := false
  formatted : Bool := false
  /-- The mark is a small `u`, which the tree remembers. -/
  smallU : Bool := false
deriving DecidableEq, Repr, Inhabited

/-- What a token is. Words include keywords, and the content of a string is not yet unescaped. -/
inductive Lexeme where
  | word (s : String)
  | number (value : Literal)
  | string (marks : StringMarks) (content : List Char)
  | symbol (s : String)
  | newline
  | indent
  | dedent
  | finish
deriving Inhabited

/-- A token and where it stands. -/
structure Token where
  lexeme : Lexeme
  span : Span
deriving Inhabited

def keywords : List String := [
  "False", "None", "True", "and", "as", "assert", "async", "await", "break", "class", "continue",
  "def", "del", "elif", "else", "except", "finally", "for", "from", "global", "if", "import",
  "in", "is", "lambda", "nonlocal", "not", "or", "pass", "raise", "return", "try", "while",
  "with", "yield"]

/-- Symbols, longer ones before their beginnings. -/
def symbols : List String := [
  "**=", "//=", ">>=", "<<=", "...",
  "**", "//", ">>", "<<", "<=", ">=", "==", "!=", "->", "+=", "-=", "*=", "/=", "%=", "&=", "|=",
  "^=", "@=", ":=",
  "(", ")", "[", "]", "\x7b", "\x7d", ",", ":", ";", ".", "+", "-", "*", "/", "%", "&", "|", "^",
  "~", "<", ">", "=", "@"]

def Position.after (p : Position) (cs : List Char) : Position :=
  cs.foldl (fun p c =>
    if c == '\n' then ⟨p.line + 1, 0⟩ else ⟨p.line, p.column + c.utf8Size⟩) p

end RepoAudit.Syntax
