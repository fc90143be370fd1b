import RepoAudit.Syntax.Numeral
import RepoAudit.Text.Letter
import RepoAudit.Text.Search
import RepoAudit.Text.Utf8

/-!
From characters to tokens. Indentation is measured twice, with tabs to every eighth column and
with tabs as single columns, and a source on which the two disagree about nesting is refused.
Inside brackets line ends and indentation count for nothing.
-/
namespace RepoAudit.Syntax.Lexer

/-- The mark letters of a string, in lower case. -/
def marksOf? (letters : List Char) : Option StringMarks :=
  match letters.map Char.toLower with
  | [] => some {}
  | ['b'] => some ⟨false, true, false, false⟩
  | ['b', 'r'] => some ⟨true, true, false, false⟩
  | ['r', 'b'] => some ⟨true, true, false, false⟩
  | ['u'] => some ⟨false, false, false, letters == ['u']⟩
  | ['r'] => some ⟨true, false, false, false⟩
  | ['f'] => some ⟨false, false, true, false⟩
  | ['f', 'r'] => some ⟨true, false, true, false⟩
  | ['r', 'f'] => some ⟨true, false, true, false⟩
  | _ => none

/-- The content of a string up to its closing quote. A backslash takes the next character with
it, and a line end closes no string. -/
def shortBody (quote : Char) : List Char → Option (List Char × List Char)
  | [] => none
  | '\\' :: c :: rest => (shortBody quote rest).map fun (body, rest) => ('\\' :: c :: body, rest)
  | c :: rest =>
    if c == quote then some ([], rest)
    else if c == '\n' || c == '\\' then none
    else (shortBody quote rest).map fun (body, rest) => (c :: body, rest)

def longBody (quote : Char) : List Char → Option (List Char × List Char)
  | [] => none
  | '\\' :: c :: rest => (longBody quote rest).map fun (body, rest) => ('\\' :: c :: body, rest)
  | c :: rest =>
    if c == quote && [quote, quote].isPrefixOf rest then some ([], rest.drop 2)
    else if c == '\\' then none
    else (longBody quote rest).map fun (body, rest) => (c :: body, rest)

def isQuote (c : Char) : Bool := c == '\'' || c == '"'

/-- Reads a string with its marks. `none` means that no string starts here, `some none` that
one starts and does not end. -/
def string? (s : List Char) : Option (Option (Lexeme × List Char)) :=
  let letters := (s.take 3).takeWhile Char.isAlpha
  match marksOf? letters, s.drop letters.length with
  | some marks, quote :: rest =>
    if !isQuote quote then none
    else if [quote, quote].isPrefixOf rest then
      some ((longBody quote (rest.drop 2)).map fun (body, rest) => (.string marks body, rest))
    else some ((shortBody quote rest).map fun (body, rest) => (.string marks body, rest))
  | _, _ => none

def word? (s : List Char) : Option (Lexeme × List Char) :=
  match s.span Numeral.isWordPart with
  | (c :: cs, rest) =>
    if isNameStart c && cs.all isNamePart then some (.word (String.ofList (c :: cs)), rest)
    else none
  | ([], _) => none

def lexeme? (s : List Char) : Option (Lexeme × List Char) :=
  match s with
  | [] => none
  | c :: rest =>
    if c.isDigit || (c == '.' && (rest.headD ' ').isDigit) then
      (Numeral.read s).map fun (value, rest) => (.number value, rest)
    else match string? s with
      | some result => result
      | none =>
        if Numeral.isWordPart c then word? s
        else match symbols.find? fun sym => sym.toList.isPrefixOf s with
          | some sym => some (.symbol sym, s.drop sym.length)
          | none => none

/-- The width of the blanks at the start of a line, measured in both ways, and what follows.
A backslash joins the next line, and the width before the first one counts if it is not zero. -/
def indentation (column alternative fixed : Nat) : List Char → Option ((Nat × Nat) × List Char)
  | ' ' :: rest => indentation (column + 1) (alternative + 1) fixed rest
  | '\t' :: rest => indentation ((column / 8 + 1) * 8) (alternative + 1) fixed rest
  | '\x0c' :: rest => indentation 0 0 fixed rest
  | '\\' :: '\n' :: rest =>
    if rest.isEmpty then none
    else indentation column alternative (if fixed == 0 then column else fixed) rest
  | '\\' :: _ => none
  | rest => some (if fixed == 0 then (column, alternative) else (fixed, fixed), rest)

/-- Where the lexer stands: what is left, where that is, the widths of the enclosing blocks, the
innermost first, and the open brackets. -/
structure Scan where
  rest : List Char
  position : Position
  widths : List (Nat × Nat)
  brackets : List Char

/-- Most brackets that may be open, and most blocks that may be nested. -/
def bracketLimit : Nat := 200

def blockLimit : Nat := 100

def Scan.to (s : Scan) (rest : List Char) : Scan :=
  let read := s.rest.take (s.rest.length - rest.length)
  ⟨rest, s.position.after read, s.widths, s.brackets⟩

def Scan.mark (s : Scan) (lexeme : Lexeme) : Token := ⟨lexeme, s.position, s.position⟩

/-- Leaves blocks until the width fits. It must then agree with a block in both measures. -/
def leaveBlocks (width : Nat × Nat) : List (Nat × Nat) → Option (Nat × List (Nat × Nat))
  | [] => none
  | top :: outer =>
    if width.1 < top.1 then (leaveBlocks width outer).map fun (n, widths) => (n + 1, widths)
    else if width == top then some (0, top :: outer)
    else none

/-- The changes of nesting that a line of the given width brings. -/
def nesting (width : Nat × Nat) (widths : List (Nat × Nat)) :
    Option (List Lexeme × List (Nat × Nat)) :=
  match widths with
  | [] => none
  | top :: _ =>
    if top.1 < width.1 then
      if widths.length ≥ blockLimit || width.2 ≤ top.2 then none
      else some ([.indent], width :: widths)
    else (leaveBlocks width widths).map fun (n, widths) =>
      (List.replicate n .dedent, widths)

/-- The brackets that are open after a symbol. A closing bracket must match. -/
def bracketsAfter (symbol : String) (brackets : List Char) : Option (List Char) :=
  let opens := fun closing =>
    if brackets.length ≥ bracketLimit then none else some (closing :: brackets)
  let closes := fun closing => match brackets with
    | top :: outer => if top == closing then some outer else none
    | [] => none
  match symbol with
  | "(" => opens ')'
  | "[" => opens ']'
  | "\x7b" => opens '\x7d'
  | ")" => closes ')'
  | "]" => closes ']'
  | "\x7d" => closes '\x7d'
  | _ => some brackets

/-- What a comment leaves: the line end after it. -/
def skipComment (s : List Char) : List Char := s.dropWhile (· != '\n')

/-- The tokens of a source from a place on. `fresh` says that a line starts there. Every second
step consumes a character, so twice their number bounds the steps. -/
def tokensFrom : (fuel : Nat) → (fresh : Bool) → Scan → Option (List Token)
  | 0, _, _ => none
  | fuel + 1, true, s => do
    let (width, rest) ← indentation 0 0 0 s.rest
    match rest with
    | [] =>
      let finish := s.to []
      return (List.replicate (s.widths.length - 1) (finish.mark .dedent)
        ++ [finish.mark .finish])
    | '\n' :: rest => tokensFrom fuel true (s.to rest)
    | '#' :: rest => tokensFrom fuel true (s.to ((skipComment rest).drop 1))
    | rest =>
      let here := s.to rest
      if s.brackets.isEmpty then do
        let (changes, widths) ← nesting width s.widths
        let tokens ← tokensFrom fuel false (Scan.mk here.rest here.position widths here.brackets)
        return changes.map here.mark ++ tokens
      else tokensFrom fuel false here
  | fuel + 1, false, s =>
    let blank := fun c => c == ' ' || c == '\t' || c == '\x0c'
    let here := s.to (s.rest.dropWhile blank)
    match here.rest with
    | [] => some [here.mark .finish]
    | '#' :: rest => tokensFrom fuel false (here.to (skipComment rest))
    | '\n' :: rest => do
      let tokens ← tokensFrom fuel true (here.to rest)
      return if here.brackets.isEmpty then here.mark .newline :: tokens else tokens
    | '\\' :: '\n' :: rest =>
      if rest.isEmpty then none else tokensFrom fuel false (here.to rest)
    | text => do
      let (lexeme, rest) ← lexeme? text
      let brackets ← match lexeme with
        | .symbol symbol => bracketsAfter symbol here.brackets
        | _ => some here.brackets
      let after := here.to rest
      let tokens ← tokensFrom fuel false
        (Scan.mk after.rest after.position after.widths brackets)
      return ⟨lexeme, here.position, after.position⟩ :: tokens

def closeLastLine (source : List Char) : List Char :=
  if source.getLast? == some '\n' then source else source ++ ['\n']

/-- The tokens of a source, or `none` if it is not well formed. -/
def tokens (source : List Char) : Option (List Token) :=
  if source.contains '\x00' then none
  else
    let source := closeLastLine (Utf8.unifyLineEnds source)
    tokensFrom (2 * source.length + 2) true ⟨source, ⟨1, 0⟩, [(0, 0)], []⟩

end RepoAudit.Syntax.Lexer
