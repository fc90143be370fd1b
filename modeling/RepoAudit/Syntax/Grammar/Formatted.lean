import RepoAudit.Syntax.Grammar.Basic
import RepoAudit.Syntax.Unescape

/-!
Formatted strings: text with expressions in braces. An expression may be followed by an equals
sign that repeats its source, a conversion and a format, which may itself hold expressions.
-/
namespace RepoAudit.Syntax.Grammar.Formatted

/-- A piece of a string: text or a formatted value. -/
inductive Piece where
  | text (t : Text)
  | value (t : Tree)

/-- A stretch of literal text. -/
structure Stretch where
  /-- The characters, escapes not yet resolved. -/
  chars : List Char
  /-- The stretch ended at a doubled brace, so more text follows. -/
  more : Bool
  rest : List Char

def Stretch.after (cs : List Char) (s : Stretch) : Stretch := ⟨cs ++ s.chars, s.more, s.rest⟩

def isBrace (c : Char) : Bool := c == '\x7b' || c == '\x7d'

/-- A stretch that ends at a brace. Outside formats a doubled brace stands for itself, and a
closing one must be doubled. -/
def atBrace (level : Nat) (c : Char) (rest : List Char) : Option Stretch :=
  if level == 0 then
    if rest.head? == some c then some ⟨[c], true, rest.drop 1⟩
    else if c == '\x7d' then none
    else some ⟨[], false, c :: rest⟩
  else some ⟨[], false, c :: rest⟩

/-- Literal text up to an expression, a closing brace or the end. The braces of a named character
belong to the text. -/
def literal (raw : Bool) (level : Nat) : List Char → Option Stretch
  | [] => some ⟨[], false, []⟩
  | '\\' :: 'N' :: '\x7b' :: rest =>
    if raw then (atBrace level '\x7b' rest).map (·.after ['\\', 'N'])
    else
      let name := rest.takeWhile (· != '\x7d')
      (literal raw level (rest.drop (name.length + 1))).map
        (·.after ('\\' :: 'N' :: '\x7b' :: (rest.take (name.length + 1))))
  | '\\' :: c :: rest =>
    if isBrace c then (atBrace level c rest).map (·.after ['\\'])
    else if raw then (literal raw level (c :: rest)).map (·.after ['\\'])
    else (literal raw level rest).map (·.after ['\\', c])
  | c :: rest =>
    if isBrace c then atBrace level c rest
    else (literal raw level rest).map (·.after [c])
termination_by s => s.length
decreasing_by all_goals simp_all <;> omega

def closingOf? : Char → Option Char
  | '(' => some ')'
  | '[' => some ']'
  | '\x7b' => some '\x7d'
  | _ => none

/-- The source of an expression up to the sign that ends it. `quote` is the open string, with the
number of its quotes, and `brackets` the closing brackets that are awaited. -/
def source (quote : Option (Char × Nat)) (brackets : List Char) :
    List Char → Option (List Char × List Char)
  | [] => none
  | c :: rest =>
    let keep := fun (count : Nat) (found : Option (List Char × List Char)) =>
      found.map fun (text, after) => (c :: (rest.take count ++ text), after)
    if c == '\\' then none
    else match quote with
      | some (q, count) =>
        if c == q && count == 1 then keep 0 (source none brackets rest)
        else if c == q && [q, q].isPrefixOf rest then
          keep 2 (source none brackets (rest.drop 2))
        else keep 0 (source quote brackets rest)
      | none =>
        if c == '\'' || c == '"' then
          if [c, c].isPrefixOf rest then keep 2 (source (some (c, 3)) brackets (rest.drop 2))
          else keep 0 (source (some (c, 1)) brackets rest)
        else match closingOf? c with
          | some closing => keep 0 (source none (closing :: brackets) rest)
          | none =>
            if c == '#' then none
            else match brackets with
              | [] =>
                if ['!', '=', '<', '>'].contains c && rest.head? == some '=' then
                  keep 1 (source none [] (rest.drop 1))
                else if ['!', ':', '\x7d', '='].contains c then some ([], c :: rest)
                else if c == ')' || c == ']' then none
                else keep 0 (source none [] rest)
              | top :: outer =>
                if c == top then keep 0 (source none outer rest)
                else if [')', ']', '\x7d'].contains c then none
                else keep 0 (source none brackets rest)
termination_by s => s.length
decreasing_by all_goals (simp only [List.length_cons, List.length_drop]; omega)

def isSourceSpace (c : Char) : Bool :=
  c == ' ' || c == '\t' || c == '\n' || c == '\r' || c == '\x0b' || c == '\x0c'

/-- The sign of a conversion and the number the tree keeps for it. -/
def conversion? : List Char → Option (Int × List Char)
  | '!' :: 's' :: rest => some (115, rest)
  | '!' :: 'r' :: rest => some (114, rest)
  | '!' :: 'a' :: rest => some (97, rest)
  | '!' :: _ => none
  | rest => some (-1, rest)

/-- Joins neighbouring texts and drops empty ones. -/
def merge : List Piece → List Piece
  | [] => []
  | .value v :: rest => .value v :: merge rest
  | .text t :: rest => match merge rest with
    | .text u :: rest => .text (t ++ u) :: rest
    | rest => if t.isEmpty then rest else .text t :: rest

def constant (smallU : Bool) (t : Text) : Tree :=
  .node .constant default [.leaf (.text t), if smallU then .ident "u" else .absent]

/-- The parts of a formatted string. Texts before a value and the text at the end may be marked
differently. -/
def parts (smallU lastU : Bool) : List Piece → List Tree
  | [] => []
  | [.text t] => [constant lastU t]
  | .text t :: rest => constant smallU t :: parts smallU lastU rest
  | .value v :: rest => v :: parts smallU lastU rest

def joined (smallU lastU : Bool) (pieces : List Piece) : Tree :=
  .node .joinedStr default [.list (parts smallU lastU (merge pieces))]

/-- The pieces of a string's content. `parse` reads the source of an expression, and formats are
nested at most once. The text at the end of a format is not marked. Every round takes a character,
so the length bounds the rounds. -/
def pieces (parse : List Char → Option Tree) (raw smallU : Bool) :
    (fuel level : Nat) → List Char → Option (List Piece × List Char)
  | 0, _, _ => none
  | fuel + 1, level, s => do
    let stretch ← literal raw level s
    let text ← Unescape.text raw stretch.chars
    if stretch.more then
      let (more, rest) ← pieces parse raw smallU fuel level stretch.rest
      return (.text text :: more, rest)
    match stretch.rest with
    | '\x7b' :: rest => do
      if level ≥ 2 then failure
      let (expression, rest) ← source none [] rest
      if expression.all isSourceSpace then failure
      let value ← parse expression
      let (shown, rest) := match rest with
        | '=' :: rest =>
          let blanks := rest.takeWhile isSourceSpace
          (some (expression ++ '=' :: blanks), rest.drop blanks.length)
        | rest => (none, rest)
      let (conversion, rest) ← conversion? rest
      let (format, rest) ← match rest with
        | ':' :: rest => do
          let (inner, rest) ← pieces parse raw smallU fuel (level + 1) rest
          pure (joined smallU false inner, rest)
        | rest => pure (.absent, rest)
      match rest with
      | '\x7d' :: rest => do
        let plain := conversion == -1 && format.kind?.isNone
        let conversion := if shown.isSome && plain then 114 else conversion
        let node : Tree :=
          .node .formattedValue default [value, .leaf (.int conversion), format]
        let (more, rest) ← pieces parse raw smallU fuel level rest
        return (.text text :: .text (Text.ofChars (shown.getD [])) :: .value node :: more, rest)
      | _ => failure
    | rest => return ([.text text], rest)

end RepoAudit.Syntax.Grammar.Formatted
