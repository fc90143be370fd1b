import RepoAudit.Syntax.Grammar.Expression

/-!
Patterns of `match` statements.
-/
namespace RepoAudit.Syntax.Grammar

/-- A name that a pattern binds: any but the underscore. -/
def captureName : Reader Text := do
  let name ← identifier
  if name == "_" then failure
  return name

def signedNumber : Reader Tree := do
  let start ← here
  let minus ← acceptSymbol "-"
  let inner ← here
  match ← peek with
  | .number value =>
    discard advance
    let number ← constant inner value
    if minus then node .unaryOp start [mark .uSub, number] else return number
  | _ => failure

def isImaginary : Tree → Bool
  | .node .constant _ (.leaf (.imaginary _) :: _) => true
  | .node .unaryOp _ [_, .node .constant _ (.leaf (.imaginary _) :: _)] => true
  | _ => false

/-- A number, or a sum of a real and an imaginary one. -/
def numberPattern : Reader Tree := do
  let start ← here
  let first ← signedNumber
  match ← option (oneOf [("+", Kind.add), ("-", Kind.sub)]) with
  | none => return first
  | some kind =>
    let second ← do
      let inner ← here
      match ← peek with
      | .number value => discard advance; constant inner value
      | _ => failure
    if isImaginary first || !isImaginary second then failure
    node .binOp start [first, mark kind, second]

/-- The words that are values. -/
def singleton : Reader Literal := do
  match ← peek with
  | .word "None" => discard advance; return .none
  | .word "True" => discard advance; return .bool true
  | .word "False" => discard advance; return .bool false
  | _ => failure

def dottedValue : Reader Tree := do
  let start ← here
  let first ← nameNode .load
  let attrs ← many (symbol "." *> identifier)
  attrs.foldlM (fun value attr => node .attribute start [value, .ident attr, load]) first

def starPattern : Reader Tree := do
  let start ← here
  symbol "*"
  let name ← identifier
  node .matchStar start [if name == "_" then .absent else .ident name]

def sequencePart (sub : Nested) : Reader Tree := do
  if ← atSymbol "*" then starPattern else sub.pattern

/-- The parts of a sequence up to a closing symbol, and whether a comma stood among them. -/
def sequenceParts (sub : Nested) (closing : String) : Reader (List Tree × Bool) := do
  if ← acceptSymbol closing then return ([], true)
  else do
    let parts ← separated "," (sequencePart sub)
    let comma ← acceptSymbol ","
    symbol closing
    return (parts, comma || parts.length > 1)

/-- A key of a mapping: a value without names to bind. -/
def mappingKey (sub : Nested) : Reader Tree := do
  let start ← here
  match ← peek with
  | .string _ _ => strings sub
  | .number _ => numberPattern
  | .symbol "-" => numberPattern
  | _ => (do constant start (← singleton)) <|> (do
    let value ← dottedValue
    if value.kind? == some .attribute then return value else failure)

/-- An entry of a mapping, or the name that takes the rest. -/
def mappingPart (sub : Nested) : Reader (Sum (Tree × Tree) Text) := do
  if ← acceptSymbol "**" then return .inr (← captureName)
  else do
    let key ← mappingKey sub
    symbol ":"
    return .inl (key, ← sub.pattern)

/-- Whether the name that takes the rest stands last, if at all. -/
def restLast : List (Sum (Tree × Tree) Text) → Bool
  | [] => true
  | [_] => true
  | .inl _ :: rest => restLast rest
  | .inr _ :: _ :: _ => false

def mappingPattern (sub : Nested) : Reader Tree := do
  let start ← here
  symbol "\x7b"
  let parts ←
    if ← atSymbol "\x7d" then pure []
    else do
      let parts ← separated "," (mappingPart sub)
      discard (acceptSymbol ",")
      pure parts
  symbol "\x7d"
  if !restLast parts then failure
  let entries := parts.filterMap fun | .inl e => some e | .inr _ => none
  let others := parts.filterMap fun | .inl _ => none | .inr name => some name
  node .matchMapping start [.list (entries.map (·.1)), .list (entries.map (·.2)),
    .optional (others.head?.map Tree.ident)]

/-- A part of a class pattern: a pattern, or one for a named attribute. -/
def classPart (sub : Nested) : Reader (Option Text × Tree) := do
  if ← atKeywordArgument then
    let name ← identifier
    symbol "="
    return (some name, ← sub.pattern)
  else return (none, ← sub.pattern)

/-- The parts of a class pattern after its opening parenthesis. Plain ones come first, and an
underscore after them counts as one of them. -/
def classPattern (sub : Nested) (start : Position) (cls : Tree) : Reader Tree := do
  let parts ←
    if ← atSymbol ")" then pure []
    else do
      let parts ← separated "," (classPart sub)
      discard (acceptSymbol ",")
      pure parts
  symbol ")"
  let plain := parts.takeWhile (·.1.isNone)
  let named := parts.drop plain.length
  if named.any (·.1.isNone) then failure
  if !plain.isEmpty && (named.head?.bind (·.1)) == some "_" then failure
  node .matchClass start [cls, .list (plain.map (·.2)),
    .list (named.filterMap fun (name, _) => name.map Tree.ident), .list (named.map (·.2))]

/-- A pattern that needs no parentheses. An underscore is a pattern of its own, whatever follows
it. -/
def closedPattern (sub : Nested) : Reader Tree := do
  let start ← here
  match ← peek with
  | .number _ => do node .matchValue start [← numberPattern]
  | .symbol "-" => do node .matchValue start [← numberPattern]
  | .string _ _ => do node .matchValue start [← strings sub]
  | .symbol "[" =>
    discard advance
    let (parts, _) ← sequenceParts sub "]"
    node .matchSequence start [.list parts]
  | .symbol "(" =>
    discard advance
    match ← sequenceParts sub ")" with
    | ([part], false) => if part.kind? == some .matchStar then failure else return part
    | (parts, _) => node .matchSequence start [.list parts]
  | .symbol "\x7b" => mappingPattern sub
  | .word "None" | .word "True" | .word "False" => do
    let value ← singleton
    node .matchSingleton start [.leaf value]
  | .word "_" => discard advance; node .matchAs start [.absent, .absent]
  | .word _ => do
    let value ← dottedValue
    if ← acceptSymbol "(" then classPattern sub start value
    else if value.kind? == some .attribute then node .matchValue start [value]
    else if ← atSymbol "=" then failure
    else match value.name? with
      | some name => node .matchAs start [.absent, .ident name]
      | none => failure
  | _ => failure

/-- Alternatives, perhaps with a name for the whole. -/
def pattern (sub : Nested) : Reader Tree := do
  let start ← here
  let parts ← separated "|" (closedPattern sub)
  let whole ← match parts with
    | [part] => pure part
    | parts => node .matchOr start [.list parts]
  if ← acceptWord "as" then
    let name ← captureName
    if (← atSymbol ".") || (← atSymbol "(") || (← atSymbol "=") then failure
    node .matchAs start [whole, .ident name]
  else return whole

/-- The pattern of a case. A comma makes it a sequence. -/
def casePattern (sub : Nested) : Reader Tree := do
  let start ← here
  let one := do if ← atSymbol "*" then starPattern else pattern sub
  let first ← one
  if ← atSymbol "," then
    let rest ← many (symbol "," *> one)
    discard (acceptSymbol ",")
    node .matchSequence start [.list (first :: rest)]
  else if first.kind? == some .matchStar then failure
  else return first

end RepoAudit.Syntax.Grammar
