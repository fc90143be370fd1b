import RepoAudit.Syntax.Grammar.Formatted
import RepoAudit.Syntax.Grammar.Target
import RepoAudit.Syntax.Lexer

/-!
Expressions. Each reader takes the readers of the parts nested in it as a parameter, so that the
grammar is tied together once, by the depth of nesting.
-/
namespace RepoAudit.Syntax.Grammar

/-- Readers of the parts that may be nested in a construct. -/
structure Nested where
  expression : Reader Tree
  named : Reader Tree
  starNamed : Reader Tree
  starExpressions : Reader Tree
  disjunction : Reader Tree
  bitOr : Reader Tree
  factor : Reader Tree
  pattern : Reader Tree
  block : Reader (List Tree)

/-- Whether an identifier and `:=` come next. -/
def atNaming : Reader Bool := do
  match (← get).tokens with
  | a :: b :: _ => match a.lexeme, b.lexeme with
    | .word s, .symbol ":=" => return !keywords.contains s
    | _, _ => return false
  | _ => return false

/-- Whether an identifier and `=` come next. -/
def atKeywordArgument : Reader Bool := do
  match (← get).tokens with
  | a :: b :: _ => match a.lexeme, b.lexeme with
    | .word s, .symbol "=" => return !keywords.contains s
    | _, _ => return false
  | _ => return false

def atClause : Reader Bool := do return (← atWord "for") || (← atWord "async")

def starred (operand : Reader Tree) : Reader Tree := do
  let start ← here
  symbol "*"
  let value ← operand
  node .starred start [value, load]

def nameNode (context : Kind) : Reader Tree := do
  let start ← here
  let id ← identifier
  node .name start [.ident id, mark context]

/-- Targets of a loop or a comprehension. A comma makes them a tuple. -/
def targets (sub : Nested) : Reader Tree := do
  let start ← here
  let one := starred sub.bitOr <|> sub.bitOr
  let first ← one
  let rest ← many (symbol "," *> one)
  let comma ← acceptSymbol ","
  let whole ←
    if rest.isEmpty && !comma then pure first
    else node .tuple start [.list (first :: rest), load]
  orFail (asTarget? .store whole)

def clause (sub : Nested) : Reader Tree := do
  let start ← here
  let isAsync ← acceptWord "async"
  word "for"
  let target ← targets sub
  word "in"
  let iter ← sub.disjunction
  let ifs ← many (word "if" *> sub.disjunction)
  node .comprehension start [target, iter, .list ifs, .leaf (.int (if isAsync then 1 else 0))]

def clauses (sub : Nested) : Reader (List Tree) := many1 (clause sub)

/-- A parameter of a function as it is written. -/
inductive Parameter where
  | slash
  | star (arg : Option Tree)
  | double (arg : Tree)
  | plain (arg : Tree) (default? : Option Tree)

/-- The parameters of a function, sorted by kind. -/
structure Parameters where
  positionalOnly : List Tree := []
  positional : List Tree := []
  defaults : List Tree := []
  starArg : Option Tree := none
  keywordOnly : List Tree := []
  keywordDefaults : List Tree := []
  doubleArg : Option Tree := none
  seenSlash : Bool := false
  seenStar : Bool := false
  /-- A bare star was the last parameter, so a named one has to follow. -/
  awaitsName : Bool := false

/-- Takes the next parameter in. The order of kinds is fixed, and before the star a parameter
without a default cannot follow one with a default. -/
def Parameters.add (ps : Parameters) : Parameter → Option Parameters
  | .slash =>
    if ps.seenSlash || ps.seenStar || ps.doubleArg.isSome || ps.positional.isEmpty then none
    else some { ps with positionalOnly := ps.positional, positional := [], seenSlash := true }
  | .star arg =>
    if ps.seenStar || ps.doubleArg.isSome then none
    else some { ps with starArg := arg, seenStar := true, awaitsName := arg.isNone }
  | .double arg =>
    if ps.doubleArg.isSome || ps.awaitsName then none
    else some { ps with doubleArg := some arg }
  | .plain arg default? =>
    if ps.doubleArg.isSome then none
    else if ps.seenStar then
      some { ps with
        keywordOnly := ps.keywordOnly ++ [arg]
        keywordDefaults := ps.keywordDefaults ++ [Tree.optional default?]
        awaitsName := false }
    else match default? with
      | some d =>
        some { ps with positional := ps.positional ++ [arg], defaults := ps.defaults ++ [d] }
      | none =>
        if ps.defaults.isEmpty then some { ps with positional := ps.positional ++ [arg] }
        else none

def Parameters.node (ps : Parameters) : Tree :=
  .node .arguments default [
    .list ps.positionalOnly, .list ps.positional, .optional ps.starArg, .list ps.keywordOnly,
    .list ps.keywordDefaults, .optional ps.doubleArg, .list ps.defaults]

/-- A parameter's name and, where it may have one, its type. -/
def argument (typed starTyped : Bool) (sub : Nested) : Reader Tree := do
  let start ← here
  let id ← identifier
  let type? ←
    if ← acceptSymbolIf typed ":" then
      if starTyped && (← atSymbol "*") then some <$> starred sub.bitOr
      else some <$> sub.expression
    else pure none
  node .arg start [.ident id, .optional type?, .absent]

def parameter (typed : Bool) (sub : Nested) : Reader Parameter := do
  if ← acceptSymbol "/" then return .slash
  else if ← acceptSymbol "**" then return .double (← argument typed false sub)
  else if ← acceptSymbol "*" then
    if ← atSymbol "," then return .star none
    else return .star (some (← argument typed true sub))
  else do
    let arg ← argument typed false sub
    if ← acceptSymbol "=" then return .plain arg (some (← sub.expression))
    else return .plain arg none

/-- The parameters up to a closing symbol, which is left. -/
def parameters (typed : Bool) (closing : String) (sub : Nested) : Reader Tree := do
  if ← atSymbol closing then return Parameters.node {}
  else do
    let items ← separated "," (parameter typed sub)
    discard (acceptSymbol ",")
    if !(← atSymbol closing) then failure
    let ps ← orFail (items.foldlM (fun ps item => Parameters.add ps item) ({} : Parameters))
    if ps.awaitsName then failure
    return ps.node

def lambda (sub : Nested) : Reader Tree := do
  let start ← here
  word "lambda"
  let args ← parameters false ":" sub
  symbol ":"
  let body ← sub.expression
  node .lambda start [args, body]

def yieldExpression (sub : Nested) : Reader Tree := do
  let start ← here
  word "yield"
  if ← acceptWord "from" then
    let value ← sub.expression
    node .yieldFrom start [value]
  else
    let value ← option sub.starExpressions
    node .yieldExp start [.optional value]

/-- An argument of a call as it is written. -/
inductive Argument where
  | plain (t : Tree)
  | star (t : Tree)
  | keyword (t : Tree)
  | double (t : Tree)

/-- Whether arguments stand in an order that calls admit: plain ones first, and no starred one
after a doubly starred one. -/
def wellOrdered : (named doubled : Bool) → List Argument → Bool
  | _, _, [] => true
  | named, doubled, .plain _ :: rest => !named && !doubled && wellOrdered named doubled rest
  | named, doubled, .star _ :: rest => !doubled && wellOrdered named doubled rest
  | _, doubled, .keyword _ :: rest => wellOrdered true doubled rest
  | _, _, .double _ :: rest => wellOrdered true true rest

def callArgument (sub : Nested) : Reader Argument := do
  let start ← here
  if ← acceptSymbol "**" then
    let value ← sub.expression
    return .double (← node .keyword start [.absent, value])
  else if ← atSymbol "*" then return .star (← starred sub.expression)
  else if ← atKeywordArgument then
    let name ← identifier
    symbol "="
    let value ← sub.expression
    return .keyword (← node .keyword start [.ident name, value])
  else return .plain (← sub.named)

/-- The arguments of a call, after its opening parenthesis, from the second on, and the closing
parenthesis. -/
def moreArguments (sub : Nested) (first : Argument) : Reader (List Tree × List Tree) := do
  let rest ← many (symbol "," *> callArgument sub)
  discard (acceptSymbol ",")
  symbol ")"
  let items := first :: rest
  if !wellOrdered false false items then failure
  return (items.filterMap fun | .plain t | .star t => some t | _ => none,
    items.filterMap fun | .keyword t | .double t => some t | _ => none)

/-- The arguments of a class or a call after its opening parenthesis, and the closing one. Calls
also admit a comprehension as the only argument. -/
def callArguments (sub : Nested) (generator : Bool) : Reader (List Tree × List Tree) := do
  if ← acceptSymbol ")" then return ([], [])
  else do
    let start ← here
    match ← callArgument sub with
    | .plain item =>
      if generator && (← atClause) then
        let loops ← clauses sub
        symbol ")"
        return ([← node .generatorExp start [item, .list loops]], [])
      else moreArguments sub (.plain item)
    | first => moreArguments sub first

/-- A part of a slice, missing where its place is empty. -/
def slicePart (sub : Nested) : Reader (Option Tree) := do
  if (← atSymbol ":") || (← atSymbol ",") || (← atSymbol "]") then return none
  else some <$> sub.expression

/-- One index of a subscript: a slice, a starred part or an expression. -/
def index (sub : Nested) : Reader Tree := do
  let start ← here
  if ← atSymbol "*" then starred sub.expression
  else do
    let naming ← atNaming
    let lower ← if ← atSymbol ":" then pure none else some <$> sub.named
    if ← acceptSymbolIf (!naming) ":" then do
      let upper ← slicePart sub
      let step ← if ← acceptSymbol ":" then slicePart sub else pure none
      node .slice start [.optional lower, .optional upper, .optional step]
    else orFail lower

/-- The indices of a subscript. A comma or a star makes them a tuple. -/
def indices (sub : Nested) : Reader Tree := do
  let start ← here
  let items ← separated "," (index sub)
  let comma ← acceptSymbol ","
  match items with
  | [item] =>
    if comma || item.kind? == some .starred then node .tuple start [.list items, load]
    else return item
  | items => node .tuple start [.list items, load]

def constant (start : Position) (value : Literal) : Reader Tree :=
  node .constant start [.leaf value, .absent]

/-- The tree of the source between the braces of a formatted string. -/
def embedded (sub : Nested) (source : List Char) : Option Tree := do
  let tokens ← Lexer.tokens ('(' :: source ++ [')'])
  let (tree, input) ← sub.starExpressions.run ⟨tokens, default⟩
  match input.tokens.map Token.lexeme with
  | [Lexeme.newline, Lexeme.finish] => some tree
  | _ => none

def stringToken : Reader (StringMarks × List Char) := do
  match ← peek with
  | .string marks content => discard advance; return (marks, content)
  | _ => failure

/-- Neighbouring strings make one constant, or one formatted string if any of them is. Bytes mix
with bytes only. -/
def strings (sub : Nested) : Reader Tree := do
  let start ← here
  let parts ← many1 stringToken
  let smallU := (parts.head?.map fun (marks, _) => marks.smallU).getD false
  if parts.all fun (marks, _) => marks.bytes then
    let all ← orFail (parts.mapM fun (marks, content) => Unescape.bytes marks.raw content)
    constant start (.bytes all.flatten)
  else if parts.any fun (marks, _) => marks.bytes then failure
  else if parts.any fun (marks, _) => marks.formatted then
    let all ← orFail (parts.mapM fun (marks, content) =>
      if marks.formatted then do
        let (pieces, rest) ← Formatted.pieces (embedded sub) marks.raw smallU
          (content.length + 1) 0 content
        if rest.isEmpty then some pieces else none
      else do return [Formatted.Piece.text (← Unescape.text marks.raw content)])
    return Formatted.joined smallU smallU all.flatten
  else
    let all ← orFail (parts.mapM fun (marks, content) => Unescape.text marks.raw content)
    node .constant start
      [.leaf (.text all.flatten), if smallU then .ident "u" else .absent]

/-- What stands in parentheses: nothing, one expression, a tuple or a generator. -/
def parenthesised (sub : Nested) : Reader Tree := do
  let start ← here
  symbol "("
  if ← acceptSymbol ")" then node .tuple start [.list [], load]
  else if ← atWord "yield" then
    let value ← yieldExpression sub
    symbol ")"
    return value
  else do
    let first ← sub.starNamed
    let isStarred := first.kind? == some .starred
    if ← atClause then
      if isStarred then failure
      let loops ← clauses sub
      symbol ")"
      node .generatorExp start [first, .list loops]
    else if ← atSymbol "," then
      let rest ← many (symbol "," *> sub.starNamed)
      discard (acceptSymbol ",")
      symbol ")"
      node .tuple start [.list (first :: rest), load]
    else do
      symbol ")"
      if isStarred then failure
      return first

/-- What stands in brackets: a list or a comprehension. -/
def bracketedList (sub : Nested) : Reader Tree := do
  let start ← here
  symbol "["
  if ← acceptSymbol "]" then node .listDisplay start [.list [], load]
  else do
    let first ← sub.starNamed
    if ← atClause then
      if first.kind? == some .starred then failure
      let loops ← clauses sub
      symbol "]"
      node .listComp start [first, .list loops]
    else do
      let rest ← many (symbol "," *> sub.starNamed)
      discard (acceptSymbol ",")
      symbol "]"
      node .listDisplay start [.list (first :: rest), load]

/-- An entry of a dictionary: a key and its value, or an unpacked dictionary without a key. -/
def entry (sub : Nested) : Reader (Tree × Tree) := do
  if ← acceptSymbol "**" then return (.absent, ← sub.bitOr)
  else do
    let key ← sub.expression
    symbol ":"
    return (key, ← sub.expression)

def dictionary (sub : Nested) (start : Position) (first : Tree × Tree) : Reader Tree := do
  if (← atClause) && first.1.kind?.isSome then
    let loops ← clauses sub
    symbol "\x7d"
    node .dictComp start [first.1, first.2, .list loops]
  else do
    let rest ← many (symbol "," *> entry sub)
    discard (acceptSymbol ",")
    symbol "\x7d"
    let all := first :: rest
    node .dictDisplay start [.list (all.map (·.1)), .list (all.map (·.2))]

/-- What stands in braces: a dictionary or a set, or a comprehension of either. -/
def braced (sub : Nested) : Reader Tree := do
  let start ← here
  symbol "\x7b"
  if ← acceptSymbol "\x7d" then node .dictDisplay start [.list [], .list []]
  else if ← atSymbol "**" then do dictionary sub start (← entry sub)
  else do
    let naming ← atNaming
    let first ← sub.starNamed
    let isStarred := first.kind? == some .starred
    if ← acceptSymbolIf (!naming && !isStarred) ":" then
      let value ← sub.expression
      dictionary sub start (first, value)
    else if ← atClause then
      if isStarred then failure
      let loops ← clauses sub
      symbol "\x7d"
      node .setComp start [first, .list loops]
    else do
      let rest ← many (symbol "," *> sub.starNamed)
      discard (acceptSymbol ",")
      symbol "\x7d"
      node .setDisplay start [.list (first :: rest)]

/-- The smallest expressions. -/
def atom (sub : Nested) : Reader Tree := do
  let start ← here
  match ← peek with
  | .number value => discard advance; constant start value
  | .string _ _ => strings sub
  | .word "None" => discard advance; constant start .none
  | .word "True" => discard advance; constant start (.bool true)
  | .word "False" => discard advance; constant start (.bool false)
  | .word _ => nameNode .load
  | .symbol "..." => discard advance; constant start .ellipsis
  | .symbol "(" => parenthesised sub
  | .symbol "[" => bracketedList sub
  | .symbol "\x7b" => braced sub
  | _ => failure

/-- One step after an expression: an attribute, a call or a subscript. -/
def trailer (sub : Nested) (start : Position) (value : Tree) : Reader Tree := do
  if ← acceptSymbol "." then
    let attr ← identifier
    node .attribute start [value, .ident attr, load]
  else if ← acceptSymbol "(" then
    let (args, keywords) ← callArguments sub true
    node .call start [value, .list args, .list keywords]
  else do
    symbol "["
    let at? ← indices sub
    symbol "]"
    node .subscript start [value, at?, load]

/-- All steps after an expression, at most `count`. -/
def trailers (sub : Nested) (start : Position) : (count : Nat) → Tree → Reader Tree
  | 0, value => return value
  | count + 1, value => do
    if (← atSymbol ".") || (← atSymbol "(") || (← atSymbol "[") then
      trailers sub start count (← trailer sub start value)
    else return value

/-- An atom with its attributes, calls and subscripts. -/
def primary (sub : Nested) : Reader Tree := do
  let start ← here
  let first ← atom sub
  trailers sub start (← get).tokens.length first

/-- A primary that may be waited for. -/
def awaited (sub : Nested) : Reader Tree := do
  let start ← here
  if ← acceptWord "await" then
    let value ← primary sub
    node .awaitExp start [value]
  else primary sub

/-- A power. Its exponent may have a sign. -/
def power (sub : Nested) : Reader Tree := do
  let start ← here
  let base ← awaited sub
  if ← acceptSymbol "**" then
    let exponent ← sub.factor
    node .binOp start [base, mark .pow, exponent]
  else return base

def factor (sub : Nested) : Reader Tree := do
  let sign := do
    let start ← here
    let kind ← oneOf [("+", Kind.uAdd), ("-", Kind.uSub), ("~", Kind.invert)]
    return (start, kind)
  let signs ← many sign
  let operand ← power sub
  signs.foldrM (fun (start, kind) operand => node .unaryOp start [mark kind, operand]) operand

/-- Operands joined by operators of one rank, grouped to the left. -/
def leftGrouped (operators : List (String × Kind)) (operand : Reader Tree) : Reader Tree := do
  let start ← here
  let first ← operand
  let rest ← many (do return (← oneOf operators, ← operand))
  rest.foldlM (fun left (kind, right) => node .binOp start [left, mark kind, right]) first

def term (sub : Nested) : Reader Tree :=
  leftGrouped [("*", .mult), ("/", .div), ("//", .floorDiv), ("%", .modOp), ("@", .matMult)]
    (factor sub)

def sum (sub : Nested) : Reader Tree := leftGrouped [("+", .add), ("-", .sub)] (term sub)

def shift (sub : Nested) : Reader Tree :=
  leftGrouped [("<<", .lShift), (">>", .rShift)] (sum sub)

def bitAnd (sub : Nested) : Reader Tree := leftGrouped [("&", .bitAnd)] (shift sub)

def bitXor (sub : Nested) : Reader Tree := leftGrouped [("^", .bitXor)] (bitAnd sub)

def bitOr (sub : Nested) : Reader Tree := leftGrouped [("|", .bitOr)] (bitXor sub)

/-- An operator of comparison, which may have two words. -/
def comparisonOperator : Reader Kind := do
  match ← peek with
  | .word "in" => discard advance; return .inOp
  | .word "not" => discard advance; word "in"; return .notInOp
  | .word "is" =>
    discard advance
    if ← acceptWord "not" then return .isNotOp else return .isOp
  | _ => oneOf [("==", .eq), ("!=", .notEq), ("<=", .ltE), ("<", .lt), (">=", .gtE), (">", .gt)]

/-- A chain of comparisons is one node. -/
def comparison (sub : Nested) : Reader Tree := do
  let start ← here
  let first ← bitOr sub
  let rest ← many (do return (← comparisonOperator, ← bitOr sub))
  if rest.isEmpty then return first
  else node .compare start [first, .list (rest.map fun (kind, _) => mark kind),
    .list (rest.map (·.2))]

def inversion (sub : Nested) : Reader Tree := do
  let negations ← many (do let start ← here; word "not"; return start)
  let operand ← comparison sub
  negations.foldrM (fun start operand => node .unaryOp start [mark .notOp, operand]) operand

/-- Operands joined by one word make one node. -/
def chained (joint : String) (kind : Kind) (operand : Reader Tree) : Reader Tree := do
  let start ← here
  let first ← operand
  let rest ← many (word joint *> operand)
  if rest.isEmpty then return first
  else node .boolOp start [mark kind, .list (first :: rest)]

def conjunction (sub : Nested) : Reader Tree := chained "and" .andOp (inversion sub)

def disjunction (sub : Nested) : Reader Tree := chained "or" .orOp (conjunction sub)

/-- An expression: a function without a name, or a disjunction, perhaps with a condition. -/
def expression (sub : Nested) : Reader Tree := do
  let start ← here
  if ← atWord "lambda" then lambda sub
  else do
    let value ← disjunction sub
    let condition ← option (do
      word "if"
      let test ← disjunction sub
      word "else"
      return (test, ← sub.expression))
    match condition with
    | some (test, other) => node .ifExp start [test, value, other]
    | none => return value

/-- An expression that may name its value. -/
def named (sub : Nested) : Reader Tree := do
  let start ← here
  if ← atNaming then
    let target ← nameNode .store
    symbol ":="
    let value ← sub.expression
    node .namedExpr start [target, value]
  else do
    let value ← expression sub
    if ← atSymbol ":=" then failure
    return value

def starNamed (sub : Nested) : Reader Tree := do
  if ← atSymbol "*" then starred sub.bitOr else named sub

/-- Expressions, some perhaps starred. A comma makes them a tuple. -/
def starExpressions (sub : Nested) : Reader Tree := do
  let start ← here
  let one := do if ← atSymbol "*" then starred sub.bitOr else expression sub
  let first ← one
  let rest ← many (symbol "," *> one)
  let comma ← acceptSymbol ","
  if rest.isEmpty && !comma then return first
  else node .tuple start [.list (first :: rest), load]

end RepoAudit.Syntax.Grammar
