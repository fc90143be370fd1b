import RepoAudit.Syntax.Grammar.Pattern

/-!
Statements and blocks.
-/
namespace RepoAudit.Syntax.Grammar

def assigned (sub : Nested) : Reader Tree := do
  if ← atWord "yield" then yieldExpression sub else starExpressions sub

def augmentedOperators : List (String × Kind) := [
  ("+=", .add), ("-=", .sub), ("*=", .mult), ("@=", .matMult), ("/=", .div), ("%=", .modOp),
  ("&=", .bitAnd), ("|=", .bitOr), ("^=", .bitXor), ("<<=", .lShift), (">>=", .rShift),
  ("**=", .pow), ("//=", .floorDiv)]

/-- The values of a chain of assignments after the first target. All but the last are targets
too. -/
def assignmentChain (sub : Nested) : Reader (List Tree) := many1 (symbol "=" *> assigned sub)

/-- A single place in parentheses, and whether an annotation follows it. -/
def groupedPlace (sub : Nested) : Reader Bool := do
  symbol "("
  let place ← primary sub
  symbol ")"
  discard (orFail (asPlace? place))
  atSymbol ":"

/-- Whether what comes next may be annotated: if it starts with a place in parentheses, that has to
be all of it. -/
def mayBeAnnotated (sub : Nested) (input : Input) : Bool :=
  match (groupedPlace sub).run input with
  | some (annotated, _) => annotated
  | none => true

def expressionStatement (sub : Nested) : Reader Tree := do
  let start ← here
  let input ← get
  let parenthesised ← atSymbol "("
  let first ← assigned sub
  if ← atSymbol "=" then
    let chain ← assignmentChain sub
    let targets ← orFail (asTargets? .store (first :: chain.dropLast))
    match chain.getLast? with
    | some value => node .assign start [.list targets, value, .absent]
    | none => failure
  else if ← acceptSymbol ":" then
    if !mayBeAnnotated sub input then failure
    let target ← orFail (asPlace? first)
    let type ← expression sub
    let value ← if ← acceptSymbol "=" then some <$> assigned sub else pure none
    let simple := target.kind? == some .name && !parenthesised
    node .annAssign start
      [target, type, .optional value, .leaf (.int (if simple then 1 else 0))]
  else match ← option (oneOf augmentedOperators) with
    | some kind =>
      let target ← orFail (asPlace? first)
      let value ← assigned sub
      node .augAssign start [target, mark kind, value]
    | none => node .exprStmt start [first]

def dottedName : Reader Text := do
  let parts ← separated "." identifier
  return joinWith "." parts

def aliasedName (name : Reader Text) : Reader Tree := do
  let start ← here
  let id ← name
  let other ← if ← acceptWord "as" then some <$> identifier else pure none
  node .aliased start [.ident id, .optional (other.map Tree.ident)]

def importStatement : Reader Tree := do
  let start ← here
  word "import"
  let names ← separated "," (aliasedName dottedName)
  node .importStmt start [.list names]

def importDots : Reader Nat := do
  let dots ← many (oneOf [(".", 1), ("...", 3)])
  return dots.foldl (· + ·) 0

def importedNames : Reader (List Tree) := do
  let start ← here
  if ← acceptSymbol "*" then return [← node .aliased start [.ident "*", .absent]]
  else if ← acceptSymbol "(" then
    let names ← separated "," (aliasedName identifier)
    discard (acceptSymbol ",")
    symbol ")"
    return names
  else separated "," (aliasedName identifier)

def importFromStatement : Reader Tree := do
  let start ← here
  word "from"
  let level ← importDots
  let module? ← option dottedName
  if level == 0 && module?.isNone then failure
  word "import"
  let names ← importedNames
  node .importFrom start
    [.optional (module?.map Tree.ident), .list names, .leaf (.int level)]

def nameList (keyword : String) (kind : Kind) : Reader Tree := do
  let start ← here
  word keyword
  let names ← separated "," identifier
  node kind start [.list (names.map Tree.ident)]

def deleteStatement (sub : Nested) : Reader Tree := do
  let start ← here
  word "del"
  let parts ← separated "," (bitOr sub)
  discard (acceptSymbol ",")
  let targets ← orFail (asTargets? .del parts)
  node .deleteStmt start [.list targets]

def raiseStatement (sub : Nested) : Reader Tree := do
  let start ← here
  word "raise"
  match ← option (expression sub) with
  | none => node .raiseStmt start [.absent, .absent]
  | some error =>
    let cause ← if ← acceptWord "from" then some <$> expression sub else pure none
    node .raiseStmt start [error, .optional cause]

def assertStatement (sub : Nested) : Reader Tree := do
  let start ← here
  word "assert"
  let test ← expression sub
  let message ← if ← acceptSymbol "," then some <$> expression sub else pure none
  node .assertStmt start [test, .optional message]

def wordStatement (keyword : String) (kind : Kind) : Reader Tree := do
  let start ← here
  word keyword
  node kind start []

def simpleStatement (sub : Nested) : Reader Tree := do
  match ← peek with
  | .word "return" =>
    let start ← here
    word "return"
    let value ← option (starExpressions sub)
    node .returnStmt start [.optional value]
  | .word "import" => importStatement
  | .word "from" => importFromStatement
  | .word "raise" => raiseStatement sub
  | .word "pass" => wordStatement "pass" .passStmt
  | .word "del" => deleteStatement sub
  | .word "assert" => assertStatement sub
  | .word "break" => wordStatement "break" .breakStmt
  | .word "continue" => wordStatement "continue" .continueStmt
  | .word "global" => nameList "global" .globalStmt
  | .word "nonlocal" => nameList "nonlocal" .nonlocalStmt
  | _ => expressionStatement sub

/-- The statements on a line, up to its end. -/
def line (sub : Nested) : Reader (List Tree) := do
  let statements ← separated ";" (simpleStatement sub)
  discard (acceptSymbol ";")
  newline
  return statements

/-- What follows a colon. -/
def suite (sub : Nested) : Reader (List Tree) := symbol ":" *> sub.block

/-- A block after a word that may be missing. -/
def otherwise (keyword : String) (sub : Nested) : Reader (List Tree) := do
  if ← acceptWord keyword then suite sub else return []

/-- The conditions after the first, each nested in the one before. -/
def elseIf (sub : Nested) : (count : Nat) → Reader (List Tree)
  | 0 => return []
  | count + 1 => do
    let start ← here
    if ← acceptWord "elif" then
      let test ← named sub
      let body ← suite sub
      let rest ← elseIf sub count
      return [← node .ifStmt start [test, .list body, .list rest]]
    else otherwise "else" sub

def ifStatement (sub : Nested) : Reader Tree := do
  let start ← here
  word "if"
  let test ← named sub
  let body ← suite sub
  let rest ← elseIf sub (← get).tokens.length
  node .ifStmt start [test, .list body, .list rest]

def whileStatement (sub : Nested) : Reader Tree := do
  let start ← here
  word "while"
  let test ← named sub
  let body ← suite sub
  let rest ← otherwise "else" sub
  node .whileLoop start [test, .list body, .list rest]

def forStatement (sub : Nested) (start : Position) (kind : Kind) : Reader Tree := do
  word "for"
  let target ← targets sub
  word "in"
  let iter ← starExpressions sub
  let body ← suite sub
  let rest ← otherwise "else" sub
  node kind start [target, iter, .list body, .list rest, .absent]

/-- A context of a `with` statement and the target it is bound to. -/
def withItem (sub : Nested) : Reader Tree := do
  let start ← here
  let context ← expression sub
  let target ←
    if ← acceptWord "as" then
      let one ← starred sub.bitOr <|> sub.bitOr
      some <$> orFail (asTarget? .store one)
    else pure none
  node .withItem start [context, .optional target]

/-- The contexts of a `with` statement and its colon, in parentheses or not. -/
def withItems (sub : Nested) : Reader (List Tree) :=
  (do
    symbol "("
    let items ← separated "," (withItem sub)
    discard (acceptSymbol ",")
    symbol ")"
    symbol ":"
    return items) <|> (do
    let items ← separated "," (withItem sub)
    symbol ":"
    return items)

def withStatement (sub : Nested) (start : Position) (kind : Kind) : Reader Tree := do
  word "with"
  let items ← withItems sub
  let body ← sub.block
  node kind start [.list items, .list body, .absent]

/-- A handler of a `try` statement. -/
def handler (sub : Nested) (group : Bool) : Reader Tree := do
  let start ← here
  word "except"
  if group then symbol "*"
  let type? ← if (← atSymbol ":") && !group then pure none else some <$> expression sub
  let name ←
    if ← acceptWordIf type?.isSome "as" then some <$> identifier else pure none
  let body ← suite sub
  node .exceptHandler start [.optional type?, .optional (name.map Tree.ident), .list body]

/-- The parts of a `try` statement after its handlers. -/
def tryRest (sub : Nested) (start : Position) (kind : Kind) (body handlers : List Tree) :
    Reader Tree := do
  let orElse ← if handlers.isEmpty then pure [] else otherwise "else" sub
  let final ← otherwise "finally" sub
  if handlers.isEmpty && final.isEmpty then failure
  node kind start [.list body, .list handlers, .list orElse, .list final]

def tryStatement (sub : Nested) : Reader Tree := do
  let start ← here
  word "try"
  let body ← suite sub
  let groups ← many (handler sub true)
  if groups.isEmpty then tryRest sub start .tryStmt body (← many (handler sub false))
  else tryRest sub start .tryStar body groups

/-- The name, parameters, result type and body of a function. -/
def functionDefinition (sub : Nested) (start : Position) (kind : Kind) (decorators : List Tree) :
    Reader Tree := do
  word "def"
  let name ← identifier
  symbol "("
  let params ← parameters true ")" sub
  symbol ")"
  let result ← if ← acceptSymbol "->" then some <$> expression sub else pure none
  let body ← suite sub
  node kind start
    [.ident name, params, .list body, .list decorators, .optional result, .absent]

def classDefinition (sub : Nested) (start : Position) (decorators : List Tree) : Reader Tree := do
  word "class"
  let name ← identifier
  let (bases, keywords) ←
    if ← acceptSymbol "(" then callArguments sub false else pure ([], [])
  let body ← suite sub
  node .classDef start
    [.ident name, .list bases, .list keywords, .list body, .list decorators]

/-- A definition with its decorators. It starts at its first word, not at a decorator. -/
def definition (sub : Nested) : Reader Tree := do
  let decorators ← many (symbol "@" *> named sub <* newline)
  let start ← here
  if ← atWord "class" then classDefinition sub start decorators
  else if ← acceptWord "async" then
    functionDefinition sub start .asyncFunctionDef decorators
  else functionDefinition sub start .functionDef decorators

def asyncStatement (sub : Nested) : Reader Tree := do
  let start ← here
  word "async"
  if ← atWord "def" then functionDefinition sub start .asyncFunctionDef []
  else if ← atWord "for" then forStatement sub start .asyncFor
  else withStatement sub start .asyncWith

/-- A case of a `match` statement. -/
def matchCase (sub : Nested) : Reader Tree := do
  let start ← here
  word "case"
  let shape ← casePattern sub
  let guard? ← if ← acceptWord "if" then some <$> named sub else pure none
  let body ← suite sub
  node .matchCase start [shape, .optional guard?, .list body]

/-- What a `match` statement looks at. -/
def subject (sub : Nested) : Reader Tree := do
  let start ← here
  let first ← starNamed sub
  if ← atSymbol "," then
    let rest ← many (symbol "," *> starNamed sub)
    discard (acceptSymbol ",")
    node .tuple start [.list (first :: rest), load]
  else if first.kind? == some .starred then failure
  else return first

def matchStatement (sub : Nested) : Reader Tree := do
  let start ← here
  word "match"
  let value ← subject sub
  symbol ":"
  newline
  indent
  let cases ← many1 (matchCase sub)
  dedent
  node .matchStmt start [value, .list cases]

/-- A statement, or the statements on a line. -/
def statement (sub : Nested) : Reader (List Tree) := do
  let one := fun (p : Reader Tree) => do return [← p]
  match ← peek with
  | .word "if" => one (ifStatement sub)
  | .word "while" => one (whileStatement sub)
  | .word "for" => one (do forStatement sub (← here) .forLoop)
  | .word "with" => one (do withStatement sub (← here) .withStmt)
  | .word "try" => one (tryStatement sub)
  | .word "def" => one (definition sub)
  | .word "class" => one (definition sub)
  | .symbol "@" => one (definition sub)
  | .word "async" => one (asyncStatement sub)
  | .word "match" => one (matchStatement sub) <|> line sub
  | _ => line sub

def statements (sub : Nested) : Reader (List Tree) := do return (← many1 (statement sub)).flatten

/-- An indented block, or the rest of the line. -/
def block (sub : Nested) : Reader (List Tree) := do
  match ← peek with
  | .newline =>
    newline
    indent
    let body ← statements sub
    dedent
    return body
  | _ => line sub

end RepoAudit.Syntax.Grammar
