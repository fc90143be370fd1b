/-!
The kinds of nodes in the syntax tree of a Python source, with the title of each kind and the
labels of its fields in order. Operators and contexts are nodes without fields.
-/
namespace RepoAudit.Syntax

/-- The kind of a node. -/
inductive Kind where
  | moduleBody | functionDef | asyncFunctionDef | classDef | returnStmt | deleteStmt | assign
  | augAssign | annAssign | forLoop | asyncFor | whileLoop | ifStmt | withStmt | asyncWith
  | matchStmt | raiseStmt | tryStmt | tryStar | assertStmt | importStmt | importFrom | globalStmt
  | nonlocalStmt | exprStmt | passStmt | breakStmt | continueStmt | boolOp | namedExpr | binOp
  | unaryOp | lambda | ifExp | dictDisplay | setDisplay | listComp | setComp | dictComp
  | generatorExp | awaitExp | yieldExp | yieldFrom | compare | call | formattedValue | joinedStr
  | constant | attribute | subscript | starred | name | listDisplay | tuple | slice
  | comprehension | exceptHandler | arguments | arg | keyword | aliased | withItem | matchCase
  | matchValue | matchSingleton | matchSequence | matchMapping | matchClass | matchStar | matchAs
  | matchOr | load | store | del | andOp | orOp | add | sub | mult | matMult | div | modOp | pow
  | lShift | rShift | bitOr | bitXor | bitAnd | floorDiv | invert | notOp | uAdd | uSub | eq
  | notEq | lt | ltE | gt | gtE | isOp | isNotOp | inOp | notInOp
deriving DecidableEq, Repr, Inhabited

namespace Kind

def all : List Kind := [
  .moduleBody, .functionDef, .asyncFunctionDef, .classDef, .returnStmt, .deleteStmt, .assign,
  .augAssign, .annAssign, .forLoop, .asyncFor, .whileLoop, .ifStmt, .withStmt, .asyncWith,
  .matchStmt, .raiseStmt, .tryStmt, .tryStar, .assertStmt, .importStmt, .importFrom, .globalStmt,
  .nonlocalStmt, .exprStmt, .passStmt, .breakStmt, .continueStmt, .boolOp, .namedExpr, .binOp,
  .unaryOp, .lambda, .ifExp, .dictDisplay, .setDisplay, .listComp, .setComp, .dictComp,
  .generatorExp, .awaitExp, .yieldExp, .yieldFrom, .compare, .call, .formattedValue, .joinedStr,
  .constant, .attribute, .subscript, .starred, .name, .listDisplay, .tuple, .slice,
  .comprehension, .exceptHandler, .arguments, .arg, .keyword, .aliased, .withItem, .matchCase,
  .matchValue, .matchSingleton, .matchSequence, .matchMapping, .matchClass, .matchStar, .matchAs,
  .matchOr, .load, .store, .del, .andOp, .orOp, .add, .sub, .mult, .matMult, .div, .modOp, .pow,
  .lShift, .rShift, .bitOr, .bitXor, .bitAnd, .floorDiv, .invert, .notOp, .uAdd, .uSub, .eq,
  .notEq, .lt, .ltE, .gt, .gtE, .isOp, .isNotOp, .inOp, .notInOp]

def title : Kind → String
  | .moduleBody => "Module"
  | .functionDef => "FunctionDef"
  | .asyncFunctionDef => "AsyncFunctionDef"
  | .classDef => "ClassDef"
  | .returnStmt => "Return"
  | .deleteStmt => "Delete"
  | .assign => "Assign"
  | .augAssign => "AugAssign"
  | .annAssign => "AnnAssign"
  | .forLoop => "For"
  | .asyncFor => "AsyncFor"
  | .whileLoop => "While"
  | .ifStmt => "If"
  | .withStmt => "With"
  | .asyncWith => "AsyncWith"
  | .matchStmt => "Match"
  | .raiseStmt => "Raise"
  | .tryStmt => "Try"
  | .tryStar => "TryStar"
  | .assertStmt => "Assert"
  | .importStmt => "Import"
  | .importFrom => "ImportFrom"
  | .globalStmt => "Global"
  | .nonlocalStmt => "Nonlocal"
  | .exprStmt => "Expr"
  | .passStmt => "Pass"
  | .breakStmt => "Break"
  | .continueStmt => "Continue"
  | .boolOp => "BoolOp"
  | .namedExpr => "NamedExpr"
  | .binOp => "BinOp"
  | .unaryOp => "UnaryOp"
  | .lambda => "Lambda"
  | .ifExp => "IfExp"
  | .dictDisplay => "Dict"
  | .setDisplay => "Set"
  | .listComp => "ListComp"
  | .setComp => "SetComp"
  | .dictComp => "DictComp"
  | .generatorExp => "GeneratorExp"
  | .awaitExp => "Await"
  | .yieldExp => "Yield"
  | .yieldFrom => "YieldFrom"
  | .compare => "Compare"
  | .call => "Call"
  | .formattedValue => "FormattedValue"
  | .joinedStr => "JoinedStr"
  | .constant => "Constant"
  | .attribute => "Attribute"
  | .subscript => "Subscript"
  | .starred => "Starred"
  | .name => "Name"
  | .listDisplay => "List"
  | .tuple => "Tuple"
  | .slice => "Slice"
  | .comprehension => "comprehension"
  | .exceptHandler => "ExceptHandler"
  | .arguments => "arguments"
  | .arg => "arg"
  | .keyword => "keyword"
  | .aliased => "alias"
  | .withItem => "withitem"
  | .matchCase => "match_case"
  | .matchValue => "MatchValue"
  | .matchSingleton => "MatchSingleton"
  | .matchSequence => "MatchSequence"
  | .matchMapping => "MatchMapping"
  | .matchClass => "MatchClass"
  | .matchStar => "MatchStar"
  | .matchAs => "MatchAs"
  | .matchOr => "MatchOr"
  | .load => "Load"
  | .store => "Store"
  | .del => "Del"
  | .andOp => "And"
  | .orOp => "Or"
  | .add => "Add"
  | .sub => "Sub"
  | .mult => "Mult"
  | .matMult => "MatMult"
  | .div => "Div"
  | .modOp => "Mod"
  | .pow => "Pow"
  | .lShift => "LShift"
  | .rShift => "RShift"
  | .bitOr => "BitOr"
  | .bitXor => "BitXor"
  | .bitAnd => "BitAnd"
  | .floorDiv => "FloorDiv"
  | .invert => "Invert"
  | .notOp => "Not"
  | .uAdd => "UAdd"
  | .uSub => "USub"
  | .eq => "Eq"
  | .notEq => "NotEq"
  | .lt => "Lt"
  | .ltE => "LtE"
  | .gt => "Gt"
  | .gtE => "GtE"
  | .isOp => "Is"
  | .isNotOp => "IsNot"
  | .inOp => "In"
  | .notInOp => "NotIn"

/-- The labels of the fields of a kind. Children are visited in this order. -/
def labels : Kind → List String
  | .moduleBody => ["body", "type_ignores"]
  | .functionDef => ["name", "args", "body", "decorator_list", "returns", "type_comment"]
  | .asyncFunctionDef => ["name", "args", "body", "decorator_list", "returns", "type_comment"]
  | .classDef => ["name", "bases", "keywords", "body", "decorator_list"]
  | .returnStmt => ["value"]
  | .deleteStmt => ["targets"]
  | .assign => ["targets", "value", "type_comment"]
  | .augAssign => ["target", "op", "value"]
  | .annAssign => ["target", "annotation", "value", "simple"]
  | .forLoop => ["target", "iter", "body", "orelse", "type_comment"]
  | .asyncFor => ["target", "iter", "body", "orelse", "type_comment"]
  | .whileLoop => ["test", "body", "orelse"]
  | .ifStmt => ["test", "body", "orelse"]
  | .withStmt => ["items", "body", "type_comment"]
  | .asyncWith => ["items", "body", "type_comment"]
  | .matchStmt => ["subject", "cases"]
  | .raiseStmt => ["exc", "cause"]
  | .tryStmt => ["body", "handlers", "orelse", "finalbody"]
  | .tryStar => ["body", "handlers", "orelse", "finalbody"]
  | .assertStmt => ["test", "msg"]
  | .importStmt => ["names"]
  | .importFrom => ["module", "names", "level"]
  | .globalStmt => ["names"]
  | .nonlocalStmt => ["names"]
  | .exprStmt => ["value"]
  | .boolOp => ["op", "values"]
  | .namedExpr => ["target", "value"]
  | .binOp => ["left", "op", "right"]
  | .unaryOp => ["op", "operand"]
  | .lambda => ["args", "body"]
  | .ifExp => ["test", "body", "orelse"]
  | .dictDisplay => ["keys", "values"]
  | .setDisplay => ["elts"]
  | .listComp => ["elt", "generators"]
  | .setComp => ["elt", "generators"]
  | .dictComp => ["key", "value", "generators"]
  | .generatorExp => ["elt", "generators"]
  | .awaitExp => ["value"]
  | .yieldExp => ["value"]
  | .yieldFrom => ["value"]
  | .compare => ["left", "ops", "comparators"]
  | .call => ["func", "args", "keywords"]
  | .formattedValue => ["value", "conversion", "format_spec"]
  | .joinedStr => ["values"]
  | .constant => ["value", "kind"]
  | .attribute => ["value", "attr", "ctx"]
  | .subscript => ["value", "slice", "ctx"]
  | .starred => ["value", "ctx"]
  | .name => ["id", "ctx"]
  | .listDisplay => ["elts", "ctx"]
  | .tuple => ["elts", "ctx"]
  | .slice => ["lower", "upper", "step"]
  | .comprehension => ["target", "iter", "ifs", "is_async"]
  | .exceptHandler => ["type", "name", "body"]
  | .arguments => [
      "posonlyargs", "args", "vararg", "kwonlyargs", "kw_defaults", "kwarg", "defaults"]
  | .arg => ["arg", "annotation", "type_comment"]
  | .keyword => ["arg", "value"]
  | .aliased => ["name", "asname"]
  | .withItem => ["context_expr", "optional_vars"]
  | .matchCase => ["pattern", "guard", "body"]
  | .matchValue => ["value"]
  | .matchSingleton => ["value"]
  | .matchSequence => ["patterns"]
  | .matchMapping => ["keys", "patterns", "rest"]
  | .matchClass => ["cls", "patterns", "kwd_attrs", "kwd_patterns"]
  | .matchStar => ["name"]
  | .matchAs => ["pattern", "name"]
  | .matchOr => ["patterns"]
  | _ => []

/-- The labels of the fields that a node may do without. Such a field is none unless it is given,
while a node that lacks another field has no attribute of that name. -/
def optionalLabels : Kind → List String
  | .functionDef | .asyncFunctionDef => ["returns", "type_comment"]
  | .returnStmt | .annAssign | .yieldExp => ["value"]
  | .assign | .forLoop | .asyncFor | .withStmt | .asyncWith => ["type_comment"]
  | .raiseStmt => ["exc", "cause"]
  | .assertStmt => ["msg"]
  | .importFrom => ["module", "level"]
  | .formattedValue => ["format_spec"]
  | .constant => ["kind"]
  | .slice => ["lower", "upper", "step"]
  | .exceptHandler => ["type", "name"]
  | .arguments => ["vararg", "kwarg"]
  | .arg => ["annotation", "type_comment"]
  | .keyword => ["arg"]
  | .aliased => ["asname"]
  | .withItem => ["optional_vars"]
  | .matchCase => ["guard"]
  | .matchMapping => ["rest"]
  | .matchStar => ["name"]
  | .matchAs => ["pattern", "name"]
  | _ => []

def ofTitle? (s : String) : Option Kind := all.find? (·.title == s)

end Kind

end RepoAudit.Syntax
