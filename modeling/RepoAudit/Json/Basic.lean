import RepoAudit.Entries
import RepoAudit.Text.Basic
import RepoAudit.Decimal.Shortest

/-!
JSON values. Members keep their order and no name stands twice in an object. Whole numbers have
any size and are apart from doubles, although `1` and `1.0` count as equal.
-/
namespace RepoAudit

inductive Json where
  | null
  | bool (b : Bool)
  | int (n : Int)
  | float (x : Float)
  | str (s : Text)
  | arr (items : List Json)
  | obj (members : List (Text × Json))
deriving Inhabited

namespace Json

/-- The member of the given name of an object. Other values have no members. -/
def member? (name : Text) : Json → Option Json
  | .obj members => members.lookup name
  | _ => none

def typeName : Json → Text
  | .null => "NoneType"
  | .bool _ => "bool"
  | .int _ => "int"
  | .float _ => "float"
  | .str _ => "str"
  | .arr _ => "list"
  | .obj _ => "dict"

/-- Whether a value counts as true: zeros, empty texts, arrays and objects, and null do not. -/
def truthy : Json → Bool
  | .null => false
  | .bool b => b
  | .int n => n != 0
  | .float x => !(x == 0.0)
  | .str s => !s.isEmpty
  | .arr items => !items.isEmpty
  | .obj members => !members.isEmpty

/-- A number as an exact fraction `n * 2 ^ e`; no infinite number and no NaN has one. -/
def dyadic? : Json → Option (Int × Int)
  | .bool b => some (if b then 1 else 0, 0)
  | .int n => some (n, 0)
  | .float x => match Decimal.classify x with
    | .zero _ => some (0, 0)
    | .finite negative v =>
      some (if negative then -(v.mantissa : Int) else v.mantissa, v.exponent)
    | _ => none
  | _ => none

def sameDyadic (a b : Int × Int) : Bool :=
  let least := min a.2 b.2
  a.1 * Int.pow 2 (a.2 - least).toNat == b.1 * Int.pow 2 (b.2 - least).toNat

/-- Whether two numbers are equal, whatever their types. -/
def sameNumber (a b : Json) : Bool :=
  match dyadic? a, dyadic? b with
  | some p, some q => sameDyadic p q
  | none, none => match a, b with
    | .float x, .float y => Decimal.classify x == Decimal.classify y
    | _, _ => false
  | _, _ => false

mutual

/-- Whether two values are equal: numbers by value, arrays item by item, objects by their members
in any order. -/
def same : Json → Json → Bool
  | .null, .null => true
  | .str s, .str t => s == t
  | .arr as, .arr bs => sameItems as bs
  | .obj as, .obj bs => as.length == bs.length && sameMembers as bs
  | a, b => sameNumber a b

def sameItems : List Json → List Json → Bool
  | [], [] => true
  | a :: as, b :: bs => same a b && sameItems as bs
  | _, _ => false

/-- Whether every member of the first object equals that of the same name in the second. -/
def sameMembers : List (Text × Json) → List (Text × Json) → Bool
  | [], _ => true
  | (key, value) :: rest, others =>
    (match others.lookup key with
      | some other => same value other
      | none => false) && sameMembers rest others

end

/-- Values are compared as keys are: by `same`. -/
instance : BEq Json := ⟨same⟩

end Json

end RepoAudit
