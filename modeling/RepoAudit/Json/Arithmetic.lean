import RepoAudit.Fault

/-!
Arithmetic on values. Truth values count as zero and one, whole numbers are exact, and a double
makes the result a double.
-/
namespace RepoAudit.Json

/-- The whole number of a value that counts as one. -/
def int? : Json → Option Int
  | .bool b => some (if b then 1 else 0)
  | .int n => some n
  | _ => none

def floatOfInt (n : Int) : Except Fault Float :=
  let x := Decimal.toFloat n.natAbs 0
  if x.isInf then .error .integerTooLarge else .ok (if n < 0 then -x else x)

/-- The double of a number, or `none` for other values. -/
def float? (v : Json) : Option (Except Fault Float) :=
  match v with
  | .float x => some (.ok x)
  | v => v.int?.map floatOfInt

/-- Combines two numbers, exactly if both are whole. -/
def combine (operator : Text) (exact : Int → Int → Int) (rounded : Float → Float → Float)
    (a b : Json) : Except Fault Json :=
  match a.int?, b.int? with
  | some m, some n => .ok (.int (exact m n))
  | _, _ => match a.float?, b.float? with
    | some x, some y => do return .float (rounded (← x) (← y))
    | _, _ => .error (.unsupported operator a.typeName b.typeName)

/-- The sum of two numbers. Texts and arrays are joined to their like. -/
def add (a b : Json) : Except Fault Json :=
  match a, b with
  | .str s, .str t => .ok (.str (s ++ t))
  | .str _, b => .error (.needsText b.typeName)
  | .arr s, .arr t => .ok (.arr (s ++ t))
  | .arr _, b => .error (.needsList b.typeName)
  | a, b => combine "+" (· + ·) (· + ·) a b

def subtract (a b : Json) : Except Fault Json := combine "-" (· - ·) (· - ·) a b

def scale (v : Json) (factor : Float) : Except Fault Float :=
  match v.float? with
  | some x => do return (← x) * factor
  | none => match v with
    | .str _ | .arr _ => .error (.repetition "float")
    | v => .error (.unsupported "*" v.typeName "float")

/-- Twice a value. Texts and arrays then follow themselves. -/
def twice (v : Json) : Except Fault Json :=
  match v with
  | .str s => .ok (.str (s ++ s))
  | .arr items => .ok (.arr (items ++ items))
  | v => combine "*" (· * ·) (· * ·) v (.int 2)

def exceedsDyadic (a b : Int × Int) : Bool :=
  let least := min a.2 b.2
  a.1 * Int.pow 2 (a.2 - least).toNat > b.1 * Int.pow 2 (b.2 - least).toNat

/-- Whether a number exceeds another. Whole numbers and doubles are compared exactly. -/
def exceeds (a b : Json) : Except Fault Bool :=
  match a.dyadic?, b.dyadic? with
  | some p, some q => .ok (exceedsDyadic p q)
  | _, _ =>
    let limit : Json → Option Float := fun
      | .float x => some x
      | v => v.int?.map fun _ => 0.0
    match limit a, limit b with
    | some x, some y => .ok (x > y)
    | _, _ => .error (.unordered ">" a.typeName b.typeName)

end RepoAudit.Json
