/-!
The fewest decimal digits that read back as a given double. A finite positive double is a whole
number times a power of two, and every real between the midpoints to its neighbours reads back as
it. For one, two, … digits the two neighbours of the value on that decimal grid are tried.
-/
namespace RepoAudit.Decimal

/-- A positive double `mantissa * 2 ^ exponent`. -/
structure Binary where
  mantissa : Nat
  exponent : Int
deriving DecidableEq, Repr

/-- Digits `d₁d₂…` and an exponent: the number is `d₁.d₂… * 10 ^ exponent`. -/
structure Digits where
  digits : List Char
  exponent : Int
deriving DecidableEq, Repr

/-- The kinds of doubles. -/
inductive Class where
  | nan
  | infinite (negative : Bool)
  | zero (negative : Bool)
  | finite (negative : Bool) (value : Binary)
deriving DecidableEq

def classify (x : Float) : Class :=
  let bits := x.toBits.toNat
  let negative := bits / Nat.pow 2 63 == 1
  let biased : Nat := bits / Nat.pow 2 52 % Nat.pow 2 11
  let fraction : Nat := bits % Nat.pow 2 52
  if biased == 2047 then if fraction == 0 then .infinite negative else .nan
  else if biased == 0 then
    if fraction == 0 then .zero negative else .finite negative ⟨fraction, -1074⟩
  else .finite negative ⟨Nat.pow 2 52 + fraction, (biased : Int) - 1075⟩

/-- The reals that read back as a double, over a common denominator. -/
structure Interval where
  low : Nat
  value : Nat
  high : Nat
  denominator : Nat
  closed : Bool

/-- The interval of a double. Below a power of two the neighbour is half as far away, and the
ends belong to the interval if the mantissa is even. -/
def Binary.interval (b : Binary) : Interval :=
  let below := if b.mantissa == Nat.pow 2 52 && b.exponent > -1074 then 1 else 2
  let up := Nat.pow 2 (b.exponent - 2).toNat
  ⟨(4 * b.mantissa - below) * up, 4 * b.mantissa * up, (4 * b.mantissa + 2) * up,
    Nat.pow 2 (2 - b.exponent).toNat, b.mantissa % 2 == 0⟩

/-- The decimal exponent of a positive quotient: the place of its first digit. -/
def leadingPlace (value denominator : Nat) : Int :=
  if denominator ≤ value then (Nat.toDigits 10 (value / denominator)).length - 1
  else match (List.range 400).find? fun k => denominator ≤ value * Nat.pow 10 (k + 1) with
    | some k => -(k + 1 : Int)
    | none => -400

/-- The candidate with `count` digits: of the two neighbours on the grid the one that reads back,
of two that do the nearer, of two equally near the even one. -/
def Interval.candidate? (i : Interval) (place : Int) (count : Nat) : Option Nat :=
  let shift := place + 1 - count
  let up := Nat.pow 10 (-shift).toNat
  let unit := i.denominator * Nat.pow 10 shift.toNat
  let inside := fun d =>
    if i.closed then i.low * up ≤ d * unit && d * unit ≤ i.high * up
    else i.low * up < d * unit && d * unit < i.high * up
  let d := i.value * up / unit
  let twiceRest := 2 * (i.value * up % unit)
  match inside d, inside (d + 1) with
  | true, false => some d
  | false, true => some (d + 1)
  | true, true =>
    if twiceRest < unit then some d
    else if unit < twiceRest then some (d + 1)
    else some (if d % 2 == 0 then d else d + 1)
  | false, false => none

/-- The first digit count with a candidate decides. Seventeen digits always suffice. -/
def Binary.shortest (b : Binary) : Digits :=
  let i := b.interval
  let place := leadingPlace i.value i.denominator
  match (List.range 17).findSome? fun k =>
      (i.candidate? place (k + 1)).map fun d => (d, k + 1) with
  | none => ⟨['0'], 0⟩
  | some (d, count) =>
    let all := Nat.toDigits 10 d
    let kept := (all.reverse.dropWhile (· == '0')).reverse
    ⟨kept, place + (all.length - count : Int)⟩

end RepoAudit.Decimal
