import RepoAudit.Text.Basic

/-!
Tables of character properties. They are written as lines of hexadecimal numbers divided by
blanks, and read once into numbers; a property is then a look-up in sorted ranges.
-/
namespace RepoAudit.Text.Table

def hexDigit (c : Char) : Nat :=
  if c.isDigit then c.toNat - '0'.toNat else c.toNat - 'a'.toNat + 10

/-- One step of reading numbers: a blank ends the number being read. -/
def step : List Nat × Option Nat → Char → List Nat × Option Nat
  | (done, some n), ' ' => (n :: done, none)
  | (done, none), ' ' => (done, none)
  | (done, some n), c => (done, some (n * 16 + hexDigit c))
  | (done, none), c => (done, some (hexDigit c))

def numbers (lines : List String) : List Nat :=
  lines.flatMap fun line =>
    let (done, last) := line.toList.foldl step ([], none)
    (last.toList ++ done).reverse

def pairs : List Nat → List (Nat × Nat)
  | a :: b :: rest => (a, b) :: pairs rest
  | _ => []

/-- Sorted ranges of code points, first and last number of each. -/
abbrev Ranges := List (Nat × Nat)

def Ranges.contains : Ranges → Nat → Bool
  | [], _ => false
  | (lo, hi) :: rest, n => if n < lo then false else n ≤ hi || Ranges.contains rest n

/-- Every `step`-th number from `first` to `last` goes to the same distance from `target`. -/
structure Shift where
  first : Nat
  last : Nat
  step : Nat
  target : Nat

/-- The numbers in fours, each a shift. -/
def shifts : List Nat → List Shift
  | a :: b :: c :: d :: rest => ⟨a, b, c, d⟩ :: shifts rest
  | _ => []

/-- Where a number goes, if a shift applies to it. -/
def shift? : List Shift → Nat → Option Nat
  | [], _ => none
  | s :: rest, n =>
    if n < s.first then none
    else if n ≤ s.last && (n - s.first) % s.step == 0 then some (s.target + (n - s.first))
    else shift? rest n

end RepoAudit.Text.Table
