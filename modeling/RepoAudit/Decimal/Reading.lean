/-!
Reading decimal numerals as doubles, rounded to the nearest.
-/
namespace RepoAudit.Decimal

def natOfDigits (digits : List Char) : Nat :=
  digits.foldl (fun n c => n * 10 + (c.toNat - '0'.toNat)) 0

/-- The double nearest to `n * 10 ^ exponent`. Numbers past the largest double are infinite and
those far below the smallest are zero, whatever the exponent. -/
def toFloat (n : Nat) (exponent : Int) : Float :=
  if n == 0 then 0.0
  else
    let place := exponent + (Nat.toDigits 10 n).length
    if place > 400 then Float.ofBits 0x7FF0000000000000
    else if place < -400 then 0.0
    else if exponent < 0 then Float.ofScientific n true exponent.natAbs
    else Float.ofScientific n false exponent.toNat

/-- The double nearest to a numeral given by its digits before and after the point and its
exponent. -/
def ofParts (whole fraction : List Char) (exponent : Int) : Float :=
  toFloat (natOfDigits (whole ++ fraction)) (exponent - fraction.length)

end RepoAudit.Decimal
