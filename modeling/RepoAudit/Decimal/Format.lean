import RepoAudit.Decimal.Shortest
import RepoAudit.Text.Basic

/-!
How doubles are written: with the fewest digits that read back, positionally from `0.0001` up to
`10 ^ 16`, otherwise with an exponent of a sign and at least two digits.
-/
namespace RepoAudit.Decimal

/-- The decisions of a format for doubles. -/
structure Format where
  /-- The exponents that are written positionally, first and last. -/
  positional : Int × Int
  /-- What follows a positional number without a fraction. -/
  wholeMark : List Char
  nan : List Char
  infinite : List Char

def shown : Format := ⟨(-4, 15), ['.', '0'], "nan".toList, "inf".toList⟩

def document : Format := ⟨(-4, 15), ['.', '0'], "NaN".toList, "Infinity".toList⟩

/-- The format of imaginary parts, which keep no mark on whole numbers. -/
def imaginary : Format := ⟨(-4, 15), [], "nan".toList, "inf".toList⟩

/-- An exponent: a sign and at least two digits. -/
def exponentPart (e : Int) : List Char :=
  let digits := Nat.toDigits 10 e.natAbs
  'e' :: (if e < 0 then '-' else '+') :: (List.replicate (2 - digits.length) '0' ++ digits)

def Format.layout (n : Format) (d : Digits) : List Char :=
  if n.positional.1 ≤ d.exponent && d.exponent ≤ n.positional.2 then
    if d.exponent < 0 then
      "0.".toList ++ List.replicate (d.exponent.natAbs - 1) '0' ++ d.digits
    else
      let whole := d.exponent.toNat + 1
      if d.digits.length ≤ whole then
        d.digits ++ List.replicate (whole - d.digits.length) '0' ++ n.wholeMark
      else d.digits.take whole ++ '.' :: d.digits.drop whole
  else
    let fraction := d.digits.drop 1
    d.digits.take 1 ++ (if fraction.isEmpty then [] else '.' :: fraction)
      ++ exponentPart d.exponent

def signed (negative : Bool) (cs : List Char) : List Char := if negative then '-' :: cs else cs

def Format.write (n : Format) (x : Float) : List Char :=
  match classify x with
  | .nan => n.nan
  | .infinite negative => signed negative n.infinite
  | .zero negative => signed negative ('0' :: n.wholeMark)
  | .finite negative value => signed negative (n.layout value.shortest)

end RepoAudit.Decimal
