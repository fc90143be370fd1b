import RepoAudit.Decimal.Reading
import RepoAudit.Fault
import RepoAudit.Text.Blank
import RepoAudit.Text.Digit

/-!
Whole numbers in texts. White space may stand around a number, one sign before it, and single low
lines between its digits, which may be of any script.
-/
namespace RepoAudit.Decimal

/-- The character by which a code point is read: digits of all scripts are read alike, and so is
white space outside of ASCII. -/
def numeralChar (p : CodePoint) : Char :=
  match p.char? with
  | none => '?'
  | some c =>
    if c.toNat < 0x80 then c
    else if isBlank c then ' '
    else match digitValue? c with
      | some d => Char.ofNat ('0'.toNat + d)
      | none => '?'

/-- Whether a character may stand around a number. -/
def isPadding (c : Char) : Bool := c == ' ' || (0x09 ≤ c.toNat && c.toNat ≤ 0x0D)

/-- Whether a number is negative, and what follows its sign. -/
def readSign : List Char → Bool × List Char
  | '-' :: rest => (true, rest)
  | '+' :: rest => (false, rest)
  | rest => (false, rest)

def maxDigits : Nat := 4300

/-- The whole number that a text writes. The number of digits is limited, whatever follows
them. -/
def readWhole (t : Text) : Except Fault Int :=
  let (negative, rest) := readSign ((t.map numeralChar).dropWhile isPadding)
  let run := rest.takeWhile fun c => c.isDigit || c == '_'
  let groups := splitAll '_' run
  let digits := groups.flatten
  if groups.isEmpty || groups.any (·.isEmpty) then .error (.integerLiteral t)
  else if digits.length > maxDigits then .error (.integerDigits digits.length)
  else if !(rest.drop run.length).all isPadding then .error (.integerLiteral t)
  else
    let n : Int := natOfDigits digits
    .ok (if negative then -n else n)

end RepoAudit.Decimal
