import RepoAudit.Syntax.Token
import RepoAudit.Decimal.Reading
import RepoAudit.Json.Reader

/-!
Number literals: decimal, hexadecimal, octal and binary whole numbers, doubles and imaginary
numbers. Digits may be grouped by single underscores.
-/
namespace RepoAudit.Syntax.Numeral

/-- Digits of a class, single underscores between them left out. An underscore without a digit
after it is refused. -/
def digits (p : Char → Bool) : List Char → Option (List Char × List Char)
  | '_' :: c :: rest =>
    if p c then (digits p rest).map fun (ds, rest) => (c :: ds, rest) else none
  | ['_'] => none
  | c :: rest =>
    if p c then (digits p rest).map fun (ds, rest) => (c :: ds, rest)
    else some ([], c :: rest)
  | [] => some ([], [])

/-- Whether a character may continue a word before words are checked. -/
def isWordPart (c : Char) : Bool := c.isAlphanum || c == '_' || c.toNat ≥ 0x80

/-- Whether a number may end before the given characters: no word starts there, except one of
the keywords that can follow a number. -/
def mayEnd (rest : List Char) : Bool :=
  (["and", "else", "for", "if", "in", "is", "or", "not"].any fun word =>
    word.toList.isPrefixOf rest) ||
  match rest with
  | c :: _ => !isWordPart c
  | [] => true

/-- Gives a literal if the number may end here. -/
def ending (value : Literal) (rest : List Char) : Option (Literal × List Char) :=
  if mayEnd rest then some (value, rest) else none

def natOf (base : Nat) (ds : List Char) : Nat :=
  ds.foldl (fun n c => n * base + (Json.hexValue? c).getD 0) 0

/-- A whole number in another base, after its mark. -/
def based (base : Nat) (p : Char → Bool) (s : List Char) : Option (Literal × List Char) := do
  let (ds, rest) ← digits p s
  if ds.isEmpty then none
  else if (rest.headD ' ').isDigit then none
  else ending (.int (natOf base ds)) rest

/-- The exponent of a double: `none` if there is none, and a refusal if it is broken off. -/
def exponentAt (s : List Char) : Option (Option (Int × List Char)) :=
  match s with
  | e :: rest =>
    if e != 'e' && e != 'E' then some none
    else match rest with
      | c :: after =>
        if c == '+' || c == '-' then
          if (after.headD ' ').isDigit then do
            let (ds, rest) ← digits Char.isDigit after
            let n : Int := Decimal.natOfDigits ds
            return some (if c == '-' then -n else n, rest)
          else none
        else if c.isDigit then do
          let (ds, rest) ← digits Char.isDigit rest
          let n : Int := Decimal.natOfDigits ds
          return some (n, rest)
        else if mayEnd s then some none else none
      | [] => none
  | [] => some none

/-- The rest of a number after its whole part and its fraction, if it has one. A whole number that
starts with a zero has no other digits; one that does not has a limited number of them. -/
def finish (whole : List Char) (fraction : Option (List Char)) (s : List Char) :
    Option (Literal × List Char) := do
  let exponent ← exponentAt s
  let isDouble := fraction.isSome || exponent.isSome
  let (e, rest) := exponent.getD (0, s)
  let x := Decimal.ofParts whole (fraction.getD []) e
  match rest with
  | 'j' :: after => ending (.imaginary x) after
  | 'J' :: after => ending (.imaginary x) after
  | rest =>
    if isDouble then ending (.float x) rest
    else if whole.headD ' ' == '0' && whole.any (· != '0') then none
    else if whole.headD ' ' != '0' && whole.length > Json.digitLimit then none
    else ending (.int (Decimal.natOfDigits whole)) rest

/-- The digits after a point, which may be missing. -/
def fractionAt (s : List Char) : Option (List Char × List Char) :=
  if (s.headD ' ').isDigit then digits Char.isDigit s else some ([], s)

/-- Reads a number that starts with a digit, or with a point and a digit. -/
def read : List Char → Option (Literal × List Char)
  | '0' :: 'x' :: rest => based 16 (fun c => (Json.hexValue? c).isSome) rest
  | '0' :: 'X' :: rest => based 16 (fun c => (Json.hexValue? c).isSome) rest
  | '0' :: 'o' :: rest => based 8 (fun c => '0' ≤ c && c ≤ '7') rest
  | '0' :: 'O' :: rest => based 8 (fun c => '0' ≤ c && c ≤ '7') rest
  | '0' :: 'b' :: rest => based 2 (fun c => c == '0' || c == '1') rest
  | '0' :: 'B' :: rest => based 2 (fun c => c == '0' || c == '1') rest
  | '.' :: rest => do
    let (fraction, rest) ← fractionAt rest
    finish [] (some fraction) rest
  | s => do
    let (whole, rest) ← digits Char.isDigit s
    match rest with
    | '.' :: rest => do
      let (fraction, rest) ← fractionAt rest
      finish whole (some fraction) rest
    | rest => finish whole none rest

end RepoAudit.Syntax.Numeral
