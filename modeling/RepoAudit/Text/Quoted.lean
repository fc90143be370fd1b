import RepoAudit.Text.Printable

/-!
Quoted texts. A text is shown between single quotes, or between double quotes if it holds a
single quote and no double one. The quote in use, the backslash, line feed, carriage return and
tab are escaped by a letter, other characters that are not printable by their number.
-/
namespace RepoAudit

/-- A number in lower-case hexadecimal, filled with zeros to a width. -/
def hexPadded (width n : Nat) : List Char :=
  let digits := Nat.toDigits 16 n
  List.replicate (width - digits.length) '0' ++ digits

/-- The quote that surrounds a text: the double one only if it saves escapes. -/
def quoteFor {α : Type} [BEq α] (single double : α) (symbols : List α) : Char :=
  if symbols.contains single && !symbols.contains double then '"' else '\''

/-- A code point by number, in the shortest of the three widths. -/
def escapeByNumber (n : Nat) : List Char :=
  if n < 0x100 then '\\' :: 'x' :: hexPadded 2 n
  else if n < 0x10000 then '\\' :: 'u' :: hexPadded 4 n
  else '\\' :: 'U' :: hexPadded 8 n

def CodePoint.quoted (quote : Char) : CodePoint → List Char
  | .surrogate offset => escapeByNumber (0xD800 + offset.val)
  | .char c =>
    if c == quote || c == '\\' then ['\\', c]
    else if c == '\n' then ['\\', 'n']
    else if c == '\r' then ['\\', 'r']
    else if c == '\t' then ['\\', 't']
    else if isPrintable c then [c]
    else escapeByNumber c.toNat

def Text.quoted (t : Text) : Text :=
  let quote := quoteFor (.char '\'') (.char '"') t
  ofChars (quote :: t.flatMap (CodePoint.quoted quote) ++ [quote])

def quotedByte (quote : Char) (b : UInt8) : List Char :=
  let c := Char.ofNat b.toNat
  if c == quote || c == '\\' then ['\\', c]
  else if c == '\n' then ['\\', 'n']
  else if c == '\r' then ['\\', 'r']
  else if c == '\t' then ['\\', 't']
  else if 0x20 ≤ b && b < 0x7F then [c]
  else '\\' :: 'x' :: hexPadded 2 b.toNat

/-- Bytes in quotes, marked by a `b`. -/
def quotedBytes (bytes : List UInt8) : Text :=
  let quote := quoteFor 0x27 0x22 bytes
  Text.ofChars ('b' :: quote :: bytes.flatMap (quotedByte quote) ++ [quote])

end RepoAudit
