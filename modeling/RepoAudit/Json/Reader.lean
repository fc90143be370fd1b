import RepoAudit.Json.Basic
import RepoAudit.Decimal.Reading

/-!
Reading JSON documents. The reader accepts `NaN`, `Infinity` and `-Infinity`, keeps the order of
members, lets a repeated name keep its first place and take its last value, and reports the first
fault with its place.
-/
namespace RepoAudit.Json

/-- What is wrong with a document. -/
inductive Flaw where
  | expectingValue
  | expectingName
  | expectingColon
  | expectingComma
  | unterminatedString
  | controlCharacter
  | badEscape
  | badUnicodeEscape
  | extraData
  | byteOrderMark
deriving DecidableEq, Repr

def Flaw.wording : Flaw → String
  | .expectingValue => "Expecting value"
  | .expectingName => "Expecting property name enclosed in double quotes"
  | .expectingColon => "Expecting ':' delimiter"
  | .expectingComma => "Expecting ',' delimiter"
  | .unterminatedString => "Unterminated string starting at"
  | .controlCharacter => "Invalid control character at"
  | .badEscape => "Invalid \\escape"
  | .badUnicodeEscape => "Invalid \\uXXXX escape"
  | .extraData => "Extra data"
  | .byteOrderMark => "Unexpected UTF-8 BOM (decode using utf-8-sig)"

/-- Why a document cannot be read: a flaw at an offset, or a whole number of too many digits. -/
inductive ReadError where
  | flaw (f : Flaw) (line column offset : Nat)
  | tooManyDigits (count : Nat)
deriving DecidableEq, Repr

/-- A fault during reading, placed by the number of code points that were left. -/
inductive Stop where
  | flaw (f : Flaw) (left : Nat)
  | tooManyDigits (count : Nat)

def digitLimit : Nat := 4300

/-- Whole numbers are shown if they are below this bound. -/
def shownBound : Nat := Nat.pow 10 digitLimit

def isSpace (c : Char) : Bool := c == ' ' || c == '\t' || c == '\n' || c == '\r'

def skipSpace (s : Text) : Text := s.dropWhile (CodePoint.satisfies isSpace)

def hexValue? (c : Char) : Option Nat :=
  if c.isDigit then some (c.toNat - '0'.toNat)
  else if 'a' ≤ c && c ≤ 'f' then some (c.toNat - 'a'.toNat + 10)
  else if 'A' ≤ c && c ≤ 'F' then some (c.toNat - 'A'.toNat + 10)
  else none

def fourHex? (a b c d : CodePoint) : Option Nat := do
  let digits ← [a, b, c, d].mapM fun p => p.char?.bind hexValue?
  return digits.foldl (fun n digit => n * 16 + digit) 0

def shortEscape? : Char → Option Char
  | '"' => some '"'
  | '\\' => some '\\'
  | '/' => some '/'
  | 'b' => some '\x08'
  | 'f' => some '\x0c'
  | 'n' => some '\n'
  | 'r' => some '\r'
  | 't' => some '\t'
  | _ => none

/-- Whether a number is the first or the second surrogate of a pair. -/
def isHigh (n : Nat) : Bool := 0xD800 ≤ n && n < 0xDC00

def isLow (n : Nat) : Bool := 0xDC00 ≤ n && n < 0xE000

def joinPair (high low : Nat) : Nat := 0x10000 + (high - 0xD800) * 0x400 + (low - 0xDC00)

/-- Reads a string after its opening quote, at which `opened` code points of the document were
left. An escaped high surrogate is joined to an escaped low one that follows it directly, and stays
alone otherwise; the second escape of a pair must be well formed and have something after it. What
is not escaped stands for itself, lone surrogates too. -/
def string (opened : Nat) : Text → Except Stop (Text × Text)
  | [] => .error (.flaw .unterminatedString opened)
  | .char '"' :: rest => .ok ([], rest)
  | .char '\\' :: [] => .error (.flaw .unterminatedString opened)
  | .char '\\' :: .char 'u' :: a :: b :: c :: d :: rest =>
    if rest.isEmpty then .error (.flaw .badUnicodeEscape (rest.length + 5))
    else match fourHex? a b c d with
      | none => .error (.flaw .badUnicodeEscape (rest.length + 5))
      | some n => match rest with
        | .char '\\' :: .char 'u' :: e :: f :: g :: h :: after =>
          if isHigh n && !after.isEmpty then match fourHex? e f g h with
            | none => .error (.flaw .badUnicodeEscape (after.length + 5))
            | some m =>
              if isLow m then do
                let (s, rest) ← string opened after
                return (CodePoint.ofNat (joinPair n m) :: s, rest)
              else do
                let (s, rest) ← string opened (.char '\\' :: .char 'u' :: e :: f :: g :: h :: after)
                return (CodePoint.ofNat n :: s, rest)
          else do
            let (s, rest) ← string opened (.char '\\' :: .char 'u' :: e :: f :: g :: h :: after)
            return (CodePoint.ofNat n :: s, rest)
        | rest => do
          let (s, rest) ← string opened rest
          return (CodePoint.ofNat n :: s, rest)
  | .char '\\' :: .char 'u' :: rest => .error (.flaw .badUnicodeEscape (rest.length + 1))
  | .char '\\' :: c :: rest => match c.char?.bind shortEscape? with
    | none => .error (.flaw .badEscape (rest.length + 2))
    | some e => do
      let (s, rest) ← string opened rest
      return (.char e :: s, rest)
  | c :: rest =>
    if c.toNat < 0x20 then .error (.flaw .controlCharacter (rest.length + 1))
    else do
      let (s, rest) ← string opened rest
      return (c :: s, rest)
termination_by s => s.length

def spanDigits (s : Text) : List Char × Text :=
  let (digits, rest) := s.span (CodePoint.satisfies Char.isDigit)
  (digits.filterMap CodePoint.char?, rest)

/-- The digits before the fraction of a number: a zero alone, or any that start with another
digit. -/
def whole? : Text → Option (List Char × Text)
  | .char '0' :: rest => some (['0'], rest)
  | s => match spanDigits s with
    | ([], _) => none
    | found => some found

/-- The fraction of a number: a point and at least one digit. -/
def fraction? : Text → Option (List Char × Text)
  | .char '.' :: rest => match spanDigits rest with
    | ([], _) => none
    | found => some found
  | _ => none

/-- Whether a number is negative, and what follows its sign. A plus sign may stand only before an
exponent. -/
def signed (plus : Bool) : Text → Bool × Text
  | .char '-' :: rest => (true, rest)
  | .char '+' :: rest => (false, if plus then rest else .char '+' :: rest)
  | rest => (false, rest)

/-- The exponent of a number: a letter, perhaps a sign, and at least one digit. -/
def exponent? : Text → Option (Int × Text)
  | .char c :: rest =>
    if c == 'e' || c == 'E' then
      let (negative, rest) := signed true rest
      match spanDigits rest with
      | ([], _) => none
      | (digits, rest) =>
        let e : Int := Decimal.natOfDigits digits
        some (if negative then -e else e, rest)
    else none
  | _ => none

/-- Reads a number. A fraction or an exponent makes it a double. -/
def number (s : Text) : Except Stop (Json × Text) :=
  let (negative, unsigned) := signed false s
  match whole? unsigned with
  | none => .error (.flaw .expectingValue s.length)
  | some (whole, rest) =>
    let (fraction, rest, hasFraction) := match fraction? rest with
      | some (digits, rest) => (digits, rest, true)
      | none => ([], rest, false)
    let (exponent, rest, hasExponent) := match exponent? rest with
      | some (e, rest) => (e, rest, true)
      | none => (0, rest, false)
    if hasFraction || hasExponent then
      let x := Decimal.ofParts whole fraction exponent
      .ok (.float (if negative then -x else x), rest)
    else if whole.length > digitLimit then .error (.tooManyDigits whole.length)
    else
      let n : Int := Decimal.natOfDigits whole
      .ok (.int (if negative then -n else n), rest)

def words : List (Text × Json) := [
  ("null", .null),
  ("true", .bool true),
  ("false", .bool false),
  ("NaN", .float (Float.ofBits 0x7FF8000000000000)),
  ("Infinity", .float (Float.ofBits 0x7FF0000000000000)),
  ("-Infinity", .float (Float.ofBits 0xFFF0000000000000))]

def scalar (s : Text) : Except Stop (Json × Text) :=
  match words.find? fun (word, _) => word.isPrefixOf s with
  | some (word, value) => .ok (value, s.drop word.length)
  | none => number s

mutual

/-- Reads a value. The depth of nesting is bounded by `fuel`. -/
def value : (fuel : Nat) → Text → Except Stop (Json × Text)
  | 0, s => .error (.flaw .expectingValue s.length)
  | fuel + 1, s => match s with
    | .char '"' :: rest => do
      let (t, rest) ← string s.length rest
      return (.str t, rest)
    | .char '[' :: rest => match skipSpace rest with
      | .char ']' :: rest => .ok (.arr [], rest)
      | rest => do
        let (items, rest) ← itemsFrom fuel rest
        return (.arr items, rest)
    | .char '\x7b' :: rest => match skipSpace rest with
      | .char '\x7d' :: rest => .ok (.obj [], rest)
      | rest => do
        let (members, rest) ← membersFrom fuel rest
        return (.obj (setEntries members []), rest)
    | s => scalar s

/-- Reads the items of an array up to its end. -/
def itemsFrom : (fuel : Nat) → Text → Except Stop (List Json × Text)
  | 0, s => .error (.flaw .expectingValue s.length)
  | fuel + 1, s => do
    let (item, rest) ← value fuel s
    match skipSpace rest with
    | .char ']' :: rest => return ([item], rest)
    | .char ',' :: rest => do
      let (items, rest) ← itemsFrom fuel (skipSpace rest)
      return (item :: items, rest)
    | rest => .error (.flaw .expectingComma rest.length)

/-- Reads the members of an object up to its end. -/
def membersFrom : (fuel : Nat) → Text → Except Stop (List (Text × Json) × Text)
  | 0, s => .error (.flaw .expectingName s.length)
  | fuel + 1, s => match s with
    | .char '"' :: rest => do
      let (name, rest) ← string s.length rest
      match skipSpace rest with
      | .char ':' :: rest => do
        let (item, rest) ← value fuel (skipSpace rest)
        match skipSpace rest with
        | .char '\x7d' :: rest => return ([(name, item)], rest)
        | .char ',' :: rest => do
          let (members, rest) ← membersFrom fuel (skipSpace rest)
          return ((name, item) :: members, rest)
        | rest => .error (.flaw .expectingComma rest.length)
      | rest => .error (.flaw .expectingColon rest.length)
    | s => .error (.flaw .expectingName s.length)

end

/-- The line and the column of an offset, both counted from one. -/
def place (document : Text) (offset : Nat) : Nat × Nat :=
  let before := document.take offset
  (before.count (.char '\n') + 1, (before.reverse.takeWhile (· != .char '\n')).length + 1)

/-- A fault at the place where it was noticed. -/
def Stop.locate (document : Text) : Stop → ReadError
  | .tooManyDigits count => .tooManyDigits count
  | .flaw f left =>
    let offset := document.length - left
    let (line, column) := place document offset
    .flaw f line column offset

/-- Reads a document: one value between white space. Each level of nesting takes at least one code
point and two units of fuel. -/
def read (document : Text) : Except ReadError Json :=
  if document.head? == some (.char '\uFEFF') then .error (.flaw .byteOrderMark 1 1 0)
  else match value (2 * document.length + 2) (skipSpace document) with
    | .error stop => .error (stop.locate document)
    | .ok (v, rest) => match skipSpace rest with
      | [] => .ok v
      | rest => .error ((Stop.flaw .extraData rest.length).locate document)

end RepoAudit.Json
