import RepoAudit.Text.Name.Alphabets
import RepoAudit.Text.Name.Ancient
import RepoAudit.Text.Name.Further
import RepoAudit.Text.Name.Pictures
import RepoAudit.Text.Name.Signs
import RepoAudit.Text.Name.Syllabaries
import RepoAudit.Text.Search
import RepoAudit.Text.Table

/-!
Characters by name. Most names are listed, and the case of letters does not matter in them. The
names of Hangul syllables and of unified ideographs follow rules of their own and are written in
capitals.

The lists are lines of entries divided by commas. An entry may start with the number of its
character, in hexadecimal and followed by an equals sign; otherwise its character is the next one.
Then there is a digit and the end of the name: the digit tells how many pieces of the name before
stand in front of it, where a piece ends with a blank or a hyphen.
-/
namespace RepoAudit.Text.Name

/-- The pieces of a name. Each but the last ends with a blank or a hyphen. -/
def pieces : List Char → List (List Char)
  | [] => []
  | c :: rest =>
    if c == ' ' || c == '-' then [c] :: pieces rest
    else match pieces rest with
      | [] => [[c]]
      | piece :: more => (c :: piece) :: more

/-- A place in a list of names: the character that comes next and the last name in pieces. -/
structure Cursor where
  next : Nat := 0
  last : List (List Char) := []

def Cursor.entry (cursor : Cursor) (entry : List Char) : Nat × List Char :=
  let (number, rest) := match splitFirst? '=' entry with
    | some (digits, rest) => (digits.foldl (fun n c => n * 16 + Table.hexDigit c) 0, rest)
    | none => (cursor.next, entry)
  match rest with
  | kept :: ending => (number, (cursor.last.take (Table.hexDigit kept)).flatten ++ ending)
  | [] => (number, [])

/-- Looks a name up among entries. Without success there is the place behind them. -/
def searchEntries (name : List Char) : Cursor → List (List Char) → Except Cursor Nat
  | cursor, [] => .error cursor
  | cursor, entry :: rest =>
    let (number, found) := cursor.entry entry
    if found == name then .ok number else searchEntries name ⟨number + 1, pieces found⟩ rest

def searchLines (name : List Char) : Cursor → List String → Option Nat
  | _, [] => none
  | cursor, line :: rest => match searchEntries name cursor (splitAll ',' line.toList) with
    | .ok number => some number
    | .error cursor => searchLines name cursor rest

def listed? (name : List Char) : Option Nat :=
  [alphabetNames, signNames, syllabaryNames, ancientNames, pictureNames, furtherNames].findSome?
    (searchLines (name.map Char.toUpper) {})

/-- The initial, medial and final sounds of Hangul syllables. -/
def initials : List String := [
  "G", "GG", "N", "D", "DD", "R", "M", "B", "BB", "S", "SS", "", "J", "JJ", "C", "K", "T", "P",
  "H"]

@[inherit_doc initials]
def medials : List String := [
  "A", "AE", "YA", "YAE", "EO", "E", "YEO", "YE", "O", "WA", "WAE", "OE", "YO", "U", "WEO", "WE",
  "WI", "YU", "EU", "YI", "I"]

@[inherit_doc initials]
def finals : List String := [
  "", "G", "GG", "GS", "N", "NJ", "NH", "D", "L", "LG", "LM", "LB", "LS", "LT", "LP", "LH", "M",
  "B", "BS", "S", "SS", "NG", "J", "C", "K", "T", "P", "H"]

/-- The longest sound at the front of a name, by its place, and what follows it. -/
def sound? (sounds : List String) (name : List Char) : Option (Nat × List Char) :=
  let fitting := sounds.zipIdx.filter fun (sound, _) => sound.toList.isPrefixOf name
  let longest := fitting.foldl (fun best found => match best with
    | some (sound, i) => if sound.length < found.1.length then some found else some (sound, i)
    | none => some found) (none : Option (String × Nat))
  longest.map fun (sound, i) => (i, name.drop sound.length)

def syllable? (name : List Char) : Option Nat := do
  let (initial, name) ← sound? initials name
  let (medial, name) ← sound? medials name
  let (final, name) ← sound? finals name
  if name.isEmpty then
    some (0xAC00 + (initial * medials.length + medial) * finals.length + final)
  else none

def ideographs : Table.Ranges := [
  (0x3400, 0x4DBF), (0x4E00, 0x9FFF), (0x20000, 0x2A6DF), (0x2A700, 0x2B738),
  (0x2B740, 0x2B81D), (0x2B820, 0x2CEA1), (0x2CEB0, 0x2EBE0), (0x30000, 0x3134A)]

def capitalDigit? (c : Char) : Option Nat :=
  if c.isDigit then some (c.toNat - '0'.toNat)
  else if 'A' ≤ c && c ≤ 'F' then some (c.toNat - 'A'.toNat + 10)
  else none

/-- The unified ideograph of a number, which has four or five digits. -/
def ideograph? (digits : List Char) : Option Nat := do
  let n := (← digits.mapM capitalDigit?).foldl (fun n digit => n * 16 + digit) 0
  if (digits.length == 4 || digits.length == 5) && ideographs.contains n then some n else none

def character? (name : List Char) : Option Nat :=
  match dropLead? "HANGUL SYLLABLE ".toList name with
  | some sounds => syllable? sounds
  | none => match dropLead? "CJK UNIFIED IDEOGRAPH-".toList name with
    | some digits => ideograph? digits
    | none => listed? name

end RepoAudit.Text.Name
