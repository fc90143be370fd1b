import RepoAudit.Json.Basic
import RepoAudit.Decimal.Format
import RepoAudit.Text.Quoted
import RepoAudit.Text.Search

/-!
Writing JSON documents in ASCII. Characters from space to tilde stand for themselves, all others
are escaped by their UTF-16 units.
-/
namespace RepoAudit.Json

def unitEscape (n : Nat) : List Char := '\\' :: 'u' :: hexPadded 4 n

def escapePoint (p : CodePoint) : List Char :=
  let n := p.toNat
  if n == 0x22 then ['\\', '"']
  else if n == 0x5C then ['\\', '\\']
  else if n == 0x0A then ['\\', 'n']
  else if n == 0x0D then ['\\', 'r']
  else if n == 0x09 then ['\\', 't']
  else if n == 0x08 then ['\\', 'b']
  else if n == 0x0C then ['\\', 'f']
  else if 0x20 ≤ n && n ≤ 0x7E then [Char.ofNat n]
  else if n < 0x10000 then unitEscape n
  else unitEscape (0xD800 + (n - 0x10000) / 0x400) ++ unitEscape (0xDC00 + (n - 0x10000) % 0x400)

def writeText (t : Text) : List Char := '"' :: t.flatMap escapePoint ++ ['"']

/-- A value that is no container. -/
def writeScalar : Json → List Char
  | .null => "null".toList
  | .bool true => "true".toList
  | .bool false => "false".toList
  | .int n => (Text.ofInt n).toChars
  | .float x => Decimal.document.write x
  | .str s => writeText s
  | .arr _ => "[]".toList
  | .obj _ => "\x7b\x7d".toList

mutual

def writeLine : Json → List Char
  | .arr items => '[' :: joinWith ", ".toList (writeItems items) ++ [']']
  | .obj members => '\x7b' :: joinWith ", ".toList (writeMembers members) ++ ['\x7d']
  | .null => writeScalar .null
  | .bool b => writeScalar (.bool b)
  | .int n => writeScalar (.int n)
  | .float x => writeScalar (.float x)
  | .str s => writeScalar (.str s)

def writeItems : List Json → List (List Char)
  | [] => []
  | item :: rest => writeLine item :: writeItems rest

def writeMembers : List (Text × Json) → List (List Char)
  | [] => []
  | (name, item) :: rest => (writeText name ++ ": ".toList ++ writeLine item) :: writeMembers rest

end

/-- A line end and the indentation of a depth, two spaces each. -/
def newLine (depth : Nat) : List Char := '\n' :: List.replicate (2 * depth) ' '

/-- Puts parts on lines of their own between brackets. Without parts the brackets close up. -/
def block (left right : Char) (depth : Nat) (parts : List (List Char)) : List Char :=
  if parts.isEmpty then [left, right]
  else left :: newLine (depth + 1) ++ joinWith (',' :: newLine (depth + 1)) parts
    ++ newLine depth ++ [right]

mutual

/-- Writes a value at a depth, each item and member on a line of its own. -/
def writeIndented (depth : Nat) : Json → List Char
  | .arr items => block '[' ']' depth (indentedItems (depth + 1) items)
  | .obj members => block '\x7b' '\x7d' depth (indentedMembers (depth + 1) members)
  | .null => writeScalar .null
  | .bool b => writeScalar (.bool b)
  | .int n => writeScalar (.int n)
  | .float x => writeScalar (.float x)
  | .str s => writeScalar (.str s)

def indentedItems (depth : Nat) : List Json → List (List Char)
  | [] => []
  | item :: rest => writeIndented depth item :: indentedItems depth rest

def indentedMembers (depth : Nat) : List (Text × Json) → List (List Char)
  | [] => []
  | (name, item) :: rest =>
    (writeText name ++ ": ".toList ++ writeIndented depth item) :: indentedMembers depth rest

end

/-- The document of a value on one line. -/
def compact (v : Json) : Text := .ofChars (writeLine v)

/-- The document of a value over several lines. -/
def pretty (v : Json) : Text := .ofChars (writeIndented 0 v)

end RepoAudit.Json
