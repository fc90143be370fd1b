import RepoAudit.Json.Reader
import RepoAudit.Text.Name
import RepoAudit.Text.Utf8

/-!
Escapes in string literals. An escape that stands for nothing is kept with its backslash; one
that is broken off is refused.
-/
namespace RepoAudit.Syntax.Unescape

def letter? : Char → Option Char
  | '\\' => some '\\'
  | '\'' => some '\''
  | '"' => some '"'
  | 'a' => some '\x07'
  | 'b' => some '\x08'
  | 'f' => some '\x0c'
  | 'n' => some '\n'
  | 'r' => some '\r'
  | 't' => some '\t'
  | 'v' => some '\x0b'
  | _ => none

def isOctal (c : Char) : Bool := '0' ≤ c && c ≤ '7'

def natOf (base : Nat) (ds : List Char) : Nat :=
  ds.foldl (fun n c => n * base + (Json.hexValue? c).getD 0) 0

/-- Exactly `count` hexadecimal digits and what follows them. -/
def hex? (count : Nat) (s : List Char) : Option (Nat × List Char) :=
  let ds := s.take count
  if ds.length == count && ds.all fun c => (Json.hexValue? c).isSome then
    some (natOf 16 ds, s.drop count)
  else none

/-- What an escape stands for, after its backslash: code points and the characters after it.
`wide` admits the escapes that only texts have. -/
def escape? (wide : Bool) (s : List Char) : Option (List Nat × List Char) :=
  match s with
  | [] => some (['\\'.toNat], [])
  | '\n' :: rest => some ([], rest)
  | c :: rest =>
    if isOctal c then
      let ds := (s.take 3).takeWhile isOctal
      some ([natOf 8 ds], s.drop ds.length)
    else if c == 'x' then (hex? 2 rest).map fun (n, rest) => ([n], rest)
    else if wide && c == 'u' then (hex? 4 rest).map fun (n, rest) => ([n], rest)
    else if wide && c == 'U' then
      match hex? 8 rest with
      | some (n, rest) => if n < 0x110000 then some ([n], rest) else none
      | none => none
    else if wide && c == 'N' then
      match rest with
      | '\x7b' :: named =>
        let (name, after) := named.span (· != '\x7d')
        if after.isEmpty then none
        else (Text.Name.character? name).map fun n => ([n], after.drop 1)
      | _ => none
    else match letter? c with
      | some e => some ([e.toNat], rest)
      | none => some (['\\'.toNat, c.toNat], rest)

/-- The code points of a literal's content. Every escape takes at least one character after its
backslash, so the length bounds the steps. -/
def points (wide : Bool) : (fuel : Nat) → List Char → Option (List Nat)
  | _, [] => some []
  | 0, _ => none
  | fuel + 1, '\\' :: rest => do
    let (ns, rest) ← escape? wide rest
    return ns ++ (← points wide fuel rest)
  | fuel + 1, c :: rest => do return c.toNat :: (← points wide fuel rest)

def text (raw : Bool) (content : List Char) : Option Text :=
  if raw then some (Text.ofChars content)
  else (points true content.length content).map (·.map CodePoint.ofNat)

/-- The bytes of a literal, which may hold ASCII characters only. -/
def bytes (raw : Bool) (content : List Char) : Option (List UInt8) :=
  if content.any fun c => c.toNat ≥ 0x80 then none
  else if raw then some (content.map fun c => c.toNat.toUInt8)
  else (points false content.length content).map (·.map Nat.toUInt8)

end RepoAudit.Syntax.Unescape
