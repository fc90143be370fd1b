/-!
Texts are lists of code points. A code point is a character or a surrogate that stands alone:
escapes in documents and file names that are not UTF-8 both bring such surrogates in, and they
are sorted, shown and escaped like any other code point.
-/
namespace RepoAudit

/-- A character, or the surrogate `U+D800 + offset` without its partner. -/
inductive CodePoint where
  | char (c : Char)
  | surrogate (offset : Fin 0x800)
deriving DecidableEq, Repr, Inhabited

namespace CodePoint

/-- The number of a code point, which orders texts. -/
def toNat : CodePoint → Nat
  | .char c => c.toNat
  | .surrogate offset => 0xD800 + offset.val

/-- The code point with a number below `0x110000`. Larger numbers wrap to the replacement
character, which no caller reaches. -/
def ofNat (n : Nat) : CodePoint :=
  if h : 0xD800 ≤ n ∧ n < 0xE000 then .surrogate ⟨n - 0xD800, by omega⟩
  else if n < 0x110000 then .char (Char.ofNat n)
  else .char '�'

/-- The character, unless the code point is a lone surrogate. -/
def char? : CodePoint → Option Char
  | .char c => some c
  | .surrogate _ => none

/-- Whether a predicate on characters holds. No lone surrogate belongs to a class. -/
def satisfies (p : Char → Bool) : CodePoint → Bool
  | .char c => p c
  | .surrogate _ => false

end CodePoint

abbrev Text := List CodePoint

namespace Text

def ofChars (cs : List Char) : Text := cs.map .char

/-- The text of a string, which has no lone surrogates. -/
def ofString (s : String) : Text := ofChars s.toList

/-- The characters of a text without lone surrogates. -/
def chars? (t : Text) : Option (List Char) := t.mapM CodePoint.char?

/-- The characters of a text, each lone surrogate shown as the replacement character. -/
def toChars (t : Text) : List Char := t.map fun p => p.char?.getD '�'

/-- Lexicographic order by code point. -/
def le : Text → Text → Bool
  | [], _ => true
  | _ :: _, [] => false
  | p :: s, q :: t => p.toNat < q.toNat || (p.toNat == q.toNat && le s t)

/-- The texts in the order of their code points. Equal texts keep their places. -/
def sort (ts : List Text) : List Text := ts.mergeSort le

def ofNat (n : Nat) : Text := ofChars (Nat.toDigits 10 n)

def ofInt : Int → Text
  | .ofNat n => ofNat n
  | .negSucc n => .char '-' :: ofNat (n + 1)

end Text

instance : Coe Char CodePoint := ⟨.char⟩

instance : Coe String Text := ⟨Text.ofString⟩

end RepoAudit
