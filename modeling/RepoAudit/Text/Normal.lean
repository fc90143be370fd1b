import RepoAudit.Text.Composition
import RepoAudit.Text.Decomposition

/-!
The normal form of names. Two spellings that differ only in how their characters are put together
or styled have one normal form: characters are taken apart, marks put in order, and letters joined
with their marks again. Names that look alike in a source are therefore one name.
-/
namespace RepoAudit

/-- Puts a mark before marks in order, behind those of a lower class. -/
def placeMark (c : Char) : List Char → List Char
  | [] => [c]
  | d :: rest =>
    if 0 < markClass d && markClass d < markClass c then d :: placeMark c rest
    else c :: d :: rest

/-- The characters with the marks behind each letter in the order of their classes. Marks of one
class keep their places. -/
def orderMarks (cs : List Char) : List Char := cs.foldr placeMark []

/-- Joins a letter with the marks that follow it. The marks in `kept`, reversed, did not join; they
block later marks of a class that is not above the last of theirs. -/
def joinMarks (letter : Char) (kept : List Char) : List Char → List Char
  | [] => letter :: kept.reverse
  | c :: rest =>
    let free := match kept with
      | [] => true
      | last :: _ => markClass last < markClass c
    match if free then composite? letter c else none with
    | some joined => joinMarks joined kept rest
    | none =>
      if markClass c == 0 then letter :: kept.reverse ++ joinMarks c [] rest
      else joinMarks letter (c :: kept) rest

/-- Joins all letters with their marks. Marks at the very start have no letter and stay. -/
def joinLetters : List Char → List Char
  | [] => []
  | c :: rest => if markClass c == 0 then joinMarks c [] rest else c :: joinLetters rest

def normalName (cs : List Char) : List Char :=
  if cs.all fun c => c.toNat < 0x80 then cs
  else joinLetters (orderMarks (cs.flatMap plainChars))

end RepoAudit
