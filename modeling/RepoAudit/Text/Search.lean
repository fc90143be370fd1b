import RepoAudit.Text.Basic

/-!
Searching and cutting. The functions work on lists of any symbols, since documents are lists of
characters and texts are lists of code points.
-/
namespace RepoAudit

variable {α : Type} [BEq α]

/-- Whether `needle` stands somewhere in the list. The empty needle always does. -/
def occursIn (needle : List α) : List α → Bool
  | [] => needle.isEmpty
  | a :: rest => needle.isPrefixOf (a :: rest) || occursIn needle rest

/-- What follows `lead` at the front of a list. -/
def dropLead? : List α → List α → Option (List α)
  | [], rest => some rest
  | _ :: _, [] => none
  | a :: lead, b :: rest => if a == b then dropLead? lead rest else none

/-- The pieces between the occurrences of a separator. There is always at least one. -/
def splitAll (sep : α) : List α → List (List α)
  | [] => [[]]
  | a :: rest =>
    if a == sep then [] :: splitAll sep rest
    else match splitAll sep rest with
      | [] => [[a]]
      | piece :: pieces => (a :: piece) :: pieces

/-- Puts a separator between neighbouring pieces. -/
def joinWith {β : Type} (sep : List β) : List (List β) → List β
  | [] => []
  | [piece] => piece
  | piece :: next :: pieces => piece ++ sep ++ joinWith sep (next :: pieces)

/-- The part before the last occurrence of a separator and the part after it. -/
def splitLast? (sep : α) : List α → Option (List α × List α)
  | [] => none
  | a :: rest => match splitLast? sep rest with
    | some (front, back) => some (a :: front, back)
    | none => if a == sep then some ([], rest) else none

/-- The part before the first occurrence of a separator and the part after it. -/
def splitFirst? (sep : α) : List α → Option (List α × List α)
  | [] => none
  | a :: rest =>
    if a == sep then some ([], rest)
    else (splitFirst? sep rest).map fun (front, back) => (a :: front, back)

def trimBoth {β : Type} (p : β → Bool) (l : List β) : List β :=
  ((l.dropWhile p).reverse.dropWhile p).reverse

def trimEnd {β : Type} (p : β → Bool) (l : List β) : List β :=
  (l.reverse.dropWhile p).reverse

end RepoAudit
