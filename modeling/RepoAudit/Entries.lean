/-!
Entries in the order of their arrival. Setting a known key keeps its place, and a new key goes to
the end.
-/
namespace RepoAudit

variable {κ α : Type} [BEq κ]

def setEntry (key : κ) (value : α) : List (κ × α) → List (κ × α)
  | [] => [(key, value)]
  | (k, old) :: rest => if k == key then (k, value) :: rest else (k, old) :: setEntry key value rest

/-- The entries that result from setting keys one after the other. -/
def setEntries (news entries : List (κ × α)) : List (κ × α) :=
  news.foldl (fun made (key, value) => setEntry key value made) entries

/-- Adds a member to a set kept in the order of arrival. -/
def insertNew [BEq α] (a : α) (as : List α) : List α := if as.contains a then as else as ++ [a]

end RepoAudit
