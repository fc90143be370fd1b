import Mathlib.Data.List.DropRight
import RepoAudit.Path
import RepoAudit.Proofs.Text.Search

/-!
Paths and their parts. Where a path is cut, at its last slash or at the dot of its extension, is
told by how it is put together.
-/
namespace RepoAudit

namespace Path

/-- What may stand before a name: nothing, or a path that ends in a slash. -/
def IsFront (front : Text) : Prop := front = [] ∨ ∃ path, front = path ++ [slash]

theorem baseName_append {front name : Text} (hFront : IsFront front) (hName : slash ∉ name) :
    baseName (front ++ name) = name := by
  rcases hFront with rfl | ⟨path, rfl⟩
  · rw [List.nil_append, baseName, splitLast?_eq_none_iff.2 hName]
  · have hSplit : splitLast? slash (path ++ [slash] ++ name) = some (path, name) :=
      splitLast?_eq_some_iff.2 ⟨by simp, hName⟩
    rw [baseName, hSplit]

/-- A path ends in its last name. -/
theorem exists_front (path : Text) :
    ∃ front, IsFront front ∧ path = front ++ baseName path ∧ slash ∉ baseName path := by
  unfold baseName
  split
  · next front name hSplit =>
      obtain ⟨hPath, hName⟩ := splitLast?_eq_some_iff.1 hSplit
      exact ⟨front ++ [slash], .inr ⟨front, rfl⟩, by rw [hPath]; simp, hName⟩
  · next hNone => exact ⟨[], .inl rfl, rfl, splitLast?_eq_none_iff.1 hNone⟩

theorem isAbsolute_of_not_mem {name : Text} (h : slash ∉ name) : isAbsolute name = false := by
  rw [isAbsolute, beq_eq_false_iff_ne]
  exact fun hHead => h (List.mem_of_head? hHead)

/-- A name is joined to a directory with one slash. -/
theorem join_of_not_mem {directory name : Text} (hDirectory : directory ≠ [])
    (hLast : directory.getLast? ≠ some slash) (hName : slash ∉ name) :
    join directory name = directory ++ slash :: name := by
  simp [join, isAbsolute_of_not_mem hName, hDirectory, hLast]

/-- A name below a path with a slash at its end. -/
theorem join_concat {path name : Text} (hName : slash ∉ name) :
    join (path ++ [slash]) name = path ++ slash :: name := by
  simp [join, isAbsolute_of_not_mem hName]

def trimmed (path : Text) : Text := trimEnd (· == slash) path

theorem trimmed_eq (path : Text) : trimmed path = path.rdropWhile (· == slash) := rfl

/-- A slash at the end does not count. -/
theorem trimmed_concat (path : Text) : trimmed (path ++ [slash]) = trimmed path :=
  List.rdropWhile_concat_pos _ _ _ (beq_self_eq_true _)

theorem trimmed_ne_nil {path : Text} (h : ∃ p ∈ path, p ≠ slash) : trimmed path ≠ [] := by
  obtain ⟨p, hMember, hOther⟩ := h
  intro hNil
  exact hOther (eq_of_beq (List.rdropWhile_eq_nil_iff.1 hNil p hMember))

theorem exists_mem_trimmed {path : Text} (h : ∃ p ∈ path, p ≠ slash) :
    ∃ p ∈ trimmed path, p ≠ slash := by
  have hLast := List.rdropWhile_last_not _ _ (trimmed_ne_nil h)
  exact ⟨_, List.getLast_mem (trimmed_ne_nil h), fun hSame => hLast (beq_iff_eq.2 hSame)⟩

theorem trimmed_trimmed (path : Text) : trimmed (trimmed path) = trimmed path :=
  List.rdropWhile_idempotent _ _

/-- No slash is left at the end. -/
theorem getLast?_trimmed (path : Text) : (trimmed path).getLast? ≠ some slash := by
  intro hLast
  have hPath : path.rdropWhile (· == slash) ≠ [] := by
    intro hNil
    rw [trimmed_eq, hNil] at hLast
    cases hLast
  rw [trimmed_eq, List.getLast?_eq_some_getLast hPath] at hLast
  exact List.rdropWhile_last_not _ _ hPath (beq_iff_eq.2 (Option.some.inj hLast))

/-- The directory of a name, unless there is nothing but slashes before it. -/
theorem directoryName_append {path name : Text} (hPath : ∃ p ∈ path, p ≠ slash)
    (hName : slash ∉ name) : directoryName (path ++ slash :: name) = trimmed path := by
  have hSplit : splitLast? slash (path ++ slash :: name) = some (path, name) :=
    splitLast?_eq_some_iff.2 ⟨rfl, hName⟩
  have hAll : path.all (· == slash) = false := by
    rw [List.all_eq_false]
    simpa using hPath
  rw [directoryName, hSplit]
  simp [hAll, trimmed]

/-- The divider of a name and its extension. -/
def dot : CodePoint := .char '.'

/-- What an extension is: the end of the last name from its last dot on, if something other than
dots stands before it. -/
inductive HasExtension : Text → Text → Prop
  | intro {front stem ending : Text} (hFront : IsFront front) (hStem : ∃ p ∈ stem, p ≠ dot)
    (hName : slash ∉ stem ++ ending) (hEnding : dot ∉ ending) :
    HasExtension (front ++ (stem ++ dot :: ending)) (dot :: ending)

/-- Dots at the start of a name do not begin an extension. -/
theorem extension_eq (path : Text) : extension path =
    (splitLast? dot ((baseName path).dropWhile (· == dot))).elim [] fun cut => dot :: cut.2 := by
  unfold extension
  dsimp only
  split
  · next front ending hSplit =>
      have hCut : splitLast? dot ((baseName path).dropWhile (· == dot)) = some (front, ending) :=
        hSplit
      rw [hCut]
      rfl
  · next hNone =>
      have hUncut : splitLast? dot ((baseName path).dropWhile (· == dot)) = none := hNone
      rw [hUncut]
      rfl

/-- The extension of a path is what it should be. -/
theorem hasExtension_iff {path ext : Text} :
    HasExtension path ext ↔ extension path = ext ∧ ext ≠ [] := by
  constructor
  · rintro ⟨hFront, hStem, hName, hEnding⟩
    next front stem ending =>
    have hLast : slash ∉ stem ++ dot :: ending := by
      simp only [List.mem_append, List.mem_cons, not_or] at hName ⊢
      exact ⟨hName.1, by decide, hName.2⟩
    have hDrop : (stem ++ dot :: ending).dropWhile (· == dot) =
        stem.dropWhile (· == dot) ++ dot :: ending := by
      have hRest : (stem.dropWhile (· == dot)).isEmpty = false := by
        rw [List.isEmpty_eq_false_iff, Ne, List.dropWhile_eq_nil_iff]
        simpa using hStem
      simp [List.dropWhile_append, hRest]
    have hSplit := splitLast?_eq_some_iff.2
      ⟨(rfl : stem.dropWhile (· == dot) ++ dot :: ending = _), hEnding⟩
    rw [extension_eq, baseName_append hFront hLast, hDrop, hSplit]
    exact ⟨rfl, List.cons_ne_nil _ _⟩
  · rintro ⟨rfl, hSome⟩
    obtain ⟨front, hFront, hPath, hName⟩ := exists_front path
    rw [extension_eq] at hSome ⊢
    cases hSplit : splitLast? dot ((baseName path).dropWhile (· == dot)) with
    | none => simp [hSplit] at hSome
    | some cut =>
        obtain ⟨stem, ending⟩ := cut
        obtain ⟨hCut, hEnding⟩ := splitLast?_eq_some_iff.1 hSplit
        have hWhole : baseName path =
            ((baseName path).takeWhile (· == dot) ++ stem) ++ dot :: ending := by
          rw [List.append_assoc, ← hCut, List.takeWhile_append_dropWhile]
        have hStem : ∃ p ∈ (baseName path).takeWhile (· == dot) ++ stem, p ≠ dot := by
          have hHead := List.head?_dropWhile_not (· == dot) (baseName path)
          rw [hCut] at hHead
          cases stem with
          | nil => simp at hHead
          | cons p stem => exact ⟨p, by simp, by simpa using hHead⟩
        rw [hWhole] at hName
        nth_rewrite 1 [hPath, hWhole]
        refine .intro hFront hStem ?_ hEnding
        simp only [List.mem_append, List.mem_cons, not_or] at hName ⊢
        exact ⟨hName.1, hName.2.2⟩

/-- The names of the directories on a path, in their order. -/
def directories (path : Text) : List Text := (splitAll slash path).dropLast

/-- A directory that is not the first on a path stands between slashes. -/
theorem between_slashes_iff {path word : Text} (hWord : slash ∉ word) :
    slash :: (word ++ [slash]) <:+: path ↔ word ∈ (directories path).tail := by
  rw [directories, List.tail_dropLast, between_infix_iff hWord]

/-- The first directory of a path stands at its start. -/
theorem prefix_of_mem_directories {path word : Text} (h : word ∈ directories path) :
    word ∈ (directories path).tail ∨ word <+: path := by
  obtain ⟨first, others, hPieces⟩ := List.exists_cons_of_ne_nil (splitAll_ne_nil slash path)
  cases others with
  | nil => simp [directories, hPieces] at h
  | cons next others =>
      rw [directories, hPieces, List.dropLast_cons_of_ne_nil (List.cons_ne_nil _ _)] at h ⊢
      rcases List.mem_cons.1 h with rfl | hLater
      · refine .inr ?_
        rw [← joinWith_splitAll slash path, hPieces, joinWith, List.append_assoc]
        exact List.prefix_append _ _
      · exact .inl hLater

end Path

end RepoAudit
