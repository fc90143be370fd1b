import Mathlib.Data.List.Infix
import RepoAudit.Text.Search

/-!
Searching and cutting. Where a list is cut, at its last separator or at every separator, is told by
how it is put together, and so is where a word stands in it.
-/
namespace RepoAudit

variable {α : Type} {sep : α} {l front back word : List α}

theorem joinWith_append {sep : List α} {first second : List (List α)} (hFirst : first ≠ [])
    (hSecond : second ≠ []) :
    joinWith sep (first ++ second) = joinWith sep first ++ sep ++ joinWith sep second := by
  induction first with
  | nil => exact absurd rfl hFirst
  | cons piece first ih =>
      obtain ⟨next, second, rfl⟩ := List.exists_cons_of_ne_nil hSecond
      cases first with
      | nil => rfl
      | cons other first =>
          have hRest := ih (List.cons_ne_nil _ _)
          simp only [List.cons_append, joinWith, List.append_assoc] at hRest ⊢
          rw [hRest]

/-- What is joined holds the pieces and the separator, and nothing else. -/
theorem mem_joinWith {sep : List α} {pieces : List (List α)} {a : α}
    (h : a ∈ joinWith sep pieces) : a ∈ sep ∨ ∃ piece ∈ pieces, a ∈ piece := by
  induction pieces with
  | nil => cases h
  | cons piece pieces ih =>
      cases pieces with
      | nil => exact .inr ⟨piece, List.mem_cons_self, h⟩
      | cons next pieces =>
          rw [joinWith, List.mem_append, List.mem_append] at h
          rcases h with (hPiece | hSep) | hRest
          · exact .inr ⟨piece, List.mem_cons_self, hPiece⟩
          · exact .inl hSep
          · refine (ih hRest).imp_right fun ⟨other, hOther, hMember⟩ => ?_
            exact ⟨other, List.mem_cons_of_mem _ hOther, hMember⟩

/-- Nothing is found after a run of symbols if the run is the whole list. -/
theorem takeWhile_drop_eq_nil_iff {p q : α → Bool} (h : ∀ a, p a = false → q a = true)
    (l : List α) : (l.drop (l.takeWhile p).length).takeWhile q = [] ↔ ∀ a ∈ l, p a = true := by
  induction l with
  | nil => simp
  | cons a l ih =>
      cases hHere : p a with
      | true => simp [hHere, ih]
      | false => simp [hHere, h a hHere]

/-- A word does not reach over a symbol that it does not hold. -/
theorem prefix_append_cons_iff (hWord : sep ∉ word) :
    word <+: front ++ sep :: back ↔ word <+: front := by
  refine ⟨fun h => ?_, fun h => h.trans (List.prefix_append _ _)⟩
  rcases List.prefix_or_prefix_of_prefix h (List.prefix_append front (sep :: back)) with
    hInside | ⟨rest, rfl⟩
  · exact hInside
  · rw [List.prefix_append_right_inj, List.prefix_cons_iff] at h
    rcases h with rfl | ⟨more, rfl, -⟩
    · simp
    · simp at hWord

/-- A word without the separator stands on one of its sides. -/
theorem infix_append_cons_iff (hWord : sep ∉ word) :
    word <:+: front ++ sep :: back ↔ word <:+: front ∨ word <:+: back := by
  induction front with
  | nil =>
      have hNone : word <+: [] ++ sep :: back ↔ word <+: [] := prefix_append_cons_iff hWord
      have hFront : word <+: sep :: back ↔ word = [] := by simpa using hNone
      simp [List.infix_cons_iff, hFront]
  | cons a front ih =>
      rw [List.cons_append, List.infix_cons_iff, ← List.cons_append, prefix_append_cons_iff hWord,
        ih, List.infix_cons_iff, or_assoc]

variable [BEq α]

theorem splitAll_ne_nil (sep : α) (l : List α) : splitAll sep l ≠ [] := by
  cases l with
  | nil => simp [splitAll]
  | cons a l =>
      rw [splitAll]
      split
      · simp
      · split <;> simp

/-- There is one piece more than there are separators. -/
theorem length_splitAll (sep : α) (l : List α) : (splitAll sep l).length = l.count sep + 1 := by
  induction l with
  | nil => rfl
  | cons a l ih =>
      rw [splitAll, List.count_cons]
      split
      · simp [ih]
      · obtain ⟨piece, pieces, hPieces⟩ := List.exists_cons_of_ne_nil (splitAll_ne_nil sep l)
        rw [hPieces] at ih ⊢
        simpa using ih

variable [LawfulBEq α]

/-- A search finds a word exactly if it stands in the text. -/
theorem occursIn_iff : occursIn word l = true ↔ word <:+: l := by
  induction l with
  | nil => simp [occursIn]
  | cons a l ih =>
      rw [occursIn, Bool.or_eq_true, List.isPrefixOf_iff_prefix, ih, List.infix_cons_iff]

theorem dropLead?_eq_some {lead after : List α} :
    dropLead? lead l = some after ↔ l = lead ++ after := by
  induction lead generalizing l with
  | nil => simp [dropLead?]
  | cons a lead ih =>
      cases l with
      | nil => simp [dropLead?]
      | cons b l =>
          by_cases hSame : a = b
          · simp [dropLead?, hSame, ih]
          · simp [dropLead?, hSame, Ne.symm hSame]

theorem splitLast?_eq_none_iff : splitLast? sep l = none ↔ sep ∉ l := by
  induction l with
  | nil => simp [splitLast?]
  | cons a l ih =>
      rw [splitLast?, List.mem_cons, not_or, ← ih]
      cases splitLast? sep l with
      | none => simp [eq_comm (a := a)]
      | some cut => simp

/-- The last separator is the one behind which there is no other. -/
theorem splitLast?_eq_some_iff :
    splitLast? sep l = some (front, back) ↔ l = front ++ sep :: back ∧ sep ∉ back := by
  constructor
  · intro h
    induction l generalizing front with
    | nil => cases h
    | cons a l ih =>
        rw [splitLast?] at h
        split at h
        · next hRest =>
            cases h
            obtain ⟨rfl, hLast⟩ := ih hRest
            exact ⟨rfl, hLast⟩
        · next hNone =>
            split at h
            · next hSame =>
                cases h
                exact ⟨by rw [eq_of_beq hSame, List.nil_append], splitLast?_eq_none_iff.1 hNone⟩
            · cases h
  · rintro ⟨rfl, hLast⟩
    induction front with
    | nil => simp [splitLast?, splitLast?_eq_none_iff.2 hLast]
    | cons a front ih => simp [splitLast?, ih]

theorem splitAll_of_not_mem (h : sep ∉ l) : splitAll sep l = [l] := by
  induction l with
  | nil => rfl
  | cons a l ih =>
      obtain ⟨hFirst, hRest⟩ := not_or.1 (mt List.mem_cons.2 h)
      simp [splitAll, ih hRest, Ne.symm hFirst]

/-- No piece holds the separator. -/
theorem not_mem_of_mem_splitAll {piece : List α} (h : piece ∈ splitAll sep l) : sep ∉ piece := by
  induction l generalizing piece with
  | nil => simp_all [splitAll]
  | cons a l ih =>
      rw [splitAll] at h
      split at h
      · rcases List.mem_cons.1 h with rfl | hRest
        · exact List.not_mem_nil
        · exact ih hRest
      · next hOther =>
          obtain ⟨first, pieces, hPieces⟩ := List.exists_cons_of_ne_nil (splitAll_ne_nil sep l)
          rw [hPieces] at h ih
          rcases List.mem_cons.1 h with rfl | hRest
          · rw [List.mem_cons, not_or]
            exact ⟨fun hSame => hOther (beq_iff_eq.2 hSame.symm), ih List.mem_cons_self⟩
          · exact ih (List.mem_cons_of_mem _ hRest)

/-- A separator parts the pieces before it from those after it. -/
theorem splitAll_append (front back : List α) :
    splitAll sep (front ++ sep :: back) = splitAll sep front ++ splitAll sep back := by
  induction front with
  | nil => simp [splitAll]
  | cons a front ih =>
      rw [List.cons_append, splitAll, splitAll, ih]
      split
      · rfl
      · cases hPieces : splitAll sep front with
        | nil => exact absurd hPieces (splitAll_ne_nil sep front)
        | cons piece pieces => rfl

/-- A piece between two separators comes after one piece for each separator before it. -/
theorem getElem?_splitAll (h : sep ∉ word) (front back : List α) :
    (splitAll sep (front ++ sep :: (word ++ sep :: back)))[front.count sep + 1]? = some word := by
  rw [splitAll_append, splitAll_append, splitAll_of_not_mem h, ← length_splitAll,
    List.getElem?_append_right (Nat.le_refl _), Nat.sub_self]
  rfl

/-- What is split can be joined again. -/
theorem joinWith_splitAll (sep : α) (l : List α) : joinWith [sep] (splitAll sep l) = l := by
  induction l with
  | nil => rfl
  | cons a l ih =>
      rw [splitAll]
      obtain ⟨piece, pieces, hPieces⟩ := List.exists_cons_of_ne_nil (splitAll_ne_nil sep l)
      rw [hPieces] at ih ⊢
      split
      · next hSame =>
          rw [eq_of_beq hSame, joinWith, ih]
          rfl
      · cases pieces with
        | nil => simpa [joinWith] using ih
        | cons next pieces => simpa [joinWith] using ih

/-- Pieces that do not hold the separator are found again. -/
theorem splitAll_joinWith {pieces : List (List α)} (hSome : pieces ≠ [])
    (h : ∀ piece ∈ pieces, sep ∉ piece) : splitAll sep (joinWith [sep] pieces) = pieces := by
  induction pieces with
  | nil => exact absurd rfl hSome
  | cons piece pieces ih =>
      obtain ⟨hFirst, hRest⟩ := List.forall_mem_cons.1 h
      cases pieces with
      | nil => exact splitAll_of_not_mem hFirst
      | cons next pieces =>
          rw [joinWith, List.append_assoc, List.singleton_append, splitAll_append,
            splitAll_of_not_mem hFirst, ih (List.cons_ne_nil _ _) hRest, List.singleton_append]

/-- A word stands between two separators if it is a piece that is neither the first nor the last. -/
theorem between_infix_iff (hWord : sep ∉ word) :
    sep :: (word ++ [sep]) <:+: l ↔ word ∈ (splitAll sep l).tail.dropLast := by
  constructor
  · rintro ⟨before, after, rfl⟩
    have hPieces : splitAll sep (before ++ sep :: (word ++ [sep]) ++ after) =
        splitAll sep before ++ (word :: splitAll sep after) := by
      have hLine : before ++ sep :: (word ++ [sep]) ++ after =
          before ++ sep :: (word ++ sep :: after) := by simp
      rw [hLine, splitAll_append, splitAll_append, splitAll_of_not_mem hWord, List.singleton_append]
    obtain ⟨first, others, hFirst⟩ := List.exists_cons_of_ne_nil (splitAll_ne_nil sep before)
    rw [hPieces, hFirst, List.cons_append, List.tail_cons,
      List.dropLast_append_of_ne_nil (List.cons_ne_nil _ _),
      List.dropLast_cons_of_ne_nil (splitAll_ne_nil sep after)]
    simp
  · intro hMember
    obtain ⟨first, others, hPieces⟩ := List.exists_cons_of_ne_nil (splitAll_ne_nil sep l)
    rw [hPieces, List.tail_cons] at hMember
    have hOthers : others ≠ [] := by
      rintro rfl
      simp at hMember
    obtain ⟨before, after, hInner⟩ := List.append_of_mem hMember
    have hParts := List.dropLast_append_getLast hOthers
    generalize others.getLast hOthers = last at hParts
    have hLine : splitAll sep l = (first :: before) ++ ([word] ++ (after ++ [last])) := by
      rw [hPieces, ← hParts, hInner]
      simp
    rw [← joinWith_splitAll sep l, hLine, joinWith_append (by simp) (by simp),
      joinWith_append (by simp) (by simp)]
    refine ⟨joinWith [sep] (first :: before), joinWith [sep] (after ++ [last]), ?_⟩
    simp [joinWith]

end RepoAudit
