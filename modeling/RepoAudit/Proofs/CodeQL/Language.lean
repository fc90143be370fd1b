import RepoAudit.Proofs.Json.Arithmetic
import RepoAudit.Proofs.Path
import RepoAudit.Proofs.Totals
import RepoAudit.Workflow

/-!
The main language of a project, as its files tell it. Files are counted by their extensions, and
the counts are summed up by language. Main statement: what comes out is the language of the most
files, and of several the one whose first file comes first.
-/
namespace RepoAudit

namespace CodeQL

open RepoAudit.Path

/-- A file is written in a language if its extension, in lower case, is one of that language. -/
def WrittenIn (language file : Text) : Prop :=
  ∃ ext, HasExtension file ext ∧ (ext.lower, language) ∈ extensions

def languageOf? (file : Text) : Option Text := extensions.lookup (extension file).lower

/-- The language of a file is the one that the table gives for its extension. -/
theorem writtenIn_iff {language file : Text} :
    WrittenIn language file ↔ languageOf? file = some language := by
  have hKeys : (extensions.map Prod.fst).Nodup := by decide
  rw [languageOf?, lookup_eq_some_iff_mem hKeys]
  constructor
  · rintro ⟨ext, hExtension, hMember⟩
    rwa [(hasExtension_iff.1 hExtension).1]
  · intro hMember
    refine ⟨extension file, hasExtension_iff.2 ⟨rfl, fun hNil => ?_⟩, hMember⟩
    have hNone : ∀ entry ∈ extensions, entry.1 ≠ Text.lower [] := by decide
    rw [hNil] at hMember
    exact hNone _ hMember rfl

instance (language file : Text) : Decidable (WrittenIn language file) :=
  decidable_of_iff _ writtenIn_iff.symm

theorem languageOf?_beq (language file : Text) :
    (languageOf? file == some language) = decide (WrittenIn language file) := by
  rw [Bool.eq_iff_iff, beq_iff_eq, decide_eq_true_iff, writtenIn_iff]

section Counts

def lowerExtension? (file : Text) : Option Text :=
  if (extension file).lower = [] then none else some (extension file).lower

/-- A file without an extension has no language, as the table has no empty extension. -/
theorem lowerExtension?_bind (file : Text) :
    ((lowerExtension? file).bind fun ext => extensions.lookup ext) = languageOf? file := by
  have hNone : extensions.lookup [] = none := by decide
  rw [lowerExtension?, languageOf?]
  split
  · next hNil => rw [hNil, hNone, Option.bind_none]
  · rfl

/-- Files are counted by their extensions. -/
theorem languages_eq (files : List Text) :
    Discovery.languages files = totals lowerExtension? (fun _ => 1) files := by
  induction files using List.reverseRecOn with
  | nil => rfl
  | append_singleton files file ih =>
      rw [Discovery.languages] at ih ⊢
      rw [List.map_append, List.filter_append, List.foldl_append, ih]
      by_cases hNil : (extension file).lower = []
      · have hNone : lowerExtension? file = none := by simp [lowerExtension?, hNil]
        simp [totals_concat_of_none hNone, hNil]
      · have hSome : lowerExtension? file = some (extension file).lower := by
          simp [lowerExtension?, hNil]
        simp [totals_concat_of_some hSome, hNil, Discovery.countUp]

theorem countValues_cons (key : Text) (n : Nat) (counts : List (Text × Nat)) :
    countValues ((key, n) :: counts) = (key, .int n) :: countValues counts := rfl

theorem countValues_append (first second : List (Text × Nat)) :
    countValues (first ++ second) = countValues first ++ countValues second := List.map_append

/-- A count is found among values as it is found among counts. -/
theorem lookup_countValues (counts : List (Text × Nat)) (key : Text) :
    (countValues counts).lookup key = (counts.lookup key).map fun n => .int n := by
  induction counts with
  | nil => rfl
  | cons entry counts ih =>
      rw [countValues_cons, List.lookup_cons, List.lookup_cons, ih]
      cases key == entry.1 <;> rfl

/-- Setting a count sets its value. -/
theorem countValues_setEntry (key : Text) (n : Nat) (counts : List (Text × Nat)) :
    countValues (setEntry key n counts) = setEntry key (.int n) (countValues counts) := by
  induction counts with
  | nil => rfl
  | cons entry counts ih =>
      rw [countValues_cons, setEntry, setEntry]
      cases entry.1 == key with
      | true => rfl
      | false => exact congrArg _ ih

def languageTotals (counts : List (Text × Nat)) : List (Text × Nat) :=
  totals (fun entry => extensions.lookup entry.1) Prod.snd counts

/-- A count is added to that of its language. -/
theorem addCount_languageTotals (counts : List (Text × Nat)) (ext : Text) (n : Nat) :
    addCount (countValues (languageTotals counts)) (ext, .int n) =
      .ok (countValues (languageTotals (counts ++ [(ext, n)]))) := by
  rw [addCount]
  cases hLanguage : extensions.lookup ext with
  | none =>
      have hSame : languageTotals (counts ++ [(ext, n)]) = languageTotals counts :=
        totals_concat_of_none (by exact hLanguage)
      rw [hSame]
  | some language =>
      have hMore : languageTotals (counts ++ [(ext, n)]) =
          setEntry language (((languageTotals counts).lookup language).getD 0 + n)
            (languageTotals counts) := totals_concat_of_some (by exact hLanguage)
      have hBefore : ((countValues (languageTotals counts)).lookup language).getD (.int 0) =
          .int (((languageTotals counts).lookup language).getD 0 : Nat) := by
        rw [lookup_countValues]
        cases (languageTotals counts).lookup language <;> rfl
      rw [hMore, countValues_setEntry, Int.natCast_add]
      simp only [hBefore]
      rfl

/-- Adding up values by language is adding up the counts. -/
theorem foldlM_addCount (counts : List (Text × Nat)) :
    (countValues counts).foldlM addCount [] = .ok (countValues (languageTotals counts)) := by
  induction counts using List.reverseRecOn with
  | nil => rfl
  | append_singleton counts entry ih =>
      rw [countValues_append, List.foldlM_append, ih, ← addCount_languageTotals]
      exact bind_pure (addCount _ (entry.1, .int entry.2))

/-- The number of files that are written in each language. -/
theorem foldlM_addCount_languages_eq (files : List Text) :
    (countValues (Discovery.languages files)).foldlM addCount [] =
      .ok (countValues (totals languageOf? (fun _ => 1) files)) := by
  rw [foldlM_addCount, languages_eq, languageTotals,
    totals_totals fun ext => extensions.lookup ext]
  simp only [lowerExtension?_bind]

end Counts

section Largest

/-- The largest count exceeds those before it, and none of those after it exceeds it. -/
theorem largest_countValues (best : Text × Nat) (counts : List (Text × Nat)) :
    ∃ before found after, best :: counts = before ++ found :: after ∧
      largest (best.1, .int best.2) (countValues counts) = .ok (found.1, .int found.2) ∧
      (∀ entry ∈ before, entry.2 < found.2) ∧ ∀ entry ∈ after, entry.2 ≤ found.2 := by
  induction counts generalizing best with
  | nil => exact ⟨[], best, [], rfl, rfl, by simp, by simp⟩
  | cons entry counts ih =>
      rw [countValues_cons, largest, Json.exceeds_int]
      by_cases hLess : best.2 < entry.2
      · obtain ⟨before, found, after, hWhole, hLargest, hBefore, hAfter⟩ := ih entry
        have hEntry : entry.2 ≤ found.2 := by
          have hMember : entry ∈ before ++ found :: after := hWhole ▸ List.mem_cons_self
          rcases List.mem_append.1 hMember with hEarlier | hLater
          · exact (hBefore entry hEarlier).le
          · rcases List.mem_cons.1 hLater with rfl | hLater
            · exact le_rfl
            · exact hAfter entry hLater
        refine ⟨best :: before, found, after, by rw [hWhole]; rfl, ?_, ?_, hAfter⟩
        · simpa [hLess, bind, Except.bind] using hLargest
        · exact List.forall_mem_cons.2 ⟨hLess.trans_le hEntry, hBefore⟩
      · obtain ⟨before, found, after, hWhole, hLargest, hBefore, hAfter⟩ := ih best
        cases before with
        | nil =>
            obtain ⟨rfl, rfl⟩ := List.cons.inj hWhole
            refine ⟨[], best, entry :: counts, rfl, ?_, by simp, ?_⟩
            · simpa [hLess, bind, Except.bind] using hLargest
            · exact List.forall_mem_cons.2 ⟨not_lt.1 hLess, hAfter⟩
        | cons first before =>
            obtain ⟨rfl, rfl⟩ := List.cons.inj hWhole
            obtain ⟨hFirst, hRest⟩ := List.forall_mem_cons.1 hBefore
            refine ⟨best :: entry :: before, found, after, rfl, ?_, ?_, hAfter⟩
            · simpa [hLess, bind, Except.bind] using hLargest
            · exact List.forall_mem_cons.2
                ⟨hFirst, List.forall_mem_cons.2 ⟨(not_lt.1 hLess).trans_lt hFirst, hRest⟩⟩

end Largest

/-- A language prevails among files: some are written in it, no other has more of them, and the
first file of any other with as many comes later. -/
structure Prevails (files : List Text) (language : Text) : Prop where
  occurs : ∃ file ∈ files, WrittenIn language file
  most (other : Text) : files.countP (WrittenIn other ·) ≤ files.countP (WrittenIn language ·)
  first (other : Text) (hOther : other ≠ language)
    (hTie : files.countP (WrittenIn other ·) = files.countP (WrittenIn language ·)) :
    files.findIdx (WrittenIn language ·) < files.findIdx (WrittenIn other ·)

/-- At most one language prevails. -/
theorem Prevails.unique {files : List Text} {language other : Text}
    (h : Prevails files language) (hOther : Prevails files other) : other = language := by
  by_contra hNe
  have hTie := le_antisymm (h.most other) (hOther.most language)
  have hFirst := h.first other hNe hTie
  have hSecond := hOther.first language (Ne.symm hNe) hTie.symm
  omega

section Files

variable {files : List Text}

/-- The languages of files in the order of their first files, each with the number of its files. -/
theorem totals_languageOf? (files : List Text) : totals languageOf? (fun _ => 1) files =
    (files.filterMap languageOf?).eraseDups.map fun language =>
      (language, files.countP (WrittenIn language ·)) := by
  simp only [totals, total_one, languageOf?_beq]

/-- The total of a language is the number of its files. -/
theorem mem_totals_iff {language : Text} {n : Nat} :
    (language, n) ∈ totals languageOf? (fun _ => 1) files ↔
      (∃ file ∈ files, WrittenIn language file) ∧ n = files.countP (WrittenIn language ·) := by
  rw [totals_languageOf?, List.mem_map]
  constructor
  · rintro ⟨other, hOther, hSame⟩
    cases hSame
    obtain ⟨file, hFile, hLanguage⟩ := List.mem_filterMap.1 (List.mem_eraseDups.1 hOther)
    exact ⟨⟨file, hFile, writtenIn_iff.2 hLanguage⟩, rfl⟩
  · rintro ⟨⟨file, hFile, hLanguage⟩, rfl⟩
    refine ⟨language, List.mem_eraseDups.2 (List.mem_filterMap.2 ⟨file, hFile, ?_⟩), rfl⟩
    exact writtenIn_iff.1 hLanguage

/-- The first of the largest totals belongs to the language that prevails. -/
theorem prevails_of_largest {before after : List (Text × Nat)} {found : Text × Nat}
    (hTotals : totals languageOf? (fun _ => 1) files = before ++ found :: after)
    (hBefore : ∀ entry ∈ before, entry.2 < found.2)
    (hAfter : ∀ entry ∈ after, entry.2 ≤ found.2) : Prevails files found.1 := by
  have hFound : found ∈ totals languageOf? (fun _ => 1) files := by
    rw [hTotals]
    simp
  obtain ⟨hOccurs, hCount⟩ := mem_totals_iff.1 hFound
  have hPlace (other : Text) (hOther : ∃ file ∈ files, WrittenIn other file) :
      (other, files.countP (WrittenIn other ·)) ∈ before ++ found :: after := by
    rw [← hTotals]
    exact mem_totals_iff.2 ⟨hOther, rfl⟩
  refine ⟨hOccurs, fun other => ?_, fun other hNe hTie => ?_⟩
  · by_cases hOther : ∃ file ∈ files, WrittenIn other file
    · rw [← hCount]
      rcases List.mem_append.1 (hPlace other hOther) with hEarlier | hLater
      · exact (hBefore _ hEarlier).le
      · rcases List.mem_cons.1 hLater with hSame | hLater
        · rw [← hSame]
        · exact hAfter _ hLater
    · have hNone : files.countP (WrittenIn other ·) = 0 := by simpa using hOther
      rw [hNone]
      exact Nat.zero_le _
  · have hOther : ∃ file ∈ files, WrittenIn other file := by
      have hSome : 0 < files.countP (WrittenIn found.1 ·) := by simpa using hOccurs
      rw [← hTie] at hSome
      simpa using hSome
    rcases List.mem_append.1 (hPlace other hOther) with hEarlier | hLater
    · have hLess := hBefore _ hEarlier
      omega
    · rcases List.mem_cons.1 hLater with hSame | hLater
      · exact absurd (congrArg Prod.fst hSame) hNe
      · have hOrder := pairwise_findIdx languageOf? files
        have hKeys : (files.filterMap languageOf?).eraseDups =
            (before ++ found :: after).map Prod.fst := by
          rw [← hTotals, totals, List.map_map]
          exact (List.map_id _).symm
        simp only [hKeys, languageOf?_beq, List.map_append, List.map_cons, List.pairwise_append,
          List.pairwise_cons] at hOrder
        exact hOrder.2.1.1 other (List.mem_map.2 ⟨_, hLater, rfl⟩)

end Files

/-- The main language of files by the counts of their extensions. There is none if no file is
written in a known language, and otherwise it is the one that prevails. -/
theorem mainLanguage_prevails (files : List Text) :
    ∃ main, mainLanguage (countValues (Discovery.languages files)) = .ok main ∧
      (main = none ↔ ∀ file ∈ files, ∀ language, ¬WrittenIn language file) ∧
      ∀ language, main = some language ↔ Prevails files language := by
  rw [mainLanguage, foldlM_addCount_languages_eq]
  cases hTotals : totals languageOf? (fun _ => 1) files with
  | nil =>
      have hNone : ∀ file ∈ files, ∀ language, ¬WrittenIn language file := by
        intro file hFile language hWritten
        have hMember := mem_totals_iff.2 ⟨⟨file, hFile, hWritten⟩, rfl⟩
        rw [hTotals] at hMember
        cases hMember
      refine ⟨none, rfl, iff_of_true rfl hNone, fun language => iff_of_false (by simp) ?_⟩
      intro hPrevails
      obtain ⟨file, hFile, hWritten⟩ := hPrevails.occurs
      exact hNone file hFile language hWritten
  | cons first rest =>
      obtain ⟨before, found, after, hWhole, hLargest, hBefore, hAfter⟩ :=
        largest_countValues first rest
      have hPrevails := prevails_of_largest (hTotals.trans hWhole) hBefore hAfter
      refine ⟨some found.1, ?_, ?_, fun language => ⟨?_, ?_⟩⟩
      · change (do return some (← largest (first.1, .int first.2) (countValues rest)).1) = _
        rw [hLargest]
        rfl
      · refine iff_of_false (by simp) fun hNone => ?_
        obtain ⟨file, hFile, hWritten⟩ := hPrevails.occurs
        exact hNone file hFile found.1 hWritten
      · intro hSame
        rwa [← Option.some.inj hSame]
      · intro hOther
        rw [hOther.unique hPrevails]

end CodeQL

end RepoAudit
