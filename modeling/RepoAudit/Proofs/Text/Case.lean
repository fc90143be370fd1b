import RepoAudit.Path
import RepoAudit.Text.Case

/-!
The lower case of a path. The sigma at the end of a word is the only letter whose lower case depends
on what stands around it, and a slash ends a word; so the parts of a path go to lower case apart
from each other.
-/
namespace RepoAudit

open RepoAudit.Path

/-- The first code point is skipped, or all that follows it does not matter. -/
theorem leadsWithCase_cons (p : CodePoint) (t : Text) :
    leadsWithCase (p :: t) =
      if p.satisfies fun c => Text.Table.caseIgnored.contains c.toNat then leadsWithCase t
      else p.satisfies fun c => Text.Table.cased.contains c.toNat := by
  by_cases hSkipped : p.satisfies (fun c => Text.Table.caseIgnored.contains c.toNat) = true
  · rw [leadsWithCase, List.dropWhile_cons_of_pos hSkipped, if_pos hSkipped]
    rfl
  · rw [leadsWithCase, List.dropWhile_cons_of_neg hSkipped, if_neg hSkipped]
    cases p <;> simp only [CodePoint.satisfies]

/-- What stands behind a slash does not matter for whether a letter follows. -/
theorem leadsWithCase_append_slash (front back : Text) :
    leadsWithCase (front ++ slash :: back) = leadsWithCase front := by
  have hSkipped : Text.Table.caseIgnored.contains '/'.toNat = false := by decide +kernel
  have hCased : Text.Table.cased.contains '/'.toNat = false := by decide +kernel
  induction front with
  | nil =>
      rw [List.nil_append, leadsWithCase_cons, slash, CodePoint.satisfies, hSkipped,
        CodePoint.satisfies, hCased, if_neg Bool.false_ne_true]
      rfl
  | cons p front ih => rw [List.cons_append, leadsWithCase_cons, leadsWithCase_cons, ih]

namespace Text

/-- A slash ends a word, so what stands before it has no effect on the case behind it. -/
theorem lowerFrom_append_slash (before earlier t : Text) :
    lowerFrom (before ++ slash :: earlier) t = lowerFrom before t := by
  induction t generalizing before with
  | nil => rfl
  | cons p t ih =>
      cases p with
      | surrogate s => rw [lowerFrom, lowerFrom, ← List.cons_append, ih]
      | char c => rw [lowerFrom, lowerFrom, leadsWithCase_append_slash, ← List.cons_append, ih]

/-- Lower case can be taken on both sides of a slash. -/
theorem lower_append_slash (front back : Text) :
    (front ++ slash :: back).lower = front.lower ++ slash :: back.lower := by
  have hFrom (before : Text) : lowerFrom before (front ++ slash :: back) =
      lowerFrom before front ++ slash :: back.lower := by
    induction front generalizing before with
    | nil =>
        have hHere : lowerChar '/' = ['/'] := by decide
        have hBack := lowerFrom_append_slash [] before back
        simp only [List.nil_append, slash] at hBack
        simp [slash, lowerFrom, lower, hHere, hBack, ofChars]
    | cons p front ih =>
        cases p with
        | surrogate s => rw [List.cons_append, lowerFrom, lowerFrom, ih, List.cons_append]
        | char c =>
            rw [List.cons_append, lowerFrom, lowerFrom, ih, leadsWithCase_append_slash]
            simp
  exact hFrom []

end Text

end RepoAudit
