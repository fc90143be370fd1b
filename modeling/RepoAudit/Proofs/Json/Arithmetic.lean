import RepoAudit.Json.Arithmetic

/-!
Comparison of values. Whole numbers are compared as such, and a value can be compared with a double
if it counts as a number.
-/
namespace RepoAudit.Json

/-- Whether a value counts as a number. Truth values do. -/
def isNumber : Json → Bool
  | .bool _ | .int _ | .float _ => true
  | _ => false

/-- Whole numbers are compared as such. -/
theorem exceeds_int (m n : Int) : (int n).exceeds (.int m) = .ok (decide (m < n)) := by
  have hCompare : exceedsDyadic (n, 0) (m, 0) = decide (m < n) := by
    simp [exceedsDyadic, Int.pow]
  exact congrArg Except.ok hCompare

/-- What has an exact value is a number. -/
theorem isNumber_of_dyadic? {v : Json} {p : Int × Int} (h : dyadic? v = some p) :
    v.isNumber = true := by
  cases v <;> simp_all [dyadic?, isNumber]

/-- Exactly the numbers can be compared with a double. Infinite numbers and NaN can, too. -/
theorem exists_exceeds_iff (v : Json) (x : Float) :
    (∃ b, v.exceeds (.float x) = .ok b) ↔ v.isNumber = true := by
  rw [exceeds]
  cases hValue : dyadic? v with
  | none => cases v <;> simp [isNumber, int?]
  | some p =>
      have hNumber := isNumber_of_dyadic? hValue
      cases dyadic? (.float x) with
      | none => cases v <;> simp_all [isNumber, int?]
      | some q => simp [hNumber]

end RepoAudit.Json
