import Mathlib.Algebra.Order.Field.Rat
import Mathlib.Tactic.NormNum.Basic
import Mathlib.Tactic.Ring
import RepoAudit.Json.Access

/-!
Equality of keys. Keys are values other than arrays and objects, and equal keys may differ in type.
Each key has a form that tells it apart, so that equality of keys is an equivalence.
-/
namespace RepoAudit.Json

/-- A value that can be a key. -/
def IsKey (v : Json) : Prop := v.asKey = .ok v

/-- A value is its own key, or none. -/
theorem asKey_eq_ok_iff {v key : Json} : v.asKey = .ok key ↔ key = v ∧ v.IsKey := by
  cases v <;> simp [IsKey, asKey, eq_comm]

/-- What a key amounts to. -/
inductive KeyForm where
  | null
  | number (value : ℚ)
  | other (double : Decimal.Class)
  | text (s : Text)

/-- The value of an exact fraction. -/
def dyadicValue (p : Int × Int) : ℚ := p.1 * 2 ^ p.2

/-- The form of a key. -/
def keyForm (v : Json) : KeyForm :=
  match dyadic? v, v with
  | some p, _ => .number (dyadicValue p)
  | none, .float x => .other (Decimal.classify x)
  | none, .str s => .text s
  | none, _ => .null

/-- Exact fractions are the same if they have the same value. -/
theorem sameDyadic_iff (p q : Int × Int) :
    sameDyadic p q = true ↔ dyadicValue p = dyadicValue q := by
  have hScale (p : Int × Int) (least : Int) (h : least ≤ p.2) :
      dyadicValue p = ((p.1 * Int.pow 2 (p.2 - least).toNat : Int) : ℚ) * 2 ^ least := by
    have hNat : ((p.2 - least).toNat : Int) = p.2 - least := Int.toNat_of_nonneg (by omega)
    have hPow : (2 : ℚ) ^ p.2 = 2 ^ (p.2 - least).toNat * 2 ^ least := by
      rw [← zpow_natCast, hNat, ← zpow_add₀ (by norm_num)]
      congr 1
      omega
    rw [dyadicValue, hPow]
    push_cast
    rw [Int.pow_eq]
    push_cast
    ring
  have hPos : (2 : ℚ) ^ min p.2 q.2 ≠ 0 := zpow_ne_zero _ (by norm_num)
  rw [hScale p (min p.2 q.2) (min_le_left _ _), hScale q (min p.2 q.2) (min_le_right _ _),
    mul_left_inj' hPos, Int.cast_inj]
  simp [sameDyadic]

variable {u v w : Json}

/-- A number is compared as a number, whatever it is compared with. -/
theorem same_of_dyadic? {p : Int × Int} (h : dyadic? v = some p) :
    same v w = sameNumber v w ∧ same w v = sameNumber w v := by
  cases v with
  | bool b => cases w <;> exact ⟨rfl, rfl⟩
  | int n => cases w <;> exact ⟨rfl, rfl⟩
  | float x => cases w <;> exact ⟨rfl, rfl⟩
  | null => cases h
  | str s => cases h
  | arr items => cases h
  | obj members => cases h

/-- The form of a number is its value. -/
theorem keyForm_of_dyadic? {p : Int × Int} (h : dyadic? v = some p) :
    keyForm v = .number (dyadicValue p) := by
  simp [keyForm, h]

/-- The form of what is no number is no value. -/
theorem keyForm_ne_number (h : dyadic? v = none) (value : ℚ) : keyForm v ≠ .number value := by
  cases v <;> simp [keyForm, h]

/-- Keys are equal if they have the same form. Where neither is a finite number, both are null,
texts or odd doubles. -/
theorem same_iff_keyForm (hv : v.IsKey) (hw : w.IsKey) :
    same v w = true ↔ keyForm v = keyForm w := by
  rcases hFirst : dyadic? v with _ | p
  · rcases hSecond : dyadic? w with _ | q
    · cases v <;> cases w <;>
        simp_all [IsKey, asKey, same, sameNumber, keyForm, dyadic?]
    · have hNumber := keyForm_of_dyadic? hSecond
      rw [(same_of_dyadic? hSecond).2, hNumber]
      simp [sameNumber, hFirst, hSecond, keyForm_ne_number hFirst]
  · have hNumber := keyForm_of_dyadic? hFirst
    rcases hSecond : dyadic? w with _ | q
    · rw [(same_of_dyadic? hFirst).1, hNumber]
      simp [sameNumber, hFirst, hSecond, (keyForm_ne_number hSecond _).symm]
    · rw [(same_of_dyadic? hFirst).1, hNumber, keyForm_of_dyadic? hSecond]
      simp [sameNumber, hFirst, hSecond, sameDyadic_iff]

/-- Keys are equal exactly if they have the same form. -/
theorem beq_iff_keyForm (hv : v.IsKey) (hw : w.IsKey) :
    (v == w) = true ↔ keyForm v = keyForm w :=
  same_iff_keyForm hv hw

theorem beq_self (hv : v.IsKey) : (v == v) = true := (beq_iff_keyForm hv hv).2 rfl

theorem beq_symm (hv : v.IsKey) (hw : w.IsKey) (h : (v == w) = true) : (w == v) = true := by
  rw [beq_iff_keyForm hv hw] at h
  rw [beq_iff_keyForm hw hv, h]

theorem beq_trans (hu : u.IsKey) (hv : v.IsKey) (hw : w.IsKey) (hFirst : (u == v) = true)
    (hSecond : (v == w) = true) : (u == w) = true := by
  rw [beq_iff_keyForm hu hv] at hFirst
  rw [beq_iff_keyForm hv hw] at hSecond
  rw [beq_iff_keyForm hu hw, hFirst, hSecond]

/-- A text is equal to no other value. -/
theorem eq_of_str_beq {s : Text} (h : (str s == v) = true) : v = str s := by
  cases v with
  | str other =>
      have hSame : s = other := eq_of_beq h
      rw [hSame]
  | null => cases h
  | bool b => cases h
  | int n => cases h
  | float x =>
      have hText : dyadic? (str s) = none := rfl
      change sameNumber (str s) (float x) = true at h
      unfold sameNumber at h
      rcases hDouble : dyadic? (float x) with _ | p
      · simp [hText, hDouble] at h
      · simp [hText, hDouble] at h
  | arr items => cases h
  | obj members => cases h

end RepoAudit.Json
