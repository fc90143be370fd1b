import RepoAudit.Json.Reader

/-!
Values that are the same in every part, found by a computation. Doubles are left out: they cannot be
compared. Main statement: a text is read as a value without doubles if the computation says so.
-/
namespace RepoAudit.Json

mutual

/-- Whether two values without doubles are the same, members in their order. -/
def agrees : Json → Json → Bool
  | .null, .null => true
  | .bool b, .bool c => b == c
  | .int m, .int n => m == n
  | .str s, .str t => s == t
  | .arr items, .arr others => itemsAgree items others
  | .obj members, .obj others => membersAgree members others
  | _, _ => false

def itemsAgree : List Json → List Json → Bool
  | [], [] => true
  | v :: items, w :: others => agrees v w && itemsAgree items others
  | _, _ => false

def membersAgree : List (Text × Json) → List (Text × Json) → Bool
  | [], [] => true
  | (name, v) :: members, (other, w) :: others =>
    name == other && agrees v w && membersAgree members others
  | _, _ => false

end

mutual

/-- Values that agree are equal, so a document can be read by evaluation. -/
theorem eq_of_agrees : ∀ {v w : Json}, agrees v w = true → v = w
  | .null, w, h => by cases w <;> simp_all [agrees]
  | .bool b, w, h => by cases w <;> simp_all [agrees]
  | .int n, w, h => by cases w <;> simp_all [agrees]
  | .float x, w, h => by cases w <;> simp_all [agrees]
  | .str s, w, h => by cases w <;> simp_all [agrees]
  | .arr items, w, h => by
      cases w with
      | arr others =>
          rw [agrees] at h
          rw [eq_of_itemsAgree h]
      | _ => simp [agrees] at h
  | .obj members, w, h => by
      cases w with
      | obj others =>
          rw [agrees] at h
          rw [eq_of_membersAgree h]
      | _ => simp [agrees] at h

theorem eq_of_itemsAgree : ∀ {items others : List Json}, itemsAgree items others = true →
    items = others
  | [], others, h => by cases others <;> simp_all [itemsAgree]
  | v :: items, others, h => by
      cases others with
      | nil => simp [itemsAgree] at h
      | cons w others =>
          rw [itemsAgree, Bool.and_eq_true] at h
          rw [eq_of_agrees h.1, eq_of_itemsAgree h.2]

theorem eq_of_membersAgree : ∀ {members others : List (Text × Json)},
    membersAgree members others = true → members = others
  | [], others, h => by cases others <;> simp_all [membersAgree]
  | (name, v) :: members, others, h => by
      cases others with
      | nil => simp [membersAgree] at h
      | cons other others =>
          rw [membersAgree, Bool.and_eq_true, Bool.and_eq_true, beq_iff_eq] at h
          rw [h.1.1, eq_of_agrees h.1.2, eq_of_membersAgree h.2]

end

/-- A text is read as the value with which the computed one agrees. -/
theorem read_eq_of_agrees {text : Text} {v : Json}
    (h : (read text).toOption.any (agrees v) = true) : read text = .ok v := by
  cases hRead : read text with
  | error stop => simp [hRead, Except.toOption] at h
  | ok w =>
      have hAgrees : agrees v w = true := by simpa [hRead, Except.toOption] using h
      rw [eq_of_agrees hAgrees]

end RepoAudit.Json
