import RepoAudit.Json.Display

/-!
What numbers look like. A number is shown with the characters of numerals only, so that no value
but a text is displayed as an ordinary word.
-/
namespace RepoAudit

/-- The characters of numerals, and of the words for what is no number. -/
def isNumeral (c : Char) : Bool := c.isDigit || ['.', '-', '+', 'e', 'n', 'a', 'i', 'f'].contains c

namespace Decimal

theorem isNumeral_of_isDigit {c : Char} (h : c.isDigit = true) : isNumeral c = true := by
  simp [isNumeral, h]

theorem numeral_toDigits (n : Nat) : ∀ c ∈ Nat.toDigits 10 n, isNumeral c = true := by
  intro c hMember
  exact isNumeral_of_isDigit (Nat.isDigit_of_mem_toDigits (by decide) (by decide) hMember)

theorem numeral_replicate (n : Nat) : ∀ c ∈ List.replicate n '0', isNumeral c = true := by
  intro c hMember
  rw [List.eq_of_mem_replicate hMember]
  decide

/-- The shortest digits of a double are numerals. -/
theorem numeral_shortest (b : Binary) : ∀ c ∈ b.shortest.digits, isNumeral c = true := by
  intro c hMember
  unfold Binary.shortest at hMember
  dsimp only at hMember
  split at hMember
  · rw [List.mem_singleton.1 hMember]
    decide
  · rw [List.mem_reverse] at hMember
    have hDigit := List.mem_reverse.1 ((List.dropWhile_sublist _).subset hMember)
    exact numeral_toDigits _ c hDigit

theorem numeral_exponentPart (e : Int) : ∀ c ∈ exponentPart e, isNumeral c = true := by
  have hSign : isNumeral (if e < 0 then '-' else '+') = true := by
    split <;> decide
  unfold exponentPart
  simp only [List.forall_mem_cons, List.forall_mem_append]
  exact ⟨by decide, hSign, numeral_replicate _, numeral_toDigits _⟩

/-- Numerals stay numerals with a point or an exponent. -/
theorem numeral_layout {d : Digits} (h : ∀ c ∈ d.digits, isNumeral c = true) :
    ∀ c ∈ shown.layout d, isNumeral c = true := by
  have hTake (n : Nat) : ∀ c ∈ d.digits.take n, isNumeral c = true :=
    fun c hMember => h c (List.mem_of_mem_take hMember)
  have hDrop (n : Nat) : ∀ c ∈ d.digits.drop n, isNumeral c = true :=
    fun c hMember => h c (List.mem_of_mem_drop hMember)
  unfold Format.layout
  split
  · split
    · simp only [List.forall_mem_append]
      exact ⟨⟨List.all_eq_true.1 (by decide), numeral_replicate _⟩, h⟩
    · dsimp only
      split
      · simp only [List.forall_mem_append]
        exact ⟨⟨h, numeral_replicate _⟩, List.all_eq_true.1 (by decide)⟩
      · simp only [List.forall_mem_append, List.forall_mem_cons]
        exact ⟨hTake _, by decide, hDrop _⟩
  · simp only [List.forall_mem_append]
    refine ⟨⟨hTake _, ?_⟩, numeral_exponentPart _⟩
    split
    · simp
    · simp only [List.forall_mem_cons]
      exact ⟨by decide, hDrop _⟩

theorem numeral_signed {negative : Bool} {cs : List Char} (h : ∀ c ∈ cs, isNumeral c = true) :
    ∀ c ∈ signed negative cs, isNumeral c = true := by
  unfold signed
  split
  · simp only [List.forall_mem_cons]
    exact ⟨by decide, h⟩
  · exact h

/-- A double is shown with the characters of numerals. -/
theorem numeral_write (x : Float) : ∀ c ∈ shown.write x, isNumeral c = true := by
  unfold Format.write
  split
  · exact List.all_eq_true.1 (by decide)
  · exact numeral_signed (List.all_eq_true.1 (by decide))
  · exact numeral_signed (List.all_eq_true.1 (by decide))
  · exact numeral_signed (numeral_layout (numeral_shortest _))

end Decimal

/-- A whole number is shown in numerals. -/
theorem Text.numeral_ofInt (n : Int) {c : Char} (h : CodePoint.char c ∈ Text.ofInt n) :
    isNumeral c = true := by
  have hNat (k : Nat) (hMember : CodePoint.char c ∈ Text.ofNat k) : isNumeral c = true := by
    obtain ⟨d, hDigit, hSame⟩ := List.mem_map.1 hMember
    cases hSame
    exact Decimal.numeral_toDigits k _ hDigit
  cases n with
  | ofNat k => exact hNat k h
  | negSucc k =>
      rcases List.mem_cons.1 h with hSign | hRest
      · cases hSign
        decide
      · exact hNat _ hRest

/-- Only the text is displayed as this word. -/
theorem Json.eq_request_of_display {v : Json} (h : v.display = "request") : v = .str "request" := by
  have hWord : isNumeral 'q' = false := by decide
  have hMember : CodePoint.char 'q' ∈ v.display := by
    rw [h]
    decide
  cases v with
  | null => exact absurd h (by decide)
  | bool b => cases b <;> exact absurd h (by decide)
  | int n => exact absurd (Text.numeral_ofInt n hMember) (by simp [hWord])
  | float x =>
      obtain ⟨c, hWrite, hSame⟩ := List.mem_map.1 hMember
      cases hSame
      exact absurd (Decimal.numeral_write x 'q' hWrite) (by simp [hWord])
  | str s => exact congrArg Json.str h
  | arr items =>
      have hHead := congrArg List.head? h
      simp [Json.display, Json.shown, bracketed, Text.ofString, Text.ofChars] at hHead
  | obj members =>
      have hHead := congrArg List.head? h
      simp [Json.display, Json.shown, bracketed, Text.ofString, Text.ofChars] at hHead

end RepoAudit
