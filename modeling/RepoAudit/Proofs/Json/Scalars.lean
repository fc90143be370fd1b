import Mathlib.Data.List.Find
import Mathlib.Data.List.TakeWhile
import RepoAudit.Json.Reader
import RepoAudit.Json.Writer
import RepoAudit.Proofs.Text.Search

/-!
Reading back words and numbers. What follows a word or a number in a document is a comma, the end of
a line or nothing, and none of them can be taken for a part of it. Main statement: a whole number of
not too many digits comes back.
-/
namespace RepoAudit.Json

/-- What may follow a value in a document over several lines. -/
def AtBreak (rest : Text) : Prop := ∀ p ∈ rest.head?, p = .char ',' ∨ p = .char '\n'

variable {s left rest : Text} {v : Json}

section Following

/-- Digits are split off as far as they go. -/
theorem spanDigits_eq (s : Text) : spanDigits s =
    ((s.takeWhile (CodePoint.satisfies Char.isDigit)).filterMap CodePoint.char?,
      s.dropWhile (CodePoint.satisfies Char.isDigit)) := by
  rw [spanDigits, List.span_eq_takeWhile_dropWhile]

theorem spanDigits_append (h : AtBreak rest) (s : Text) :
    spanDigits (s ++ rest) = ((spanDigits s).1, (spanDigits s).2 ++ rest) := by
  have hStop : ∀ p ∈ rest.head?, p.satisfies Char.isDigit = false := by
    intro p hp
    rcases h p hp with rfl | rfl <;> rfl
  simp only [spanDigits_eq]
  induction s with
  | nil =>
      cases rest with
      | nil => rfl
      | cons p rest => simp [hStop p rfl]
  | cons p s ih =>
      cases hDigit : p.satisfies Char.isDigit with
      | true =>
          rw [Prod.mk.injEq] at ih
          simp [hDigit, List.filterMap_cons, ih]
      | false => simp [hDigit]

/-- Nothing of a number starts with a comma or with the end of a line. -/
theorem AtBreak.cases (h : AtBreak rest) :
    rest = [] ∨ ∃ after, rest = .char ',' :: after ∨ rest = .char '\n' :: after := by
  cases rest with
  | nil => exact .inl rfl
  | cons p after =>
      rcases h p rfl with rfl | rfl
      · exact .inr ⟨after, .inl rfl⟩
      · exact .inr ⟨after, .inr rfl⟩

theorem signed_append (h : AtBreak rest) (plus : Bool) (s : Text) :
    signed plus (s ++ rest) = ((signed plus s).1, (signed plus s).2 ++ rest) := by
  cases s with
  | nil => rcases h.cases with rfl | ⟨after, rfl | rfl⟩ <;> rfl
  | cons p s =>
      rw [List.cons_append]
      unfold signed
      split <;> cases plus <;> simp_all

def digits? (s : Text) : Option (List Char × Text) :=
  match spanDigits s with
  | ([], _) => none
  | found => some found

theorem digits?_append (h : AtBreak rest) (s : Text) :
    digits? (s ++ rest) = (digits? s).map fun (digits, left) => (digits, left ++ rest) := by
  rw [digits?, digits?, spanDigits_append h]
  rcases spanDigits s with ⟨_ | ⟨digit, digits⟩, left⟩ <;> rfl

theorem whole?_cons {p : CodePoint} (hZero : p ≠ .char '0') (s : Text) :
    whole? (p :: s) = digits? (p :: s) := by
  rw [whole?]
  · rfl
  · rintro rest hSame
    cases hSame
    exact hZero rfl

theorem whole?_append (h : AtBreak rest) (s : Text) :
    whole? (s ++ rest) = (whole? s).map fun (digits, left) => (digits, left ++ rest) := by
  cases s with
  | nil => rcases h.cases with rfl | ⟨after, rfl | rfl⟩ <;> rfl
  | cons p s =>
      by_cases hZero : p = .char '0'
      · rw [hZero]
        rfl
      · rw [List.cons_append, whole?_cons hZero, whole?_cons hZero, ← List.cons_append,
          digits?_append h]

theorem fraction?_append (h : AtBreak rest) (s : Text) :
    fraction? (s ++ rest) = (fraction? s).map fun (digits, left) => (digits, left ++ rest) := by
  cases s with
  | nil => rcases h.cases with rfl | ⟨after, rfl | rfl⟩ <;> rfl
  | cons p s =>
      by_cases hPoint : p = .char '.'
      · rw [hPoint]
        exact digits?_append h s
      · have hNone (t : Text) : fraction? (p :: t) = none := by simp [fraction?, hPoint]
        rw [List.cons_append, hNone, hNone]
        rfl

theorem exponent?_append (h : AtBreak rest) (s : Text) :
    exponent? (s ++ rest) = (exponent? s).map fun (e, left) => (e, left ++ rest) := by
  cases s with
  | nil => rcases h.cases with rfl | ⟨after, rfl | rfl⟩ <;> rfl
  | cons p s =>
      cases p with
      | surrogate offset => rfl
      | char c =>
          simp only [List.cons_append, exponent?, signed_append h, spanDigits_append h]
          cases c == 'e' || c == 'E' with
          | false => rfl
          | true => rcases spanDigits (signed true s).2 with ⟨_ | ⟨digit, digits⟩, left⟩ <;> rfl

theorem number_append (h : AtBreak rest) (hNumber : number s = .ok (v, left)) :
    number (s ++ rest) = .ok (v, left ++ rest) := by
  unfold number at hNumber ⊢
  rw [signed_append h]
  rcases hWhole : whole? (signed false s).2 with _ | ⟨whole, afterWhole⟩
  · simp [hWhole] at hNumber
  · simp only [whole?_append h, hWhole, Option.map_some] at hNumber ⊢
    rcases hFraction : fraction? afterWhole with _ | ⟨fraction, afterFraction⟩
    · simp only [fraction?_append h, hFraction, Option.map_none] at hNumber ⊢
      rcases hExponent : exponent? afterWhole with _ | ⟨exponent, afterExponent⟩
      · simp only [exponent?_append h, hExponent, Option.map_none, Bool.or_self,
          Bool.false_eq_true, if_false] at hNumber ⊢
        split at hNumber
        · cases hNumber
        · next hFew =>
            cases hNumber
            rw [if_neg hFew]
      · simp only [exponent?_append h, hExponent, Option.map_some] at hNumber ⊢
        cases hNumber
        rfl
    · simp only [fraction?_append h, hFraction, Option.map_some] at hNumber ⊢
      rcases hExponent : exponent? afterFraction with _ | ⟨exponent, afterExponent⟩
      · simp only [exponent?_append h, hExponent, Option.map_none] at hNumber ⊢
        cases hNumber
        rfl
      · simp only [exponent?_append h, hExponent, Option.map_some] at hNumber ⊢
        cases hNumber
        rfl

def wordAt? (s : Text) : Option (Text × Json) := words.find? fun entry => entry.1.isPrefixOf s

/-- A word is taken before a number is tried. -/
theorem scalar_of_word {entry : Text × Json} (h : wordAt? s = some entry) :
    scalar s = .ok (entry.2, s.drop entry.1.length) := by
  unfold scalar
  split
  · next word value hFound =>
      cases h.symm.trans hFound
      rfl
  · next hNone => cases h.symm.trans hNone

/-- Without a word a scalar is a number. -/
theorem scalar_of_no_word (h : wordAt? s = none) : scalar s = number s := by
  unfold scalar
  split
  · next word value hFound => cases h.symm.trans hFound
  · rfl

theorem prefix_of_wordAt? {entry : Text × Json} (h : wordAt? s = some entry) :
    entry ∈ words ∧ entry.1 <+: s := by
  have hStart : entry.1.isPrefixOf s = true := by simpa using List.find?_some h
  exact ⟨List.mem_of_find?_eq_some h, List.isPrefixOf_iff_prefix.1 hStart⟩

theorem isPrefixOf_append {word : Text} (hComma : .char ',' ∉ word) (hLine : .char '\n' ∉ word)
    (h : AtBreak rest) (s : Text) : word.isPrefixOf (s ++ rest) = word.isPrefixOf s := by
  rw [Bool.eq_iff_iff, List.isPrefixOf_iff_prefix, List.isPrefixOf_iff_prefix]
  rcases h.cases with rfl | ⟨after, rfl | rfl⟩
  · rw [List.append_nil]
  · exact prefix_append_cons_iff hComma
  · exact prefix_append_cons_iff hLine

theorem scalar_append (h : AtBreak rest) (hScalar : scalar s = .ok (v, left)) :
    scalar (s ++ rest) = .ok (v, left ++ rest) := by
  have hWords : ∀ entry ∈ words, .char ',' ∉ entry.1 ∧ .char '\n' ∉ entry.1 := by
    simp only [words, List.forall_mem_cons]
    decide
  have hSame : wordAt? (s ++ rest) = wordAt? s := List.find?_congr fun entry hEntry =>
    isPrefixOf_append (hWords entry hEntry).1 (hWords entry hEntry).2 h s
  cases hFound : wordAt? s with
  | none =>
      rw [scalar_of_no_word hFound] at hScalar
      rw [scalar_of_no_word (hSame.trans hFound), number_append h hScalar]
  | some entry =>
      have hLength := (prefix_of_wordAt? hFound).2.length_le
      rw [scalar_of_word hFound] at hScalar
      cases hScalar
      rw [scalar_of_word (hSame.trans hFound), List.drop_append_of_le_length hLength]

end Following

section Whole

/-- The numeral of a number is read as this number. -/
theorem natOfDigits_toDigits (n : Nat) : Decimal.natOfDigits (Nat.toDigits 10 n) = n := by
  have hSame := Nat.ofDigitChars_ten_toDigits (n := n)
  simpa only [Nat.ofDigitChars, Nat.mul_comm, Decimal.natOfDigits] using hSame

/-- Only zero is written with a zero in front. -/
theorem eq_zero_of_toDigits {n : Nat} {digits : List Char}
    (h : Nat.toDigits 10 n = '0' :: digits) : n = 0 := by
  induction n using Nat.strongRecOn generalizing digits with
  | ind n ih =>
      rw [Nat.toDigits_eq_if (by decide)] at h
      split at h
      · next hSmall =>
          have hDigit : ∀ n < 10, n.digitChar = '0' → n = 0 := by decide
          exact hDigit n hSmall (List.cons.inj h).1
      · next hLarge =>
          rcases List.append_eq_cons_iff.1 h with ⟨hNone, -⟩ | ⟨more, hFront, -⟩
          · exact absurd hNone Nat.toDigits_ne_nil
          · have hZero := ih (n / 10) (by omega) hFront
            omega

theorem satisfies_of_mem_ofNat {n : Nat} {p : CodePoint} (h : p ∈ Text.ofNat n) :
    p.satisfies Char.isDigit = true := by
  obtain ⟨c, hDigit, rfl⟩ := List.mem_map.1 h
  exact Nat.isDigit_of_mem_toDigits (by decide) (by decide) hDigit

/-- A numeral is read as a whole. -/
theorem whole?_ofNat (n : Nat) : whole? (Text.ofNat n) = some (Nat.toDigits 10 n, []) := by
  have hSpan : spanDigits (Text.ofNat n) = (Nat.toDigits 10 n, []) := by
    have hDigits := fun p (hp : p ∈ Text.ofNat n) => satisfies_of_mem_ofNat hp
    rw [spanDigits_eq, List.takeWhile_eq_self_iff.2 hDigits, List.dropWhile_eq_nil_iff.2 hDigits]
    simp [Text.ofNat, Text.ofChars, List.filterMap_map, CodePoint.char?, Function.comp_def]
  cases hText : Nat.toDigits 10 n with
  | nil => exact absurd hText Nat.toDigits_ne_nil
  | cons c digits =>
      have hNumeral : Text.ofNat n = .char c :: Text.ofChars digits := by
        rw [Text.ofNat, hText]
        rfl
      by_cases hZero : c = '0'
      · rw [hZero] at hText
        cases eq_zero_of_toDigits hText
        cases hText
        rw [hZero]
        rfl
      · rw [hNumeral, whole?_cons (by simpa using hZero), ← hNumeral, digits?, hSpan, hText]

/-- Digits alone make a whole number, unless there are too many. -/
theorem number_of_whole? {whole : List Char} (hWhole : whole? (signed false s).2 = some (whole, []))
    (hLimit : whole.length ≤ digitLimit) :
    number s = .ok (.int (if (signed false s).1 then -Decimal.natOfDigits whole
      else Decimal.natOfDigits whole), []) := by
  simp [number, hWhole, fraction?, exponent?, Nat.not_lt.2 hLimit]

/-- A numeral is not taken for a word. -/
theorem scalar_eq_number (h : ∀ p ∈ s, p.satisfies Char.isDigit = true ∨ p = .char '-') :
    scalar s = number s := by
  have hWords : ∀ entry ∈ words,
      ∃ p ∈ entry.1, ¬(p.satisfies Char.isDigit = true ∨ p = .char '-') := by
    simp only [words, List.forall_mem_cons]
    decide
  cases hFound : wordAt? s with
  | none => exact scalar_of_no_word hFound
  | some entry =>
      obtain ⟨hEntry, hStart⟩ := prefix_of_wordAt? hFound
      obtain ⟨p, hLetter, hMark⟩ := hWords entry hEntry
      exact absurd (h p (hStart.subset hLetter)) hMark

/-- A number below a power of ten has no more digits than that. -/
theorem length_toDigits_le {n limit : Nat} (hLimit : 0 < limit) (h : n < Nat.pow 10 limit) :
    (Nat.toDigits 10 n).length ≤ limit :=
  (Nat.length_toDigits_le_iff (by decide) hLimit).2 h

/-- A number that is shown has few enough digits to be read. -/
theorem length_le_digitLimit {n : Nat} (h : n < shownBound) :
    (Nat.toDigits 10 n).length ≤ digitLimit := by
  unfold shownBound at h
  exact length_toDigits_le (by decide) h

theorem signed_ofNat (n : Nat) : signed false (Text.ofNat n) = (false, Text.ofNat n) := by
  cases hText : Text.ofNat n with
  | nil => rfl
  | cons p rest =>
      have hDigit : p.satisfies Char.isDigit = true :=
        satisfies_of_mem_ofNat (hText ▸ List.mem_cons_self)
      rw [signed]
      all_goals
        rintro after hSame
        cases hSame
        cases hDigit

/-- A whole number of not too many digits is read as it was written. -/
theorem scalar_ofInt {n : Int} (h : n.natAbs < shownBound) :
    scalar (Text.ofInt n) = .ok (.int n, []) := by
  cases n with
  | ofNat k =>
      have hWhole : whole? (signed false (Text.ofNat k)).2 = some (Nat.toDigits 10 k, []) := by
        rw [signed_ofNat, whole?_ofNat]
      rw [Text.ofInt, scalar_eq_number fun p hp => .inl (satisfies_of_mem_ofNat hp),
        number_of_whole? hWhole (length_le_digitLimit h), signed_ofNat, natOfDigits_toDigits]
      rfl
  | negSucc k =>
      have hMarks : ∀ p ∈ .char '-' :: Text.ofNat (k + 1),
          p.satisfies Char.isDigit = true ∨ p = .char '-' := by
        intro p hp
        rcases List.mem_cons.1 hp with hSign | hDigit
        · exact .inr hSign
        · exact .inl (satisfies_of_mem_ofNat hDigit)
      have hWhole : whole? (signed false (.char '-' :: Text.ofNat (k + 1))).2 =
          some (Nat.toDigits 10 (k + 1), []) := whole?_ofNat (k + 1)
      rw [Text.ofInt, scalar_eq_number hMarks,
        number_of_whole? hWhole (length_le_digitLimit h), natOfDigits_toDigits]
      rfl

theorem ofChars_toChars_ofInt (n : Int) : Text.ofChars (Text.ofInt n).toChars = Text.ofInt n := by
  cases n <;>
    simp [Text.ofInt, Text.ofNat, Text.ofChars, Text.toChars, CodePoint.char?, Function.comp_def]

end Whole

end RepoAudit.Json
