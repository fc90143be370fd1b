import Mathlib.Data.List.Chain
import RepoAudit.Json.Reader
import RepoAudit.Json.Writer
import RepoAudit.Proofs.Step

/-!
Reading back strings. A string is written with its escapes and read without them. Main statement: a
text comes back unless it has a high surrogate right before a low one, because the escapes of such
two are read as one character.
-/
namespace RepoAudit

theorem Text.ofChars_append (first second : List Char) :
    Text.ofChars (first ++ second) = Text.ofChars first ++ Text.ofChars second :=
  List.map_append

namespace CodePoint

variable {p : CodePoint} {n : Nat}

/-- No character is a surrogate. -/
theorem toNat_char (c : Char) :
    c.toNat < 0xD800 ∨ 0xDFFF < c.toNat ∧ c.toNat < 0x110000 := c.valid

theorem toNat_lt (p : CodePoint) : p.toNat < 0x110000 := by
  cases p with
  | char c =>
      have hValid := toNat_char c
      rw [toNat]
      omega
  | surrogate offset =>
      have hOffset := offset.isLt
      rw [toNat]
      omega

/-- A code point is told by its number. -/
theorem ofNat_toNat (p : CodePoint) : ofNat p.toNat = p := by
  cases p with
  | char c =>
      have hValid := toNat_char c
      rw [toNat, ofNat, dif_neg (by omega), if_pos (by omega), Char.ofNat_toNat]
  | surrogate offset =>
      have hOffset := offset.isLt
      rw [toNat, ofNat, dif_pos (by omega)]
      simp

theorem eq_ofNat (h : p.toNat = n) : p = ofNat n := by rw [← h, ofNat_toNat]

end CodePoint

namespace Json

/-- A text in which no high surrogate stands right before a low one. -/
def Unpaired (t : Text) : Prop :=
  t.IsChain fun p q => ¬(isHigh p.toNat = true ∧ isLow q.toNat = true)

def codeUnit (n : Nat) : Text := .ofChars (unitEscape n)

/-- The code points of a text as they are written between quotes. -/
def escaped (t : Text) : Text := .ofChars (t.flatMap escapePoint)

variable {opened n : Nat} {p : CodePoint} {t rest after : Text}

section Hexadecimal

theorem hexPadded_succ {width : Nat} (hWidth : 0 < width) (n : Nat) :
    hexPadded (width + 1) n = hexPadded width (n / 16) ++ [(n % 16).digitChar] := by
  rw [hexPadded, hexPadded, Nat.toDigits_eq_if (by decide)]
  split
  · next hSmall =>
      have hZeros : List.replicate width '0' = List.replicate (width - 1) '0' ++ ['0'] := by
        rw [← List.replicate_succ', Nat.sub_add_cancel hWidth]
      have hDigit : Nat.toDigits 16 0 = ['0'] := Nat.toDigits_zero 16
      rw [Nat.div_eq_of_lt hSmall, Nat.mod_eq_of_lt hSmall, hDigit]
      simp [hZeros]
  · simp

/-- A UTF-16 unit has four hexadecimal digits. -/
theorem hexPadded_four (h : n < 0x10000) :
    hexPadded 4 n = [(n / 0x1000).digitChar, (n / 0x100 % 16).digitChar, (n / 16 % 16).digitChar,
      (n % 16).digitChar] := by
  have hFirst : n / 0x1000 < 16 := by omega
  have hOne : hexPadded 1 (n / 0x1000) = [(n / 0x1000).digitChar] := by
    simp [hexPadded, Nat.toDigits_of_lt_base hFirst]
  simp only [hexPadded_succ (by decide : 0 < 3), hexPadded_succ (by decide : 0 < 2),
    hexPadded_succ (by decide : 0 < 1), Nat.div_div_eq_div_mul, Nat.reduceMul, hOne]
  rfl

theorem hexValue?_digitChar (h : n < 16) : hexValue? n.digitChar = some n := by
  revert n
  decide

/-- Four hexadecimal digits are read as the number that they write. -/
theorem fourHex?_hexPadded (h : n < 0x10000) : ∃ a b c d, hexPadded 4 n = [a, b, c, d] ∧
    fourHex? (.char a) (.char b) (.char c) (.char d) = some n := by
  refine ⟨_, _, _, _, hexPadded_four h, ?_⟩
  have hFirst : n / 0x1000 < 16 := by omega
  simp only [fourHex?, List.mapM_cons, List.mapM_nil, CodePoint.char?, Option.bind_some,
    hexValue?_digitChar hFirst, hexValue?_digitChar (Nat.mod_lt _ (by decide : 0 < 16)),
    Option.pure_def, Option.bind_eq_bind, List.foldl_cons, List.foldl_nil, Option.some.injEq]
  omega

end Hexadecimal

/-- What is read after an escape is not the escape of a low surrogate. -/
def NoLowNext (rest : Text) : Prop :=
  ∀ e f g h more, rest = .char '\\' :: .char 'u' :: e :: f :: g :: h :: more →
    ∃ m, fourHex? e f g h = some m ∧ isLow m = false

theorem isHigh_iff : isHigh n = true ↔ 0xD800 ≤ n ∧ n < 0xDC00 := by simp [isHigh]

theorem isLow_iff : isLow n = true ↔ 0xDC00 ≤ n ∧ n < 0xE000 := by simp [isLow]

/-- No unit is both halves of a pair. -/
theorem isLow_of_isHigh (h : isHigh n = true) : isLow n = false := by
  rw [isHigh_iff] at h
  rw [← Bool.not_eq_true, isLow_iff]
  omega

/-- A character beyond the first plane is the pair that is written for it. -/
theorem joinPair_of_le (h : 0x10000 ≤ n) :
    joinPair (0xD800 + (n - 0x10000) / 0x400) (0xDC00 + (n - 0x10000) % 0x400) = n := by
  unfold joinPair
  omega

/-- A plain code point is read as itself. -/
theorem string_plain (hSpace : 0x20 ≤ p.toNat) (hQuote : p ≠ .char '"') (hSlash : p ≠ .char '\\')
    (hRest : string opened rest = .ok (t, after)) :
    string opened (p :: rest) = .ok (p :: t, after) := by
  rw [string]
  · rw [if_neg (Nat.not_lt.2 hSpace), hRest]
    rfl
  all_goals simp [hQuote, hSlash]

/-- An escape of one letter is read as what it stands for. -/
theorem string_short {c e : Char} (hShort : shortEscape? c = some e)
    (hRest : string opened rest = .ok (t, after)) :
    string opened (.char '\\' :: .char c :: rest) = .ok (.char e :: t, after) := by
  have hLetter : c ≠ 'u' := by
    rintro rfl
    simp [shortEscape?] at hShort
  rw [string]
  · simp only [CodePoint.char?, Option.bind_some, hShort, hRest]
    rfl
  all_goals simp [hLetter]

theorem ne_nil_of_string (hRest : string opened rest = .ok (t, after)) : rest ≠ [] := by
  rintro rfl
  simp [string] at hRest

theorem codeUnit_append (hUnit : n < 0x10000) (rest : Text) : ∃ a b c d, fourHex? a b c d = some n ∧
    codeUnit n ++ rest = .char '\\' :: .char 'u' :: a :: b :: c :: d :: rest := by
  obtain ⟨a, b, c, d, hPadded, hFour⟩ := fourHex?_hexPadded hUnit
  exact ⟨_, _, _, _, hFour, by simp [codeUnit, unitEscape, hPadded, Text.ofChars]⟩

/-- The escape of a unit that is not the first of a pair stands for the unit. A high surrogate looks
at the escape after it, all other units only at their own. -/
theorem string_codeUnit (hUnit : n < 0x10000) (hNext : isHigh n = true → NoLowNext rest)
    (hRest : string opened rest = .ok (t, after)) :
    string opened (codeUnit n ++ rest) = .ok (CodePoint.ofNat n :: t, after) := by
  obtain ⟨a, b, c, d, hFour, hText⟩ := codeUnit_append hUnit rest
  have hEmpty : rest.isEmpty = false := by simpa using ne_nil_of_string hRest
  rw [hText, string.eq_def]
  simp only [hEmpty, hFour, Bool.false_eq_true, if_false]
  split
  · next e f g h more =>
      split
      · next hPair =>
          obtain ⟨m, hNumber, hLow⟩ := hNext (Bool.and_eq_true_iff.1 hPair).1 e f g h more rfl
          simp only [hNumber, hLow, hRest]
          rfl
      · rw [hRest]
        rfl
  · rw [hRest]
    rfl

/-- The escapes of a pair stand for one character. -/
theorem string_pair {high low : Nat} (hHigh : isHigh high = true) (hLow : isLow low = true)
    (hRest : string opened rest = .ok (t, after)) :
    string opened (codeUnit high ++ (codeUnit low ++ rest)) =
      .ok (CodePoint.ofNat (joinPair high low) :: t, after) := by
  have hBounds : high < 0x10000 ∧ low < 0x10000 := by
    rw [isHigh_iff] at hHigh
    rw [isLow_iff] at hLow
    omega
  obtain ⟨a, b, c, d, hFirst, hText⟩ := codeUnit_append hBounds.1 (codeUnit low ++ rest)
  obtain ⟨e, f, g, h, hSecond, hMore⟩ := codeUnit_append hBounds.2 rest
  have hEmpty : rest.isEmpty = false := by simpa using ne_nil_of_string hRest
  rw [hText, hMore, string.eq_def]
  simp only [List.isEmpty_cons, hFirst, hHigh, hEmpty, hSecond, hLow, hRest, Bool.false_eq_true,
    if_false, Bool.not_false, Bool.and_self, if_true]
  rfl

/-- How a code point is written in a string. -/
inductive Escape : CodePoint → Text → Prop
  | plain {p : CodePoint} (hSpace : 0x20 ≤ p.toNat) (hQuote : p ≠ .char '"')
      (hSlash : p ≠ .char '\\') : Escape p [p]
  | short {c e : Char} (hShort : shortEscape? c = some e) :
      Escape (.char e) [.char '\\', .char c]
  | unit {p : CodePoint} (hUnit : p.toNat < 0x10000) : Escape p (codeUnit p.toNat)
  | pair {p : CodePoint} {high low : Nat} (hHigh : isHigh high = true) (hLow : isLow low = true)
      (hPair : p.toNat = joinPair high low) : Escape p (codeUnit high ++ codeUnit low)

/-- What is written for a code point is one of its escapes. -/
theorem escape_escapePoint (p : CodePoint) : Escape p (.ofChars (escapePoint p)) := by
  unfold escapePoint
  simp only [beq_iff_eq, Bool.and_eq_true, decide_eq_true_eq]
  split_ifs with hQuote hSlash hLine hReturn hTab hBack hFeed hPlain hUnit
  · exact CodePoint.eq_ofNat hQuote ▸ .short (c := '"') rfl
  · exact CodePoint.eq_ofNat hSlash ▸ .short (c := '\\') rfl
  · exact CodePoint.eq_ofNat hLine ▸ .short (c := 'n') rfl
  · exact CodePoint.eq_ofNat hReturn ▸ .short (c := 'r') rfl
  · exact CodePoint.eq_ofNat hTab ▸ .short (c := 't') rfl
  · exact CodePoint.eq_ofNat hBack ▸ .short (c := 'b') rfl
  · exact CodePoint.eq_ofNat hFeed ▸ .short (c := 'f') rfl
  · have hSelf : CodePoint.ofNat p.toNat = .char (Char.ofNat p.toNat) := by
      rw [CodePoint.ofNat, dif_neg (by omega), if_pos (by omega)]
    rw [CodePoint.ofNat_toNat] at hSelf
    rw [Text.ofChars, List.map_singleton, ← hSelf]
    exact .plain hPlain.1 (fun h => hQuote (h ▸ rfl)) (fun h => hSlash (h ▸ rfl))
  · exact .unit hUnit
  · have hLt := p.toNat_lt
    rw [Text.ofChars_append, ← codeUnit, ← codeUnit]
    exact .pair (isHigh_iff.2 (by omega)) (isLow_iff.2 (by omega))
      (joinPair_of_le (Nat.le_of_not_lt hUnit)).symm

variable {written : Text}

/-- What is written for a code point other than a low surrogate is not the escape of one. -/
theorem Escape.noLowNext (h : Escape p written) (hLow : isLow p.toNat = false) (rest : Text) :
    NoLowNext (written ++ rest) := by
  have hUnit {n : Nat} (hBound : n < 0x10000) (hLow : isLow n = false) (rest : Text) :
      NoLowNext (codeUnit n ++ rest) := by
    obtain ⟨a, b, c, d, hFour, hText⟩ := codeUnit_append hBound rest
    intro e f g h more hSame
    rw [hText] at hSame
    cases hSame
    exact ⟨n, hFour, hLow⟩
  cases h with
  | plain hSpace hQuote hSlash =>
      intro e f g h more hSame
      cases hSame
      exact absurd rfl hSlash
  | short hShort =>
      intro e f g h more hSame
      cases hSame
      simp [shortEscape?] at hShort
  | unit hBound => exact hUnit hBound hLow rest
  | pair hHigh hLow hPair =>
      rw [List.append_assoc]
      refine hUnit ?_ (isLow_of_isHigh hHigh) _
      rw [isHigh_iff] at hHigh
      omega

/-- A code point is read as it was written. -/
theorem Escape.string (h : Escape p written) (hNext : isHigh p.toNat = true → NoLowNext rest)
    (hRest : string opened rest = .ok (t, after)) :
    string opened (written ++ rest) = .ok (p :: t, after) := by
  cases h with
  | plain hSpace hQuote hSlash => exact string_plain hSpace hQuote hSlash hRest
  | short hShort => exact string_short hShort hRest
  | unit hUnit =>
      have hRead := string_codeUnit hUnit hNext hRest
      rwa [CodePoint.ofNat_toNat] at hRead
  | pair hHigh hLow hPair =>
      have hRead := string_pair hHigh hLow hRest
      rwa [← hPair, CodePoint.ofNat_toNat, ← List.append_assoc] at hRead

/-- Characters are no surrogates. -/
@[simp] theorem unpaired_ofChars (cs : List Char) : Unpaired (.ofChars cs) := by
  rw [Unpaired, Text.ofChars, List.isChain_map]
  refine (List.pairwise_of_forall fun c d hPair => ?_).isChain
  have hHigh : 0xD800 ≤ c.toNat ∧ c.toNat < 0xDC00 := isHigh_iff.1 hPair.1
  have hChar := CodePoint.toNat_char c
  omega

@[simp] theorem unpaired_ofString (s : String) : Unpaired (.ofString s) := unpaired_ofChars _

theorem escaped_cons (p : CodePoint) (t : Text) :
    escaped (p :: t) = .ofChars (escapePoint p) ++ escaped t := by
  simp [escaped, Text.ofChars]

/-- A text without pairs of surrogates is read as it was written. -/
theorem string_escaped (h : Unpaired t) (rest : Text) :
    string opened (escaped t ++ .char '"' :: rest) = .ok (t, rest) := by
  induction t with
  | nil => simp [escaped, Text.ofChars, string]
  | cons p t ih =>
      obtain ⟨hHead, hTail⟩ := List.isChain_cons.1 h
      rw [escaped_cons, List.append_assoc]
      refine (escape_escapePoint p).string (fun hHigh => ?_) (ih hTail)
      cases t with
      | nil =>
          intro e f g h more hSame
          cases hSame
      | cons q t =>
          have hLow : isLow q.toNat = false := by
            rw [← Bool.not_eq_true]
            exact fun hLow => hHead q rfl ⟨hHigh, hLow⟩
          rw [escaped_cons, List.append_assoc]
          exact (escape_escapePoint q).noLowNext hLow _

end Json

end RepoAudit
