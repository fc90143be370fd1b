import RepoAudit.Proofs.Entries
import RepoAudit.Proofs.Json.Scalars
import RepoAudit.Proofs.Json.Shape
import RepoAudit.Proofs.Json.Strings

/-!
Reading back documents. Main statement: a value whose document can be read comes back from its
document over several lines.
-/
namespace RepoAudit.Json

/-- A value whose document can be read. Whole numbers have not too many digits, doubles come back
from their own notation, texts have no pairs of surrogates, and no name stands twice in an
object. -/
inductive Legible : Json → Prop
  | null : Legible .null
  | bool (b : Bool) : Legible (.bool b)
  | int {n : Int} (hBound : n.natAbs < shownBound) : Legible (.int n)
  | float {x : Float}
      (hNotation : scalar (.ofChars (Decimal.document.write x)) = .ok (.float x, [])) :
      Legible (.float x)
  | str {t : Text} (hText : Unpaired t) : Legible (.str t)
  | arr {items : List Json} (hItems : ∀ item ∈ items, Legible item) : Legible (.arr items)
  | obj {members : List (Text × Json)} (hNames : (members.map Prod.fst).Nodup)
      (hTexts : ∀ member ∈ members, Unpaired member.1)
      (hItems : ∀ member ∈ members, Legible member.2) : Legible (.obj members)

/-- A value comes back from where it stands in a document, if there is fuel for its length. -/
def ComesBack (v : Json) : Prop :=
  ∀ (depth fuel : Nat) (rest : Text), 2 * (writeIndented depth v).length ≤ fuel → AtBreak rest →
    value fuel (.ofChars (writeIndented depth v) ++ rest) = .ok (v, rest)

variable {v : Json} {s rest : Text} {fuel depth : Nat} {result : Json × Text}

section Start

/-- Whether a word or a number can start with a character. -/
def startsScalar (c : Char) : Bool := c.isDigit || ['-', 'n', 't', 'f', 'N', 'I'].contains c

theorem starts_of_whole? {found : List Char × Text} (h : whole? s = some found) :
    ∃ c after, s = .char c :: after ∧ c.isDigit = true := by
  cases s with
  | nil => cases h
  | cons p after =>
      by_cases hZero : p = .char '0'
      · exact ⟨'0', after, by rw [hZero], rfl⟩
      · rw [whole?_cons hZero, digits?, spanDigits_eq] at h
        cases hDigit : p.satisfies Char.isDigit with
        | false => simp [hDigit] at h
        | true =>
            cases p with
            | char c => exact ⟨c, after, rfl, hDigit⟩
            | surrogate offset => cases hDigit

theorem starts_of_number (h : number s = .ok result) :
    ∃ c after, s = .char c :: after ∧ startsScalar c = true := by
  unfold number at h
  cases hWhole : whole? (signed false s).2 with
  | none => simp [hWhole] at h
  | some found =>
      obtain ⟨c, after, hRest, hDigit⟩ := starts_of_whole? hWhole
      unfold signed at hRest
      split at hRest
      · exact ⟨'-', _, rfl, rfl⟩
      · cases hRest
        cases hDigit
      · exact ⟨c, after, hRest, by simp [startsScalar, hDigit]⟩

/-- Whatever is read as a scalar starts like one. -/
theorem starts_of_scalar (h : scalar s = .ok result) :
    ∃ c after, s = .char c :: after ∧ startsScalar c = true := by
  have hWords : ∀ entry ∈ words, ∃ c after, entry.1 = .char c :: after ∧ startsScalar c = true := by
    simp only [words, List.forall_mem_cons]
    exact ⟨⟨_, _, rfl, rfl⟩, ⟨_, _, rfl, rfl⟩, ⟨_, _, rfl, rfl⟩, ⟨_, _, rfl, rfl⟩, ⟨_, _, rfl, rfl⟩,
      ⟨_, _, rfl, rfl⟩, by simp⟩
  cases hFound : wordAt? s with
  | none =>
      rw [scalar_of_no_word hFound] at h
      exact starts_of_number h
  | some entry =>
      obtain ⟨hEntry, more, rfl⟩ := prefix_of_wordAt? hFound
      obtain ⟨c, after, hWord, hStart⟩ := hWords entry hEntry
      rw [hWord]
      exact ⟨c, after ++ more, rfl, hStart⟩

/-- What is read as a word or a number is read as a value. -/
theorem value_of_scalar (h : scalar s = .ok result) : value (fuel + 1) s = .ok result := by
  obtain ⟨c, after, rfl, hStart⟩ := starts_of_scalar h
  rw [value]
  · exact h
  all_goals
    rintro rest hSame
    cases hSame
    cases hStart

def startsValue (c : Char) : Bool := startsScalar c || ['"', '[', '\x7b'].contains c

/-- Whatever is read as a value starts like one. -/
theorem starts_of_value (h : value fuel s = .ok result) :
    ∃ c after, s = .char c :: after ∧ startsValue c = true := by
  cases fuel with
  | zero => cases h
  | succ fuel =>
      rw [value.eq_def] at h
      simp only at h
      split at h
      · exact ⟨_, _, rfl, rfl⟩
      · exact ⟨_, _, rfl, rfl⟩
      · exact ⟨_, _, rfl, rfl⟩
      · obtain ⟨c, after, hText, hStart⟩ := starts_of_scalar h
        exact ⟨c, after, hText, by simp [startsValue, hStart]⟩

/-- No value starts with white space. -/
theorem isSpace_of_startsValue {c : Char} (h : startsValue c = true) : isSpace c = false := by
  cases hSpace : isSpace c with
  | false => rfl
  | true =>
      simp only [isSpace, Bool.or_eq_true, beq_iff_eq] at hSpace
      rcases hSpace with ((rfl | rfl) | rfl) | rfl <;> cases h

/-- There is no white space before a value that is read. -/
theorem skipSpace_of_value (h : value fuel s = .ok result) : skipSpace s = s := by
  obtain ⟨c, after, rfl, hStart⟩ := starts_of_value h
  simp [skipSpace, CodePoint.satisfies, isSpace_of_startsValue hStart]

end Start

section Containers

/-- A scalar that is read back alone comes back at every depth. -/
theorem comesBack_of_scalar (h : scalar (.ofChars (writeScalar v)) = .ok (v, []))
    (hWritten : ∀ depth, writeIndented depth v = writeScalar v) : ComesBack v := by
  intro depth fuel rest hFuel hBreak
  rw [hWritten] at hFuel ⊢
  obtain ⟨c, after, hText, -⟩ := starts_of_scalar h
  have hLength : (writeScalar v).length = after.length + 1 := by
    rw [← List.length_map CodePoint.char]
    exact congrArg List.length hText
  obtain ⟨fuel, rfl⟩ := Nat.exists_eq_add_of_lt (show 0 < fuel by omega)
  rw [Nat.zero_add]
  exact value_of_scalar (scalar_append hBreak h)

/-- A text comes back unless two surrogates in it would make a pair. -/
theorem comesBack_str {t : Text} (h : Unpaired t) : ComesBack (.str t) := by
  intro depth fuel rest hFuel hBreak
  have hText : Text.ofChars (writeIndented depth (.str t)) ++ rest =
      .char '"' :: (escaped t ++ .char '"' :: rest) := by
    simp [writeIndented, writeScalar, writeText, escaped, Text.ofChars]
  rw [hText]
  cases fuel with
  | zero => cases hFuel
  | succ fuel =>
      rw [value, string_escaped h]
      rfl

/-- A new line and its indentation are white space. -/
theorem skipSpace_newLine (depth : Nat) (s : Text) :
    skipSpace (.ofChars (newLine depth) ++ s) = skipSpace s := by
  refine List.dropWhile_append_of_pos fun p hp => ?_
  obtain ⟨c, hc, rfl⟩ := List.mem_map.1 hp
  rcases List.mem_cons.1 hc with rfl | hBlank
  · rfl
  · rw [List.eq_of_mem_replicate hBlank]
    rfl

/-- A new line may follow a value. -/
theorem atBreak_newLine (depth : Nat) (s : Text) : AtBreak (.ofChars (newLine depth) ++ s) := by
  intro p hp
  cases hp
  exact .inr rfl

theorem length_ofChars (cs : List Char) : (Text.ofChars cs).length = cs.length :=
  List.length_map _

def lines (depth : Nat) (parts : List (List Char)) : Text :=
  .ofChars (joinWith (',' :: newLine depth) parts)

theorem lines_cons_cons (depth : Nat) (part next : List Char) (parts : List (List Char)) :
    lines depth (part :: next :: parts) =
      Text.ofChars part ++ .char ',' :: (Text.ofChars (newLine depth) ++
        lines depth (next :: parts)) := by
  simp [lines, joinWith, Text.ofChars]

/-- A container that is not empty is written on lines of its own. -/
theorem ofChars_block {parts : List (List Char)} (hSome : parts ≠ []) (left right : Char)
    (depth : Nat) (rest : Text) :
    Text.ofChars (block left right depth parts) ++ rest =
      .char left :: (Text.ofChars (newLine (depth + 1)) ++ (lines (depth + 1) parts ++
        (Text.ofChars (newLine depth) ++ .char right :: rest))) := by
  simp [block, hSome, lines, Text.ofChars]

theorem value_of_itemsFrom {found : List Json × Text} (h : itemsFrom fuel s = .ok found) :
    ∃ fewer result, value fewer s = .ok result := by
  cases fuel with
  | zero => cases h
  | succ fuel =>
      rw [itemsFrom, bind_eq_ok_iff] at h
      obtain ⟨result, hValue, -⟩ := h
      exact ⟨fuel, result, hValue⟩

theorem skipSpace_of_itemsFrom {found : List Json × Text} (h : itemsFrom fuel s = .ok found) :
    skipSpace s = s := by
  obtain ⟨fewer, result, hValue⟩ := value_of_itemsFrom h
  exact skipSpace_of_value hValue

/-- The last item stands before the closing bracket. -/
theorem itemsFrom_last {item : Json} {tail : Text} (hValue : value fuel s = .ok (item, tail))
    (hEnd : skipSpace tail = .char ']' :: rest) : itemsFrom (fuel + 1) s = .ok ([item], rest) := by
  rw [itemsFrom, hValue]
  simp only [bind, Except.bind, hEnd]
  rfl

/-- After a comma there are more items. -/
theorem itemsFrom_more {item : Json} {items : List Json} {tail : Text}
    (hValue : value fuel s = .ok (item, .char ',' :: tail))
    (hMore : itemsFrom fuel (skipSpace tail) = .ok (items, rest)) :
    itemsFrom (fuel + 1) s = .ok (item :: items, rest) := by
  have hComma : skipSpace (.char ',' :: tail) = .char ',' :: tail := rfl
  rw [itemsFrom, hValue]
  simp only [bind, Except.bind, hComma, hMore]
  rfl

/-- Items on lines of their own are read up to the bracket that closes them. Each item takes one
unit of fuel, and at least one code point that paid for two. -/
theorem itemsFrom_lines {items : List Json} (h : ∀ item ∈ items, ComesBack item)
    (hSome : items ≠ []) (depth outer : Nat) (rest : Text)
    (hFuel : 2 * (lines depth (indentedItems depth items)).length < fuel) :
    itemsFrom fuel (lines depth (indentedItems depth items) ++
      (Text.ofChars (newLine outer) ++ .char ']' :: rest)) = .ok (items, rest) := by
  induction items generalizing fuel with
  | nil => exact absurd rfl hSome
  | cons item items ih =>
      obtain ⟨hItem, hLater⟩ := List.forall_mem_cons.1 h
      obtain ⟨fuel, rfl⟩ := Nat.exists_eq_succ_of_ne_zero (Nat.ne_zero_of_lt hFuel)
      cases items with
      | nil =>
          have hLength : (lines depth (indentedItems depth [item])).length =
              (writeIndented depth item).length := List.length_map _
          exact itemsFrom_last (hItem depth fuel _ (by omega) (atBreak_newLine outer _))
            (skipSpace_newLine outer _)
      | cons next items =>
          simp only [indentedItems, lines_cons_cons, List.append_assoc, List.cons_append,
            List.length_append, List.length_cons, length_ofChars] at hFuel ih ⊢
          have hNext := @ih fuel hLater (List.cons_ne_nil _ _) (by omega)
          refine itemsFrom_more (hItem depth fuel _ (by omega) ?_) ?_
          · simp [AtBreak]
          · rw [skipSpace_newLine, skipSpace_of_itemsFrom hNext, hNext]

/-- An array is read by its items. -/
theorem value_arr {inner : Text} {items : List Json}
    (h : itemsFrom fuel (skipSpace inner) = .ok (items, rest)) :
    value (fuel + 1) (.char '[' :: inner) = .ok (.arr items, rest) := by
  obtain ⟨fewer, result, hValue⟩ := value_of_itemsFrom h
  obtain ⟨c, after, hText, hStart⟩ := starts_of_value hValue
  rw [value]
  split
  · next hClose =>
      rw [hText] at hClose
      cases hClose
      cases hStart
  · rw [h]
    rfl

theorem indentedItems_ne_nil {items : List Json} (h : items ≠ []) (depth : Nat) :
    indentedItems depth items ≠ [] := by
  cases items with
  | nil => exact absurd rfl h
  | cons item items => exact List.cons_ne_nil _ _

/-- An array comes back if its items do. -/
theorem comesBack_arr {items : List Json} (h : ∀ item ∈ items, ComesBack item) :
    ComesBack (.arr items) := by
  intro depth fuel rest hFuel hBreak
  by_cases hSome : items = []
  · subst hSome
    cases fuel with
    | zero => cases hFuel
    | succ fuel => rfl
  · have hText := ofChars_block (indentedItems_ne_nil hSome (depth + 1)) '[' ']' depth rest
    have hLength := congrArg List.length hText
    simp only [List.length_append, List.length_cons, length_ofChars] at hLength
    rw [writeIndented] at hFuel ⊢
    rw [hText]
    obtain ⟨fuel, rfl⟩ := Nat.exists_eq_succ_of_ne_zero (show fuel ≠ 0 by omega)
    have hRead := @itemsFrom_lines fuel items h hSome (depth + 1) depth rest (by omega)
    refine value_arr ?_
    rw [skipSpace_newLine, skipSpace_of_itemsFrom hRead, hRead]

theorem ofChars_member (name : Text) (item : Json) (depth : Nat) (rest : Text) :
    Text.ofChars (writeText name ++ ": ".toList ++ writeIndented depth item) ++ rest =
      .char '"' :: (escaped name ++ .char '"' :: .char ':' :: .char ' ' ::
        (Text.ofChars (writeIndented depth item) ++ rest)) := by
  simp [writeText, escaped, Text.ofChars]

theorem lines_members (name : Text) (item : Json) (next : Text × Json)
    (members : List (Text × Json)) (depth : Nat) (rest : Text) :
    lines depth (indentedMembers depth ((name, item) :: next :: members)) ++ rest =
      .char '"' :: (escaped name ++ .char '"' :: .char ':' :: .char ' ' ::
        (Text.ofChars (writeIndented depth item) ++ .char ',' :: (Text.ofChars (newLine depth) ++
          (lines depth (indentedMembers depth (next :: members)) ++ rest)))) := by
  rw [indentedMembers, indentedMembers, lines_cons_cons, List.append_assoc, List.cons_append,
    List.append_assoc (Text.ofChars (newLine depth)), ofChars_member]

/-- The last member stands before the closing brace. -/
theorem membersFrom_last {name inner tail after : Text} {item : Json}
    (hName : string (inner.length + 1) inner = .ok (name, .char ':' :: after))
    (hValue : value fuel (skipSpace after) = .ok (item, tail))
    (hEnd : skipSpace tail = .char '\x7d' :: rest) :
    membersFrom (fuel + 1) (.char '"' :: inner) = .ok ([(name, item)], rest) := by
  have hColon : skipSpace (.char ':' :: after) = .char ':' :: after := rfl
  rw [membersFrom, List.length_cons, hName]
  simp only [bind, Except.bind, hColon, hValue, hEnd]
  rfl

/-- After a comma there are more members. -/
theorem membersFrom_more {name inner tail after : Text} {item : Json}
    {members : List (Text × Json)}
    (hName : string (inner.length + 1) inner = .ok (name, .char ':' :: after))
    (hValue : value fuel (skipSpace after) = .ok (item, .char ',' :: tail))
    (hMore : membersFrom fuel (skipSpace tail) = .ok (members, rest)) :
    membersFrom (fuel + 1) (.char '"' :: inner) = .ok ((name, item) :: members, rest) := by
  have hColon : skipSpace (.char ':' :: after) = .char ':' :: after := rfl
  have hComma : skipSpace (.char ',' :: tail) = .char ',' :: tail := rfl
  rw [membersFrom, List.length_cons, hName]
  simp only [bind, Except.bind, hColon, hValue, hComma, hMore]
  rfl

theorem starts_of_membersFrom {found : List (Text × Json) × Text}
    (h : membersFrom fuel s = .ok found) : ∃ after, s = .char '"' :: after := by
  cases fuel with
  | zero => cases h
  | succ fuel =>
      rw [membersFrom.eq_def] at h
      simp only at h
      split at h
      · exact ⟨_, rfl⟩
      · cases h

theorem skipSpace_of_membersFrom {found : List (Text × Json) × Text}
    (h : membersFrom fuel s = .ok found) : skipSpace s = s := by
  obtain ⟨after, rfl⟩ := starts_of_membersFrom h
  rfl

theorem value_after_blank (h : value fuel s = .ok result) :
    value fuel (skipSpace (.char ' ' :: s)) = .ok result := by
  have hBlank : skipSpace (.char ' ' :: s) = skipSpace s := rfl
  rw [hBlank, skipSpace_of_value h, h]

/-- Members on lines of their own are read up to the brace that closes them. -/
theorem membersFrom_lines {members : List (Text × Json)}
    (hTexts : ∀ member ∈ members, Unpaired member.1) (h : ∀ member ∈ members, ComesBack member.2)
    (hSome : members ≠ []) (depth outer : Nat) (rest : Text)
    (hFuel : 2 * (lines depth (indentedMembers depth members)).length < fuel) :
    membersFrom fuel (lines depth (indentedMembers depth members) ++
      (Text.ofChars (newLine outer) ++ .char '\x7d' :: rest)) = .ok (members, rest) := by
  induction members generalizing fuel with
  | nil => exact absurd rfl hSome
  | cons member members ih =>
      obtain ⟨name, item⟩ := member
      obtain ⟨hText, hLaterTexts⟩ := List.forall_mem_cons.1 hTexts
      obtain ⟨hItem : ComesBack item, hLater⟩ := List.forall_mem_cons.1 h
      obtain ⟨fuel, rfl⟩ := Nat.exists_eq_succ_of_ne_zero (Nat.ne_zero_of_lt hFuel)
      cases members with
      | nil =>
          rw [indentedMembers, indentedMembers, lines, joinWith] at hFuel ⊢
          simp only [length_ofChars, List.length_append] at hFuel
          have hRead := hItem depth fuel _ (by omega)
            (atBreak_newLine outer (.char '\x7d' :: rest))
          rw [ofChars_member]
          exact membersFrom_last (string_escaped hText _) (value_after_blank hRead)
            (skipSpace_newLine outer (.char '\x7d' :: rest))
      | cons next members =>
          have hLength := congrArg List.length (lines_members name item next members depth [])
          simp only [List.append_nil, List.length_append, List.length_cons, length_ofChars]
            at hLength
          have hNext := @ih fuel hLaterTexts hLater (List.cons_ne_nil _ _) (by omega)
          rw [lines_members]
          refine membersFrom_more (string_escaped hText _)
            (value_after_blank (hItem depth fuel _ (by omega) ?_)) ?_
          · simp [AtBreak]
          · rw [skipSpace_newLine, skipSpace_of_membersFrom hNext, hNext]

/-- An object is read by its members. -/
theorem value_obj {inner : Text} {members : List (Text × Json)}
    (h : membersFrom fuel (skipSpace inner) = .ok (members, rest)) :
    value (fuel + 1) (.char '\x7b' :: inner) = .ok (.obj (setEntries members []), rest) := by
  obtain ⟨after, hText⟩ := starts_of_membersFrom h
  rw [value]
  split
  · next hClose =>
      rw [hText] at hClose
      cases hClose
  · rw [h]
    rfl

theorem indentedMembers_ne_nil {members : List (Text × Json)} (h : members ≠ []) (depth : Nat) :
    indentedMembers depth members ≠ [] := by
  cases members with
  | nil => exact absurd rfl h
  | cons member members => exact List.cons_ne_nil _ _

/-- An object comes back if its names differ and its members come back. -/
theorem comesBack_obj {members : List (Text × Json)} (hNames : (members.map Prod.fst).Nodup)
    (hTexts : ∀ member ∈ members, Unpaired member.1) (h : ∀ member ∈ members, ComesBack member.2) :
    ComesBack (.obj members) := by
  intro depth fuel rest hFuel hBreak
  by_cases hSome : members = []
  · subst hSome
    cases fuel with
    | zero => cases hFuel
    | succ fuel => rfl
  · have hText := ofChars_block (indentedMembers_ne_nil hSome (depth + 1)) '\x7b' '\x7d' depth rest
    have hLength := congrArg List.length hText
    simp only [List.length_append, List.length_cons, length_ofChars] at hLength
    rw [writeIndented] at hFuel ⊢
    rw [hText]
    obtain ⟨fuel, rfl⟩ := Nat.exists_eq_succ_of_ne_zero (show fuel ≠ 0 by omega)
    have hRead := @membersFrom_lines fuel members hTexts h hSome (depth + 1) depth rest (by omega)
    have hKept : setEntries members [] = members := setEntries_of_nodup hNames
    rw [← skipSpace_of_membersFrom hRead, ← skipSpace_newLine (depth + 1)] at hRead
    have hValue := value_obj hRead
    rwa [hKept] at hValue

end Containers

/-- Every legible value comes back. -/
theorem Legible.comesBack (h : v.Legible) : ComesBack v := by
  induction h with
  | null => exact comesBack_of_scalar rfl fun _ => rfl
  | bool b => cases b <;> exact comesBack_of_scalar rfl fun _ => rfl
  | int hBound =>
      refine comesBack_of_scalar ?_ fun _ => rfl
      rw [writeScalar, ofChars_toChars_ofInt]
      exact scalar_ofInt hBound
  | float hNotation => exact comesBack_of_scalar hNotation fun _ => rfl
  | str hText => exact comesBack_str hText
  | arr hItems ih => exact comesBack_arr ih
  | obj hNames hTexts hItems ih => exact comesBack_obj hNames hTexts ih

/-- A legible value is read as it was written. What a value starts with is no mark of the order of
bytes. -/
theorem Legible.read_pretty (h : v.Legible) : read v.pretty = .ok v := by
  have hFuel : 2 * (writeIndented 0 v).length ≤ 2 * v.pretty.length + 2 := by
    rw [pretty, length_ofChars]
    omega
  have hRead := h.comesBack 0 _ [] hFuel (by simp [AtBreak])
  rw [List.append_nil, ← pretty] at hRead
  obtain ⟨c, after, hText, hStart⟩ := starts_of_value hRead
  have hMark : (v.pretty.head? == some (.char '\uFEFF')) = false := by
    rw [hText, List.head?_cons, beq_eq_false_iff_ne]
    rintro hSame
    cases hSame
    cases hStart
  rw [read, hMark, skipSpace_of_value hRead, hRead]
  rfl

section Parts

variable {part : Json} {name : Text} {names : List Text}

/-- The members of a legible value are legible. -/
theorem Legible.member? (h : v.Legible) (hPart : v.member? name = some part) : part.Legible := by
  cases h with
  | obj hNames hTexts hItems =>
      obtain ⟨found, hMember, -⟩ := exists_of_lookup hPart
      exact hItems _ hMember
  | null => cases hPart
  | bool b => cases hPart
  | int hBound => cases hPart
  | float hNotation => cases hPart
  | str hText => cases hPart
  | arr hItems => cases hPart

/-- What a way through a legible value leads to is legible. -/
theorem Legible.follow? (h : v.Legible) (hPart : v.follow? names = some part) : part.Legible := by
  induction names generalizing v with
  | nil =>
      cases hPart
      exact h
  | cons name names ih =>
      obtain ⟨member, hMember, hRest⟩ := Option.bind_eq_some_iff.1 hPart
      exact ih (h.member? hMember) hRest

@[simp] theorem legible_str_iff {t : Text} : (str t).Legible ↔ Unpaired t := by
  constructor
  · intro h
    cases h with
    | str hText => exact hText
  · exact .str

@[simp] theorem legible_arr_iff {items : List Json} :
    (arr items).Legible ↔ ∀ item ∈ items, item.Legible := by
  constructor
  · intro h
    cases h with
    | arr hItems => exact hItems
  · exact .arr

@[simp] theorem legible_obj_iff {members : List (Text × Json)} :
    (obj members).Legible ↔ (members.map Prod.fst).Nodup ∧
      ∀ member ∈ members, Unpaired member.1 ∧ member.2.Legible := by
  constructor
  · intro h
    cases h with
    | obj hNames hTexts hItems =>
        exact ⟨hNames, fun member hMember => ⟨hTexts member hMember, hItems member hMember⟩⟩
  · rintro ⟨hNames, hMembers⟩
    exact .obj hNames (fun member hMember => (hMembers member hMember).1)
      fun member hMember => (hMembers member hMember).2

theorem Legible.itemsOf (h : v.Legible) (hPart : part ∈ v.itemsOf name) : part.Legible := by
  unfold Json.itemsOf at hPart
  split at hPart
  · next hItems => exact legible_arr_iff.1 (h.member? hItems) part hPart
  · cases hPart

/-- A legible default keeps a value legible. -/
theorem Legible.getD {found : Option Json} {default : Json}
    (h : ∀ part, found = some part → part.Legible) (hDefault : default.Legible) :
    (found.getD default).Legible := by
  cases found with
  | none => exact hDefault
  | some part => exact h part rfl

end Parts

end RepoAudit.Json
