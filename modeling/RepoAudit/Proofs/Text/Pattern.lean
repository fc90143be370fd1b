import Mathlib.Data.List.DropRight
import Mathlib.Data.List.Infix
import Mathlib.Data.List.TakeWhile
import RepoAudit.Proofs.Text.Search
import RepoAudit.Text.Scanner

/-!
What patterns read and what a search finds. A pattern is known by the shape of the texts that it
reads: one lemma for each way to build a pattern. Main statement: a search misses a match only if
that starts inside of an earlier one.
-/
namespace RepoAudit

/-- A text of white space only. -/
def Text.Blank (t : Text) : Prop := ∀ c ∈ t, c.satisfies isBlank = true

theorem Text.trim_eq_nil_iff {t : Text} : t.trim = [] ↔ t.Blank := by
  have hEnds : t.trim = [] ↔ Text.Blank (t.dropWhile (·.satisfies isBlank)) := by
    simp [Text.trim, trimBoth, Text.Blank]
  rw [hEnds, Text.Blank, ← List.dropWhile_eq_nil_iff, List.dropWhile_idempotent,
    List.dropWhile_eq_nil_iff, Text.Blank]

namespace Pattern

variable {α β : Type} {p : Pattern α} {next : α → Pattern β}

/-- A pattern reads exactly the texts of a shape, whatever follows them. -/
def Reads (p : Pattern α) (shape : α → Text → Prop) : Prop :=
  ∀ s a after, p.run s = some (a, after) ↔ ∃ t, shape a t ∧ s = t ++ after

theorem Reads.congr {shape other : α → Text → Prop} (h : p.Reads shape)
    (hSame : ∀ a t, shape a t ↔ other a t) : p.Reads other := by
  intro s a after
  simp only [h s a after, hSame]

theorem reads_pure (a : α) : Reads (pure a) fun b t => b = a ∧ t = [] := by
  intro s b after
  constructor
  · intro h
    cases h
    exact ⟨[], ⟨rfl, rfl⟩, rfl⟩
  · rintro ⟨t, ⟨rfl, rfl⟩, rfl⟩
    rfl

theorem reads_failure : Reads (failure : Pattern α) fun _ _ => False := by
  intro s a after
  constructor
  · intro h
    cases h
  · rintro ⟨t, hNone, -⟩
    exact hNone.elim

/-- Two patterns in turn succeed where both do. -/
theorem run_bind_eq_some {s after : Text} {b : β} : (p >>= next).run s = some (b, after) ↔
    ∃ a middle, p.run s = some (a, middle) ∧ (next a).run middle = some (b, after) := by
  rw [StateT.run_bind]
  cases hFirst : p.run s with
  | none => simp
  | some found =>
      obtain ⟨a, middle⟩ := found
      simp

/-- Two patterns in turn read two texts in turn. -/
theorem reads_bind {shape : α → Text → Prop} {rest : α → β → Text → Prop} (hFirst : p.Reads shape)
    (hNext : ∀ a, (next a).Reads (rest a)) :
    (p >>= next).Reads fun b t => ∃ a u v, shape a u ∧ rest a b v ∧ t = u ++ v := by
  intro s b after
  rw [run_bind_eq_some]
  constructor
  · rintro ⟨a, middle, hRun, hRest⟩
    obtain ⟨u, hShape, rfl⟩ := (hFirst _ _ _).1 hRun
    obtain ⟨v, hTail, rfl⟩ := (hNext a _ _ _).1 hRest
    exact ⟨u ++ v, ⟨a, u, v, hShape, hTail, rfl⟩, (List.append_assoc ..).symm⟩
  · rintro ⟨_, ⟨a, u, v, hShape, hTail, rfl⟩, rfl⟩
    exact ⟨a, v ++ after, (hFirst _ _ _).2 ⟨u, hShape, List.append_assoc ..⟩,
      (hNext a _ _ _).2 ⟨v, hTail, rfl⟩⟩

theorem reads_discard {shape : α → Text → Prop} (h : p.Reads shape) :
    (discard p).Reads fun _ t => ∃ a, shape a t := by
  intro s _ after
  have hRun : (discard p).run s = some ((), after) ↔ ∃ a, p.run s = some (a, after) := by
    change ((fun _ => ()) <$> p).run s = _ ↔ _
    rw [StateT.run_map]
    cases p.run s with
    | none => simp
    | some found =>
        obtain ⟨a, rest⟩ := found
        simp
  rw [hRun]
  constructor
  · rintro ⟨a, hFound⟩
    obtain ⟨t, hShape, rfl⟩ := (h _ _ _).1 hFound
    exact ⟨t, ⟨a, hShape⟩, rfl⟩
  · rintro ⟨t, ⟨a, hShape⟩, rfl⟩
    exact ⟨a, (h _ _ _).2 ⟨t, hShape, rfl⟩⟩

/-- A fixed text is read as it is. -/
theorem reads_exactly (t : Text) : Reads (exactly t) fun _ u => u = t := by
  intro s _ after
  have hRun : (exactly t).run s = (dropLead? t s).map fun rest => ((), rest) := by
    change ((dropLead? t s).bind fun rest => some (rest, s)).bind (fun r => some ((), r.1)) = _
    cases dropLead? t s <;> rfl
  simp [hRun, dropLead?_eq_some]

/-- Of several texts none of which starts with another, the one that stands here is read. -/
theorem reads_anyOf {ts : List Text} (h : ∀ t ∈ ts, ∀ u ∈ ts, t <+: u → t = u) :
    Reads (anyOf ts) fun t u => t ∈ ts ∧ u = t := by
  intro s t after
  have hRun : (anyOf ts).run s =
      (ts.find? fun t => t.isPrefixOf s).map fun t => (t, s.drop t.length) := by
    unfold anyOf
    simp only [StateT.run_bind, StateT.run_get, pure_bind]
    cases ts.find? fun t => t.isPrefixOf s with
    | none => rfl
    | some found => rfl
  rw [hRun, Option.map_eq_some_iff]
  constructor
  · rintro ⟨found, hFound, hPair⟩
    cases hPair
    have hHere := List.find?_some hFound
    obtain ⟨rest, rfl⟩ := List.isPrefixOf_iff_prefix.1 hHere
    exact ⟨t, ⟨List.mem_of_find?_eq_some hFound, rfl⟩, by simp⟩
  · rintro ⟨u, ⟨hMember, rfl⟩, rfl⟩
    have hHere : u.isPrefixOf (u ++ after) = true :=
      List.isPrefixOf_iff_prefix.2 (List.prefix_append ..)
    cases hFound : ts.find? fun t => t.isPrefixOf (u ++ after) with
    | none => exact absurd hHere (List.find?_eq_none.1 hFound u hMember)
    | some found =>
        have hAlso := List.find?_some hFound
        have hOrder := List.prefix_or_prefix_of_prefix (List.isPrefixOf_iff_prefix.1 hAlso)
          (List.prefix_append u after)
        have hFoundIn := List.mem_of_find?_eq_some hFound
        have hSame : found = u := by
          rcases hOrder with hStarts | hStarts
          · exact h found hFoundIn u hMember hStarts
          · exact (h u hMember found hFoundIn hStarts).symm
        subst hSame
        exact ⟨found, rfl, by simp⟩

/-- One code point of a class is read. -/
theorem reads_one (q : CodePoint → Bool) :
    Reads (one q) fun c t => q c = true ∧ t = [c] := by
  intro s c after
  cases s with
  | nil =>
      constructor
      · intro h
        cases h
      · rintro ⟨t, ⟨-, rfl⟩, hNil⟩
        cases hNil
  | cons d s =>
      have hRun : (one q).run (d :: s) = if q d then some (d, s) else none := by
        change (if q d then (do set s; return d : Pattern CodePoint) else failure).run (d :: s) = _
        split <;> rfl
      rw [hRun]
      cases hClass : q d <;> grind

def StartsOff (q : CodePoint → Bool) (t : Text) : Prop := ∃ c rest, t = c :: rest ∧ q c = false

/-- The longest run of a class is read up to what cannot belong to it. -/
theorem reads_many_bind {q : CodePoint → Bool} {next : Text → Pattern β}
    {rest : Text → β → Text → Prop} (hNext : ∀ a, (next a).Reads (rest a))
    (hOff : ∀ a b t, rest a b t → StartsOff q t) :
    (many q >>= next).Reads fun b t => ∃ u v, (∀ c ∈ u, q c = true) ∧ rest u b v ∧ t = u ++ v := by
  intro s b after
  have hMany : (many q).run s = some (s.takeWhile q, s.dropWhile q) := by
    change some ((s.span q).1, (s.span q).2) = _
    rw [List.span_eq_takeWhile_dropWhile]
  rw [run_bind_eq_some, hMany]
  constructor
  · rintro ⟨u, middle, hRun, hRest⟩
    cases hRun
    obtain ⟨v, hTail, hDrop⟩ := (hNext _ _ _ _).1 hRest
    have hClass : ∀ c ∈ s.takeWhile q, q c = true := fun c hMember => List.mem_takeWhile_imp hMember
    refine ⟨s.takeWhile q ++ v, ⟨_, v, hClass, hTail, rfl⟩, ?_⟩
    rw [List.append_assoc, ← hDrop, List.takeWhile_append_dropWhile]
  · rintro ⟨_, ⟨u, v, hClass, hTail, rfl⟩, rfl⟩
    obtain ⟨c, w, rfl, hOther⟩ := hOff _ _ _ hTail
    have hTake : (u ++ c :: w ++ after).takeWhile q = u := by
      rw [List.append_assoc, List.takeWhile_append_of_pos hClass]
      simp [hOther]
    have hDrop : (u ++ c :: w ++ after).dropWhile q = c :: w ++ after := by
      rw [List.append_assoc, List.dropWhile_append_of_pos hClass]
      simp [hOther]
    exact ⟨u, _, by rw [hTake, hDrop], (hNext u _ _ _).2 ⟨_, hTail, rfl⟩⟩

/-- A run is read as a whole if what follows starts off the class. -/
theorem reads_many1_bind {q : CodePoint → Bool} {next : Text → Pattern β}
    {rest : Text → β → Text → Prop} (hNext : ∀ a, (next a).Reads (rest a))
    (hOff : ∀ a b t, rest a b t → StartsOff q t) :
    (many1 q >>= next).Reads fun b t =>
      ∃ u v, u ≠ [] ∧ (∀ c ∈ u, q c = true) ∧ rest u b v ∧ t = u ++ v := by
  have hBind : many1 q >>= next =
      many q >>= fun a => if a.isEmpty then failure else next a := by
    rw [many1, bind_assoc]
    congr 1
    funext a
    cases a <;> rfl
  have hEach (a : Text) : (if a.isEmpty then failure else next a : Pattern β).Reads fun b t =>
      a ≠ [] ∧ rest a b t := by
    cases a with
    | nil => exact reads_failure.congr (by simp)
    | cons c a => exact (hNext (c :: a)).congr (by simp)
  rw [hBind]
  refine (reads_many_bind hEach fun a b t hRest => hOff a b t hRest.2).congr fun b t => ?_
  constructor
  · rintro ⟨u, v, hClass, ⟨hSome, hTail⟩, rfl⟩
    exact ⟨u, v, hSome, hClass, hTail, rfl⟩
  · rintro ⟨u, v, hSome, hClass, hTail, rfl⟩
    exact ⟨u, v, hClass, ⟨hSome, hTail⟩, rfl⟩

/-- White space is read as a whole if what follows does not start with it. -/
theorem reads_blanks_bind {next : Pattern β} {rest : β → Text → Prop} (hNext : next.Reads rest)
    (hOff : ∀ b t, rest b t → StartsOff (·.satisfies isBlank) t) :
    (blanks >>= fun _ => next).Reads fun b t =>
      ∃ u v, Text.Blank u ∧ rest b v ∧ t = u ++ v :=
  reads_many_bind (fun _ => hNext) fun _ => hOff

end Pattern

section Search

variable {α : Type} {p : Pattern α} {shape : α → Text → Prop} {good : α → Prop}

/-- No match of interest starts inside of one that is not. -/
def Pattern.Unhidden (p : Pattern α) (good : α → Prop) : Prop :=
  ∀ ⦃s a after t b behind⦄, p.run s = some (a, after) → ¬good a → t <:+ s → t ≠ s →
    after.length < t.length → p.run t = some (b, behind) → ¬good b

/-- A search goes on where a match ends, so it finds a match of interest if there is one anywhere
and none is hidden. -/
theorem exists_mem_findFrom_iff (hReads : p.Reads shape) (hUnhidden : p.Unhidden good)
    (position skip : Nat) (t : Text) :
    (∃ m ∈ findFrom p position skip t, good m.value) ↔
      ∃ s a after, s <:+ t.drop skip ∧ s ≠ [] ∧ p.run s = some (a, after) ∧ good a := by
  induction t generalizing position skip with
  | nil =>
      simp only [findFrom, List.not_mem_nil, false_and, exists_false, List.drop_nil, false_iff]
      rintro ⟨s, a, after, hSuffix, hSome, -⟩
      exact hSome (List.suffix_nil.1 hSuffix)
  | cons c rest ih =>
      cases skip with
      | succ skip => exact ih (position + 1) skip
      | zero =>
          rw [List.drop_zero, findFrom]
          cases hRun : p.run (c :: rest) with
          | none =>
              simp only [ih, List.drop_zero]
              constructor
              · rintro ⟨s, a, after, hSuffix, hFound⟩
                exact ⟨s, a, after, hSuffix.trans (List.suffix_cons c rest), hFound⟩
              · rintro ⟨s, a, after, hSuffix, hSome, hFound, hGood⟩
                rcases List.suffix_cons_iff.1 hSuffix with rfl | hLater
                · rw [hRun] at hFound
                  cases hFound
                · exact ⟨s, a, after, hLater, hSome, hFound, hGood⟩
          | some found =>
              obtain ⟨a, after⟩ := found
              obtain ⟨u, -, hHere⟩ := (hReads _ _ _).1 hRun
              have hBehind : rest.drop ((c :: rest).length - after.length - 1) <:+ c :: rest :=
                (List.drop_suffix _ _).trans (List.suffix_cons c rest)
              simp only [List.mem_cons, exists_eq_or_imp, ih]
              constructor
              · rintro (hGood | ⟨s, b, behind, hSuffix, hFound⟩)
                · exact ⟨c :: rest, a, after, List.suffix_refl _, List.cons_ne_nil _ _, hRun, hGood⟩
                · exact ⟨s, b, behind, hSuffix.trans hBehind, hFound⟩
              · rintro ⟨s, b, behind, hSuffix, hSome, hFound, hGood⟩
                by_cases hFirst : good a
                · exact .inl hFirst
                · rcases List.suffix_cons_iff.1 hSuffix with rfl | hLater
                  · rw [hRun] at hFound
                    cases hFound
                    exact absurd hGood hFirst
                  · have hOther : s ≠ c :: rest := by
                      rintro rfl
                      exact absurd hLater.length_le (by simp)
                    have hShort : s.length ≤ after.length := by
                      by_contra hLong
                      exact hUnhidden hRun hFirst hSuffix hOther (by omega) hFound hGood
                    refine .inr ⟨s, b, behind, ?_, hSome, hFound, hGood⟩
                    apply List.suffix_of_suffix_length_le hLater (List.drop_suffix _ _)
                    have hWidth := congrArg List.length hHere
                    have hBound := hLater.length_le
                    simp only [List.length_append, List.length_cons, List.length_drop] at hWidth ⊢
                    omega

/-- A match of a kind that others do not hide is found exactly if there is one. -/
theorem exists_mem_findAll_iff (hReads : p.Reads shape) (hUnhidden : p.Unhidden good) (t : Text) :
    (∃ m ∈ findAll p t, good m.value) ↔
      ∃ s a after, s <:+ t ∧ s ≠ [] ∧ p.run s = some (a, after) ∧ good a :=
  exists_mem_findFrom_iff hReads hUnhidden 0 0 t

/-- A search finds a match of interest if a text of its shape stands somewhere. -/
theorem exists_mem_findAll_iff_infix (hReads : p.Reads shape) (hUnhidden : p.Unhidden good)
    (hNonempty : ∀ a, ¬shape a []) (t : Text) :
    (∃ m ∈ findAll p t, good m.value) ↔ ∃ a u, shape a u ∧ good a ∧ u <:+: t := by
  rw [exists_mem_findAll_iff hReads hUnhidden]
  constructor
  · rintro ⟨s, a, after, ⟨before, rfl⟩, -, hRun, hGood⟩
    obtain ⟨u, hShape, rfl⟩ := (hReads _ _ _).1 hRun
    exact ⟨a, u, hShape, hGood, before, after, List.append_assoc ..⟩
  · rintro ⟨a, u, hShape, hGood, before, after, rfl⟩
    have hSome : u ++ after ≠ [] := by
      intro hNil
      obtain ⟨rfl, -⟩ := List.append_eq_nil_iff.1 hNil
      exact hNonempty a hShape
    have hRun : p.run (u ++ after) = some (a, after) := (hReads _ _ _).2 ⟨u, hShape, rfl⟩
    exact ⟨u ++ after, a, after, ⟨before, (List.append_assoc ..).symm⟩, hSome, hRun, hGood⟩

/-- Something is found exactly if the shape stands in the text. -/
theorem findAll_ne_nil_iff (hReads : p.Reads shape) (hNonempty : ∀ a, ¬shape a []) (t : Text) :
    findAll p t ≠ [] ↔ ∃ a u, shape a u ∧ u <:+: t := by
  have hAll : p.Unhidden fun _ => True := fun _ _ _ _ _ _ _ hOther => absurd trivial hOther
  have hIff := exists_mem_findAll_iff_infix hReads hAll hNonempty t
  simp only [and_true, true_and] at hIff
  rw [← hIff]
  simp [List.eq_nil_iff_forall_not_mem]

/-- A word no part of which both ends and starts it. -/
def Unbordered (word : Text) : Prop := ∀ part ∈ word.tails, part <+: word → part = [] ∨ part = word
deriving Decidable

/-- What starts inside of a text ends in it with a part that is not empty. -/
theorem exists_of_suffix_append {rest after t : Text} (hSuffix : t <:+ rest ++ after)
    (hInside : after.length < t.length) : ∃ c part, c ∈ rest ∧ t = c :: part := by
  obtain ⟨before, hBefore⟩ := hSuffix
  cases t with
  | nil => exact absurd hInside (by simp)
  | cons c part =>
      rcases List.append_eq_append_iff.1 hBefore with ⟨x, rfl, hSame⟩ | ⟨x, -, rfl⟩
      · cases x with
        | nil =>
            rw [List.nil_append] at hSame
            rw [hSame] at hInside
            exact absurd hInside (Nat.lt_irrefl _)
        | cons d x =>
            cases hSame
            exact ⟨c, _, by simp, rfl⟩
      · rw [List.length_append] at hInside
        omega

/-- What starts inside of a text of two parts starts inside of the first part, or in the second. -/
theorem inside_cases {word rest after t : Text} (hSuffix : t <:+ word ++ (rest ++ after))
    (hOther : t ≠ word ++ (rest ++ after)) (hInside : after.length < t.length) :
    (∃ x ∈ word.tails, x ≠ [] ∧ x ≠ word ∧ t = x ++ (rest ++ after)) ∨
      ∃ c part, c ∈ rest ∧ t = c :: part := by
  by_cases hLater : t <:+ rest ++ after
  · exact .inr (exists_of_suffix_append hLater hInside)
  · obtain ⟨before, hBefore⟩ := hSuffix
    rcases List.append_eq_append_iff.1 hBefore with ⟨x, hWord, rfl⟩ | ⟨x, -, hRest⟩
    · have hTail : x ∈ word.tails := (List.mem_tails _ _).2 ⟨before, hWord.symm⟩
      have hSome : x ≠ [] := by
        rintro rfl
        exact hLater (List.suffix_refl _)
      have hProper : x ≠ word := by
        rintro rfl
        exact hOther rfl
      exact .inl ⟨x, hTail, hSome, hProper, rfl⟩
    · exact absurd ⟨x, hRest.symm⟩ hLater

/-- A word of that kind stands nowhere inside of a text that starts with it and goes on without its
first code point. -/
theorem Unbordered.not_prefix_inside {c : CodePoint} {word rest after t : Text}
    (h : Unbordered (c :: word)) (hRest : c ∉ rest) (hSuffix : t <:+ c :: word ++ (rest ++ after))
    (hOther : t ≠ c :: word ++ (rest ++ after)) (hInside : after.length < t.length) :
    ¬c :: word <+: t := by
  intro hPrefix
  rcases inside_cases hSuffix hOther hInside with
    ⟨x, hTail, hSome, hProper, rfl⟩ | ⟨d, part, hd, rfl⟩
  · have hShort := ((List.mem_tails _ _).1 hTail).length_le
    have hStarts := List.prefix_of_prefix_length_le (List.prefix_append x _) hPrefix hShort
    exact (h x hTail hStarts).elim hSome hProper
  · rw [List.cons_prefix_cons] at hPrefix
    exact hRest (hPrefix.1 ▸ hd)

end Search

end RepoAudit
