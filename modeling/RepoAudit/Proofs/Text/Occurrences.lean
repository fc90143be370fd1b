import RepoAudit.Proofs.Text.Pattern

/-!
Where the matches of a search stand. A search takes a match at the next place where one stands and
goes on behind it. Main statements: it misses only what starts inside of a match that it took, and
so it misses nothing if the texts of a shape start with a word that stands nowhere else in them.
-/
namespace RepoAudit

variable {α : Type} {p : Pattern α} {shape : α → Text → Prop} {t : Text} {m n : Match α}
  {found : List (Match α)} {first : Nat}

/-- A text of a shape fills the interval of a match, which is not empty. -/
structure Match.Stands (shape : α → Text → Prop) (t : Text) (m : Match α) : Prop where
  start_lt_stop : m.start < m.stop
  stop_le_length : m.stop ≤ t.length
  shape : shape m.value (t.extract m.start m.stop)

/-- What a search from the place `first` on may find. -/
structure Searched (shape : α → Text → Prop) (t : Text) (first : Nat) (found : List (Match α)) :
    Prop where
  stands : ∀ m ∈ found, first ≤ m.start ∧ m.Stands shape t
  apart : found.Pairwise fun m n => m.stop ≤ n.start
  complete : ∀ m : Match α, first ≤ m.start → m.Stands shape t →
    m ∈ found ∨ ∃ taken ∈ found, taken.start < m.start ∧ m.start < taken.stop

namespace Match

theorem Stands.drop_start (h : m.Stands shape t) :
    t.drop m.start = t.extract m.start m.stop ++ t.drop m.stop := by
  have hCut := List.take_append_drop (m.stop - m.start) (t.drop m.start)
  rw [List.drop_drop, Nat.add_sub_cancel' h.start_lt_stop.le] at hCut
  rw [List.extract_eq_take_drop, hCut]

/-- Where a shape stands, the pattern that reads it succeeds. -/
theorem Stands.run (hReads : p.Reads shape) (h : m.Stands shape t) :
    p.run (t.drop m.start) = some (m.value, t.drop m.stop) :=
  (hReads _ _ _).2 ⟨_, h.shape, h.drop_start⟩

/-- What a pattern reads at a place stands there. -/
theorem stands_of_run (hReads : p.Reads shape) (hNonempty : ∀ a, ¬shape a []) {start : Nat} {a : α}
    {after : Text} (h : p.run (t.drop start) = some (a, after)) :
    Stands shape t ⟨start, start + ((t.drop start).length - after.length), a⟩ := by
  obtain ⟨u, hShape, hHere⟩ := (hReads _ _ _).1 h
  have hLength := congrArg List.length hHere
  have hSome : 0 < u.length := by
    apply List.length_pos_of_ne_nil
    rintro rfl
    exact hNonempty a hShape
  rw [List.length_append, List.length_drop] at hLength
  have hWidth : (t.drop start).length - after.length = u.length := by
    rw [List.length_drop]
    omega
  rw [hWidth]
  refine ⟨by simp only; omega, by simp only; omega, ?_⟩
  simp [hHere, List.extract_eq_take_drop, hShape]

/-- Only one match stands at a place. -/
theorem Stands.eq_of_start (hReads : p.Reads shape) (hm : m.Stands shape t)
    (hn : n.Stands shape t) (hStart : m.start = n.start) : m = n := by
  have hRun := hm.run hReads
  rw [hStart, hn.run hReads, Option.some_inj, Prod.mk.injEq] at hRun
  obtain ⟨hValue, hRest⟩ := hRun
  have hStop := congrArg List.length hRest
  rw [List.length_drop, List.length_drop] at hStop
  have hFirst := hm.stop_le_length
  have hSecond := hn.stop_le_length
  have hSame : m.stop = n.stop := by omega
  cases m
  cases n
  simp_all

end Match

/-- Nothing stands behind the end of a text. -/
theorem searched_nil (h : t.length ≤ first) : Searched shape t first [] where
  stands := nofun
  apart := .nil
  complete m hFirst hm := by
    have hStart := hm.start_lt_stop
    have hStop := hm.stop_le_length
    omega

/-- A place where nothing stands is passed over. -/
theorem Searched.pass (h : Searched shape t (first + 1) found)
    (hNone : ∀ m : Match α, m.Stands shape t → m.start ≠ first) : Searched shape t first found where
  stands m hMember := by
    obtain ⟨hStart, hm⟩ := h.stands m hMember
    exact ⟨by omega, hm⟩
  apart := h.apart
  complete m hFirst hm := h.complete m (by have := hNone m hm; omega) hm

/-- A match that stands at the next place is taken, and the search goes on behind it. -/
theorem Searched.take (h : Searched shape t m.stop found) (hm : m.Stands shape t)
    (hOnly : ∀ n : Match α, n.Stands shape t → n.start = m.start → n = m) :
    Searched shape t m.start (m :: found) where
  stands n hMember := by
    rcases List.mem_cons.1 hMember with rfl | hLater
    · exact ⟨Nat.le_refl _, hm⟩
    · obtain ⟨hStart, hn⟩ := h.stands n hLater
      have hWidth := hm.start_lt_stop
      exact ⟨by omega, hn⟩
  apart := List.pairwise_cons.2 ⟨fun n hMember => (h.stands n hMember).1, h.apart⟩
  complete n hFirst hn := by
    by_cases hBehind : m.stop ≤ n.start
    · rcases h.complete n hBehind hn with hMember | ⟨taken, hTaken, hInside⟩
      · exact .inl (List.mem_cons_of_mem _ hMember)
      · exact .inr ⟨taken, List.mem_cons_of_mem _ hTaken, hInside⟩
    · by_cases hSame : n.start = m.start
      · rw [hOnly n hn hSame]
        exact .inl List.mem_cons_self
      · exact .inr ⟨m, List.mem_cons_self, by omega, by omega⟩

/-- A search finds what it may from its place on, behind what it has to skip. -/
theorem findFrom_searched (hReads : p.Reads shape) (hNonempty : ∀ a, ¬shape a [])
    (position skip : Nat) (rest : Text) (hRest : rest = t.drop position) :
    Searched shape t (position + skip) (findFrom p position skip rest) := by
  have hTail {c : CodePoint} {rest : Text} {position : Nat} (h : c :: rest = t.drop position) :
      rest = t.drop (position + 1) := by
    rw [← List.tail_drop, ← h, List.tail_cons]
  fun_induction findFrom p position skip rest with
  | case1 position skip =>
      apply searched_nil
      have hEnd := List.drop_eq_nil_iff.1 hRest.symm
      omega
  | case2 position skip c rest ih =>
      have hLater := ih (hTail hRest)
      rwa [Nat.add_right_comm] at hLater
  | case3 position c rest a after hRun width ih =>
      have hm : Match.Stands shape t ⟨position, position + width, a⟩ := by
        have hHere := hRun
        rw [hRest] at hHere
        have hStands := Match.stands_of_run hReads hNonempty hHere
        rwa [← hRest] at hStands
      have hLater := ih (hTail hRest)
      have hWidth : position + 1 + (width - 1) = position + width := by
        have hSome := hm.start_lt_stop
        simp only at hSome
        omega
      rw [hWidth] at hLater
      exact hLater.take hm fun n hn hStart => hn.eq_of_start hReads hm hStart
  | case4 position c rest hRun ih =>
      apply Searched.pass (ih (hTail hRest))
      intro m hm hStart
      have hHere := hm.run hReads
      rw [hStart, ← hRest, hRun] at hHere
      cases hHere

/-- A search goes over the whole text and finds matches one behind the other. -/
theorem findAll_searched (hReads : p.Reads shape) (hNonempty : ∀ a, ¬shape a []) (t : Text) :
    Searched shape t 0 (findAll p t) :=
  findFrom_searched hReads hNonempty 0 0 t rfl

/-- Texts of a shape start with `lead`, and inside of them it starts nowhere else, whatever
follows. -/
structure LeadsOnce (lead : Text) (shape : α → Text → Prop) : Prop where
  starts {a : α} {u : Text} (h : shape a u) : lead <+: u
  inside {a : α} {u after s : Text} (h : shape a u) (hSuffix : s <:+ u ++ after)
    (hOther : s ≠ u ++ after) (hInside : after.length < s.length) : ¬lead <+: s

/-- Each match of a shape is listed, and no two of them at the same place. -/
structure ListsAll (shape : α → Text → Prop) (t : Text) (found : List (Match α)) : Prop where
  once : (found.map (·.start)).Nodup
  mem_iff : ∀ m, m ∈ found ↔ m.Stands shape t

variable {lead : Text} {other : α → Text → Prop} {others : List (Match α)}

theorem LeadsOnce.mono (h : LeadsOnce lead shape) (hSub : ∀ a u, other a u → shape a u) :
    LeadsOnce lead other where
  starts hOther := h.starts (hSub _ _ hOther)
  inside hOther := h.inside (hSub _ _ hOther)

/-- Matches with a lead of their own do not overlap. -/
theorem LeadsOnce.stop_le_start (h : LeadsOnce lead shape) (hm : m.Stands shape t)
    (hn : n.Stands shape t) (hLater : m.start < n.start) : m.stop ≤ n.start := by
  by_contra hOverlap
  have hStop := hm.stop_le_length
  have hSuffix : t.drop n.start <:+ t.drop m.start := by
    have hAgain : t.drop n.start = (t.drop m.start).drop (n.start - m.start) := by
      rw [List.drop_drop, Nat.add_sub_cancel' hLater.le]
    rw [hAgain]
    exact List.drop_suffix _ _
  have hOther : t.drop n.start ≠ t.drop m.start := by
    intro hSame
    have hLength := congrArg List.length hSame
    rw [List.length_drop, List.length_drop] at hLength
    omega
  have hInside : (t.drop m.stop).length < (t.drop n.start).length := by
    rw [List.length_drop, List.length_drop]
    omega
  rw [hm.drop_start] at hSuffix hOther
  apply h.inside hm.shape hSuffix hOther hInside
  rw [hn.drop_start]
  exact (h.starts hn.shape).trans (List.prefix_append _ _)

/-- A search for texts with a lead of their own misses none of them. -/
theorem Searched.listsAll (h : Searched shape t 0 found) (hLead : LeadsOnce lead shape) :
    ListsAll shape t found where
  once := by
    have hOrder : found.Pairwise fun m n => m.start ≠ n.start := by
      apply h.apart.imp_of_mem
      intro m n hm hn hApart
      have hWidth := (h.stands m hm).2.start_lt_stop
      omega
    exact List.pairwise_map.2 hOrder
  mem_iff m := by
    constructor
    · intro hMember
      exact (h.stands m hMember).2
    · intro hm
      rcases h.complete m (Nat.zero_le _) hm with hMember | ⟨taken, hTaken, hStart, hStop⟩
      · exact hMember
      · have hApart := hLead.stop_le_start (h.stands taken hTaken).2 hm hStart
        omega

/-- Nothing is listed exactly if the shape stands nowhere. -/
theorem ListsAll.eq_nil_iff (h : ListsAll shape t found) :
    found = [] ↔ ¬∃ m : Match α, m.Stands shape t := by
  simp only [List.eq_nil_iff_forall_not_mem, h.mem_iff, not_exists]

/-- Matches of two shapes that start with different words are listed one after the other. -/
theorem ListsAll.append {word word' : Text} (hFirst : ListsAll shape t found)
    (hSecond : ListsAll other t others) (hWord : ∀ a u, shape a u → word <+: u)
    (hWord' : ∀ a u, other a u → word' <+: u) (hDiffer : ¬word <+: word' ∧ ¬word' <+: word) :
    ListsAll (fun a u => shape a u ∨ other a u) t (found ++ others) where
  once := by
    rw [List.map_append, List.nodup_append]
    refine ⟨hFirst.once, hSecond.once, ?_⟩
    simp only [List.forall_mem_map]
    intro m hm n hn hStart
    have hFound := (hFirst.mem_iff m).1 hm
    have hOther := (hSecond.mem_iff n).1 hn
    have hHere : word <+: t.drop m.start := by
      rw [hFound.drop_start]
      exact (hWord _ _ hFound.shape).trans (List.prefix_append _ _)
    have hAlso : word' <+: t.drop m.start := by
      rw [hStart, hOther.drop_start]
      exact (hWord' _ _ hOther.shape).trans (List.prefix_append _ _)
    exact (List.prefix_or_prefix_of_prefix hHere hAlso).elim hDiffer.1 hDiffer.2
  mem_iff m := by
    rw [List.mem_append, hFirst.mem_iff, hSecond.mem_iff]
    constructor
    · rintro (hm | hm)
      · exact ⟨hm.start_lt_stop, hm.stop_le_length, .inl hm.shape⟩
      · exact ⟨hm.start_lt_stop, hm.stop_le_length, .inr hm.shape⟩
    · rintro ⟨hStart, hStop, hShape | hShape⟩
      · exact .inl ⟨hStart, hStop, hShape⟩
      · exact .inr ⟨hStart, hStop, hShape⟩

/-- Two patterns whose texts have one lead, but go on differently, together list all matches. -/
theorem findAll_append_listsAll {whole : α → Text → Prop} {first second : Pattern α}
    {word word' : Text} (hFirst : first.Reads shape) (hSecond : second.Reads other)
    (hWhole : ∀ a u, whole a u ↔ shape a u ∨ other a u) (hLead : LeadsOnce lead whole)
    (hSome : lead ≠ []) (hWord : ∀ a u, shape a u → word <+: u)
    (hWord' : ∀ a u, other a u → word' <+: u) (hDiffer : ¬word <+: word' ∧ ¬word' <+: word)
    (t : Text) : ListsAll whole t (findAll first t ++ findAll second t) := by
  have hAll {p : Pattern α} {part : α → Text → Prop} (hReads : p.Reads part)
      (hSub : ∀ a u, part a u → whole a u) : ListsAll part t (findAll p t) := by
    have hPart : LeadsOnce lead part := hLead.mono hSub
    have hNonempty (a : α) : ¬part a [] := fun h => hSome (List.prefix_nil.1 (hPart.starts h))
    exact (findAll_searched hReads hNonempty t).listsAll hPart
  have hSame : whole = fun a u => shape a u ∨ other a u := by
    funext a u
    exact propext (hWhole a u)
  have hOne := hAll hFirst fun a u h => (hWhole a u).2 (.inl h)
  have hTwo := hAll hSecond fun a u h => (hWhole a u).2 (.inr h)
  rw [hSame]
  exact hOne.append hTwo hWord hWord' hDiffer

/-- A lead starts only once in a text that is a word and goes on with other code points. -/
theorem not_prefix_inside {word rest after s : Text} (hSome : lead ≠ [])
    (hWord : ∀ x ∈ word.tails, lead <+: x → x = word)
    (hEnd : rest = [] → ∀ x ∈ word.tails, x <+: lead → x = [] ∨ x = word)
    (hRest : ∀ c ∈ rest, c ∉ lead) (hSuffix : s <:+ word ++ (rest ++ after))
    (hOther : s ≠ word ++ (rest ++ after)) (hInside : after.length < s.length) : ¬lead <+: s := by
  intro hLead
  rcases inside_cases hSuffix hOther hInside with ⟨x, hTail, hx, hProper, rfl⟩ | ⟨c, part, hc, rfl⟩
  · rcases List.prefix_or_prefix_of_prefix hLead (List.prefix_append x _) with hStarts | hStarts
    · exact hProper (hWord x hTail hStarts)
    · cases rest with
      | nil => exact (hEnd rfl x hTail hStarts).elim hx hProper
      | cons c rest =>
          obtain ⟨y, rfl⟩ := hStarts
          cases y with
          | nil => exact hProper (hWord x hTail (by rw [List.append_nil]))
          | cons d y =>
              rw [List.prefix_append_right_inj, List.cons_append, List.cons_prefix_cons] at hLead
              apply hRest c List.mem_cons_self
              simp [hLead.1]
  · obtain ⟨d, more, rfl⟩ := List.exists_cons_of_ne_nil hSome
    rw [List.cons_prefix_cons] at hLead
    apply hRest c hc
    simp [hLead.1]

end RepoAudit
