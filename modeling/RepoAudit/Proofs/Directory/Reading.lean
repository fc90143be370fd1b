import RepoAudit.Proofs.Directory.Files

/-!
Reading what a walk meets. A path in its normal form is followed by its parts, after some that stay
where they are. Main statements: names that are joined to the path of a directory lead to the entry
to which they lead from there, and a directory that a walk meets is the one at the names below which
it is met.
-/
namespace RepoAudit

open RepoAudit.Path

namespace Path

variable {path : Text}

theorem splitAll_slash_cons (path : Text) :
    splitAll slash (slash :: path) = [] :: splitAll slash path := by
  simp [splitAll]

/-- A path has slashes at its front in its normal form if it is absolute, and otherwise none. -/
theorem root_cases (path : Text) :
    root path = [] ∧ isAbsolute path = false ∨
      (root path = [slash] ∨ root path = [slash, slash]) ∧ isAbsolute path = true := by
  cases path with
  | nil => exact .inl ⟨rfl, rfl⟩
  | cons p path =>
      by_cases hSlash : p = slash
      · refine .inr ⟨?_, by simp [isAbsolute, hSlash]⟩
        have hRun : ((p :: path).takeWhile (· == slash)).length ≠ 0 := by simp [hSlash]
        unfold root
        split
        · next hNone => exact absurd hNone hRun
        · exact .inr rfl
        · exact .inl rfl
      · exact .inl ⟨by simp [root, hSlash], by simp [isAbsolute, hSlash]⟩

/-- A path in its normal form is followed by its parts, after some that stay. -/
theorem splitAll_normal (path : Text) :
    ∃ stays, (∀ part ∈ stays, IsStay part) ∧
      splitAll slash (normal path) = stays ++ parts path := by
  have hParts : ∃ stays, (∀ part ∈ stays, IsStay part) ∧
      splitAll slash (joinWith [slash] (parts path)) = stays ++ parts path := by
    by_cases hNone : parts path = []
    · rw [hNone]
      exact ⟨[[]], by simp [IsStay], rfl⟩
    · exact ⟨[], by simp, splitAll_joinWith hNone fun part hPart => (isPart_of_mem_parts hPart).2.2⟩
  obtain ⟨stays, hStays, hSplit⟩ := hParts
  have hSlash : IsStay [] := .inl rfl
  unfold normal
  dsimp only
  split
  · next hEmpty =>
      have hNone : parts path = [] := by
        rw [← parts_normal, normal, if_pos hEmpty]
        rfl
      rw [hNone]
      exact ⟨[here], by simp [IsStay], rfl⟩
  · rcases root_cases path with ⟨hRoot, -⟩ | ⟨hRoot | hRoot, -⟩
    · exact ⟨stays, hStays, by rw [hRoot, List.nil_append, hSplit]⟩
    · refine ⟨[] :: stays, List.forall_mem_cons.2 ⟨hSlash, hStays⟩, ?_⟩
      rw [hRoot, List.singleton_append, splitAll_slash_cons, hSplit, List.cons_append]
    · refine ⟨[] :: [] :: stays,
        List.forall_mem_cons.2 ⟨hSlash, List.forall_mem_cons.2 ⟨hSlash, hStays⟩⟩, ?_⟩
      rw [hRoot, List.cons_append, List.singleton_append, splitAll_slash_cons, splitAll_slash_cons,
        hSplit]
      rfl

theorem normal_ne_nil (path : Text) : normal path ≠ [] := by
  unfold normal
  dsimp only
  split
  · exact List.cons_ne_nil _ _
  · next hSome => simpa using hSome

/-- A path and its normal form start at the same directory. -/
theorem isAbsolute_normal (path : Text) : isAbsolute (normal path) = isAbsolute path := by
  unfold normal
  dsimp only
  rcases root_cases path with ⟨hRoot, hRelative⟩ | ⟨hRoot | hRoot, hAbsolute⟩
  · rw [hRoot, hRelative, List.nil_append]
    split
    · rfl
    · cases hParts : parts path with
      | nil => rfl
      | cons part rest =>
          obtain ⟨hSome, -, hSlash⟩ : IsPart part :=
            isPart_of_mem_parts (hParts ▸ List.mem_cons_self)
          obtain ⟨p, more, rfl⟩ := List.exists_cons_of_ne_nil hSome
          have hFirst : p ≠ slash := fun hSame => hSlash (hSame ▸ List.mem_cons_self)
          cases rest <;> simp [joinWith, isAbsolute, hFirst]
  · rw [hRoot, hAbsolute]
    rfl
  · rw [hRoot, hAbsolute]
    rfl

end Path

namespace Entry

variable {e inner : Entry} {way : List Text}

theorem entryAt?_append (front back : List Text) (e : Entry) :
    e.entryAt? (front ++ back) = (e.entryAt? front).bind (entryAt? back) := by
  induction front generalizing e with
  | nil => rfl
  | cons name front ih =>
      rw [List.cons_append, entryAt?, entryAt?, Option.bind_assoc]
      exact congrArg _ (funext ih)

theorem exists_of_entryAt?_cons {name : Text} {entries : List (Text × Entry)}
    (h : (directory entries).entryAt? (name :: way) = some e) :
    ∃ inner, (name, inner) ∈ entries ∧ inner.entryAt? way = some e := by
  rw [entryAt?_directory, Option.bind_eq_some_iff] at h
  obtain ⟨inner, hLookup, hRest⟩ := h
  obtain ⟨key, hMember, hSame⟩ := exists_of_lookup hLookup
  obtain rfl := eq_of_beq hSame
  exact ⟨inner, hMember, hRest⟩

theorem eq_of_entryAt?_file {content : List UInt8} (h : (file content).entryAt? way = some e) :
    e = file content := by
  cases way with
  | nil => exact (Option.some.inj h).symm
  | cons name way => cases h

/-- Below a well-named entry everything is well-named. -/
theorem wellNamed_of_entryAt? (h : e.WellNamed) (hWay : e.entryAt? way = some inner) :
    inner.WellNamed ∧ ∀ name ∈ way, IsEntryName name := by
  induction way generalizing e with
  | nil =>
      obtain rfl := Option.some.inj hWay
      exact ⟨h, by simp⟩
  | cons name way ih =>
      cases h with
      | file content => cases hWay
      | barred isDirectory => cases hWay
      | directory hNames hOnce hBelow =>
          obtain ⟨next, hMember, hRest⟩ := exists_of_entryAt?_cons hWay
          obtain ⟨hInner, hLater⟩ := ih (hBelow _ hMember) hRest
          exact ⟨hInner, List.forall_mem_cons.2 ⟨hNames _ hMember, hLater⟩⟩

theorem listingsOf_eq (below : List Text) (entries : List (Text × Entry)) :
    listingsOf below entries =
      entries.flatMap fun entry => entry.2.listings (below ++ [entry.1]) := by
  induction entries with
  | nil => rfl
  | cons entry entries ih => rw [listingsOf, ih, List.flatMap_cons]

/-- A directory that a walk meets is the one to which the names lead. -/
theorem entryAt?_of_mem_listings {below : List Text} {l : Listing} (h : e.WellNamed)
    (hMember : l ∈ e.listings below) :
    ∃ way, l.below = below ++ way ∧ e.entryAt? way = some (.directory l.entries) := by
  induction h generalizing below with
  | file content => cases hMember
  | barred isDirectory => cases hMember
  | @directory entries hNames hOnce hBelow ih =>
      rw [listings, List.mem_cons, listingsOf_eq, List.mem_flatMap] at hMember
      rcases hMember with rfl | ⟨⟨name, e⟩, hEntry, hLater⟩
      · exact ⟨[], by simp, rfl⟩
      · obtain ⟨way, hWay, hFound⟩ := ih _ hEntry hLater
        refine ⟨name :: way, by simp [hWay], ?_⟩
        rw [entryAt?_directory, (lookup_eq_some_iff_mem hOnce).2 hEntry]
        exact hFound

end Entry

namespace Disk

variable {disk : Disk} {path part start : Text} {tree e : Entry} {trail next : List Entry}
  {way stays rest : List Text}

/-- Only a directory that is not barred can be left or searched. -/
theorem exists_directory_of_step (hPart : part ≠ []) (h : step path trail part = .ok next) :
    ∃ entries above, trail = .directory entries :: above := by
  cases step_eq_ok_iff.1 h with
  | barred hEmpty => exact absurd hEmpty hPart
  | _ => exact ⟨_, _, rfl⟩

/-- A part that stays leads nowhere else, if it leads anywhere. -/
theorem eq_of_step_stay (hStay : IsStay part) (h : step path trail part = .ok next) :
    next = trail := by
  cases step_eq_ok_iff.1 h with
  | up hUp =>
      rw [hUp] at hStay
      exact absurd hStay (by unfold IsStay; decide)
  | down hLeads _ => exact absurd hStay hLeads.1
  | _ => rfl

/-- Parts that stay can be left out. -/
theorem foldlM_step_of_stays (hStays : ∀ part ∈ stays, IsStay part)
    (h : (stays ++ rest).foldlM (step path) trail = .ok next) :
    rest.foldlM (step path) trail = .ok next := by
  induction stays with
  | nil => exact h
  | cons part stays ih =>
      obtain ⟨hPart, hLater⟩ := List.forall_mem_cons.1 hStays
      rw [List.cons_append, List.foldlM_cons, bind_eq_ok_iff] at h
      obtain ⟨middle, hStep, hRest⟩ := h
      exact ih hLater (eq_of_step_stay hPart hStep ▸ hRest)

/-- Parts that stay can be put before others that lead somewhere. -/
theorem foldlM_step_stays (hStays : ∀ part ∈ stays, IsStay part) (hSome : rest ≠ [])
    (hParts : ∀ part ∈ rest, part ≠ []) (h : rest.foldlM (step path) trail = .ok next) :
    (stays ++ rest).foldlM (step path) trail = .ok next := by
  obtain ⟨part, more, rfl⟩ := List.exists_cons_of_ne_nil hSome
  rw [List.foldlM_cons, bind_eq_ok_iff] at h
  obtain ⟨middle, hStep, hRest⟩ := h
  obtain ⟨entries, above, rfl⟩ := exists_directory_of_step (hParts part List.mem_cons_self) hStep
  induction stays with
  | nil => rw [List.nil_append, List.foldlM_cons, hStep]; exact hRest
  | cons stay stays ih =>
      obtain ⟨hStay, hLater⟩ := List.forall_mem_cons.1 hStays
      rw [List.cons_append, List.foldlM_cons, step_eq_ok_iff.2 (.stay hStay)]
      exact ih hLater

/-- The steps of a path depend on it only in their faults. -/
theorem foldlM_step_of_path (other : Text) (h : way.foldlM (step path) trail = .ok next) :
    way.foldlM (step other) trail = .ok next := by
  induction way generalizing trail with
  | nil => exact h
  | cons part way ih =>
      rw [List.foldlM_cons, bind_eq_ok_iff] at h ⊢
      obtain ⟨middle, hStep, hRest⟩ := h
      exact ⟨middle, step_eq_ok_iff.2 (step_eq_ok_iff.1 hStep), ih hRest⟩

/-- Names lead down. -/
theorem foldlM_step_names (path : Text) (hNames : ∀ name ∈ way, IsName name)
    (h : tree.entryAt? way = some e) (above : List Entry) :
    ∃ above', way.foldlM (step path) (tree :: above) = .ok (e :: above') := by
  induction way generalizing tree above with
  | nil =>
      obtain rfl := Option.some.inj h
      exact ⟨above, rfl⟩
  | cons name way ih =>
      obtain ⟨hName, hWay⟩ := List.forall_mem_cons.1 hNames
      rw [Entry.entryAt?, Option.bind_eq_some_iff] at h
      obtain ⟨inner, hLookup, hRest⟩ := h
      cases tree with
      | file content => cases hLookup
      | barred isDirectory => cases hLookup
      | directory entries =>
          have hStay : ¬IsStay name := not_or.2 ⟨hName.1.1, hName.1.2.1⟩
          have hFound : entries.lookup name = some inner := hLookup
          rw [List.foldlM_cons, step_eq_ok_iff.2 (.down ⟨hStay, hName.2⟩ hFound)]
          exact ih hWay hRest _

/-- A path leads to the entry at which its parts end, from the root or the working directory. -/
theorem locate_eq_ok_iff : disk.locate path = .ok e ↔ path ≠ [] ∧
    ∃ above, ((if isAbsolute path then [] else disk.current) ++ splitAll slash path).foldlM
      (step path) [disk.root] = .ok (e :: above) := by
  unfold locate
  by_cases hEmpty : path = []
  · simp [hEmpty, throw, throwThe, MonadExceptOf.throw, bind, Except.bind]
  · simp only [List.isEmpty_iff, hEmpty, if_false, ne_eq, not_false_eq_true, true_and]
    generalize List.foldlM (step path) _ _ = outcome
    rcases outcome with fault | _ | ⟨first, above⟩
    · simp [bind, Except.bind]
    · simp [bind, Except.bind, throw, throwThe, MonadExceptOf.throw]
    · simp [bind, Except.bind, pure, Except.pure]

/-- Names that are joined to the path of an entry lead on from it. -/
theorem locate_foldl_join (h : disk.locate (normal start) = .ok tree)
    (hNames : ∀ name ∈ way, IsName name) (hWay : tree.entryAt? way = some e) :
    disk.locate (normal (way.foldl join start)) = .ok e := by
  by_cases hSome : way = []
  · subst hSome
    exact Option.some.inj hWay ▸ h
  · obtain ⟨-, above, hFollowed⟩ := locate_eq_ok_iff.1 h
    obtain ⟨stays, hStays, hSplit⟩ := splitAll_normal start
    rw [isAbsolute_normal, hSplit, List.foldlM_append, bind_eq_ok_iff] at hFollowed
    obtain ⟨trail, hCurrent, hRest⟩ := hFollowed
    have hStart := foldlM_step_of_stays hStays hRest
    have hParts : ∀ part ∈ parts start ++ way, part ≠ [] := by
      rw [List.forall_mem_append]
      exact ⟨fun part hPart => (isPart_of_mem_parts hPart).1, fun name hName =>
        (hNames name hName).1.1⟩
    obtain ⟨stays', hStays', hSplit'⟩ := splitAll_normal (way.foldl join start)
    obtain ⟨above', hDown⟩ := foldlM_step_names (normal (way.foldl join start)) hNames hWay above
    refine locate_eq_ok_iff.2 ⟨normal_ne_nil _, above', ?_⟩
    rw [isAbsolute_normal, isAbsolute_foldl_join hNames, hSplit', parts_foldl_join hNames,
      List.foldlM_append, foldlM_step_of_path _ hCurrent]
    refine foldlM_step_stays hStays' (by simp [hSome]) hParts ?_
    rw [List.foldlM_append, foldlM_step_of_path _ hStart]
    exact hDown

end Disk

end RepoAudit
