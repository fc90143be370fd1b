import Mathlib.Data.List.Nodup
import RepoAudit.Proofs.Directory
import RepoAudit.Proofs.Entries
import RepoAudit.Proofs.Path.Relative

/-!
The files below an entry. Each file has one way, the names that lead to it, and a walk meets the
ways in a fixed order. Main statements: the ways that a walk lists are those of all files, each
once, in this order; and a path that leads to an entry leads to one whose names are in order.
-/
namespace RepoAudit

/-- A name that a directory can hold: it leads down, and a system takes it. -/
def IsEntryName (name : Text) : Prop := Path.IsName name ∧ (Disk.pathFault? name).isNone

instance (name : Text) : Decidable (IsEntryName name) := inferInstanceAs (Decidable (_ ∧ _))

namespace Entry

/-- A directory holds only names that it can hold, and each of them once. So do those below it. -/
inductive WellNamed : Entry → Prop
  | file (content : List UInt8) : WellNamed (.file content)
  | barred (isDirectory : Bool) : WellNamed (.barred isDirectory)
  | directory {entries : List (Text × Entry)} (hNames : ∀ entry ∈ entries, IsEntryName entry.1)
    (hOnce : (entries.map Prod.fst).Nodup) (hBelow : ∀ entry ∈ entries, WellNamed entry.2) :
    WellNamed (.directory entries)

/-- The entry to which names lead. -/
def entryAt? : List Text → Entry → Option Entry
  | [], e => some e
  | name :: names, e => (e.entries.lookup name).bind (entryAt? names)

mutual

/-- The ways to the files below an entry: first those in the directory itself, then those in its
directories, one after the other. -/
def fileWays : Entry → List (List Text)
  | .directory entries =>
    (entries.filter fun (_, e) => e.isFile).map (fun (name, _) => [name]) ++ fileWaysOf entries
  | _ => []

def fileWaysOf : List (Text × Entry) → List (List Text)
  | [] => []
  | (name, e) :: rest => (fileWays e).map (name :: ·) ++ fileWaysOf rest

end

/-- The order in which a walk meets files. Those in a directory come before those in its
directories, and names keep their order in the directory. -/
inductive Precedes : Entry → List Text → List Text → Prop
  | files {entries : List (Text × Entry)} {a b : Text} (h : [a, b].Sublist (entries.map Prod.fst)) :
    Precedes (.directory entries) [a] [b]
  | file {entries : List (Text × Entry)} {a b : Text} {bs : List Text} (h : bs ≠ []) :
    Precedes (.directory entries) [a] (b :: bs)
  | directories {entries : List (Text × Entry)} {a b : Text} {as bs : List Text}
    (h : [a, b].Sublist (entries.map Prod.fst)) (hFirst : as ≠ []) (hSecond : bs ≠ []) :
    Precedes (.directory entries) (a :: as) (b :: bs)
  | within {entries : List (Text × Entry)} {name : Text} {e : Entry} {as bs : List Text}
    (hMember : (name, e) ∈ entries) (h : Precedes e as bs) :
    Precedes (.directory entries) (name :: as) (name :: bs)

variable {e : Entry} {way other : List Text}

@[simp] theorem entryAt?_nil (e : Entry) : entryAt? [] e = some e := rfl

@[simp] theorem entryAt?_directory (name : Text) (way : List Text) (entries : List (Text × Entry)) :
    entryAt? (name :: way) (.directory entries) = (entries.lookup name).bind (entryAt? way) := rfl

theorem fileWaysOf_eq (entries : List (Text × Entry)) :
    fileWaysOf entries = entries.flatMap fun entry => (fileWays entry.2).map (entry.1 :: ·) := by
  induction entries with
  | nil => rfl
  | cons entry entries ih => rw [fileWaysOf, ih, List.flatMap_cons]

/-- A way to a file below some entries starts with the name of one of them. -/
theorem mem_fileWaysOf {entries : List (Text × Entry)} :
    way ∈ fileWaysOf entries ↔
      ∃ name e rest, (name, e) ∈ entries ∧ rest ∈ e.fileWays ∧ way = name :: rest := by
  rw [fileWaysOf_eq, List.mem_flatMap]
  constructor
  · rintro ⟨⟨name, e⟩, hMember, hWay⟩
    obtain ⟨rest, hRest, rfl⟩ := List.mem_map.1 hWay
    exact ⟨name, e, rest, hMember, hRest, rfl⟩
  · rintro ⟨name, e, rest, hMember, hRest, rfl⟩
    exact ⟨(name, e), hMember, List.mem_map_of_mem hRest⟩

/-- An entry is not a file below itself. -/
theorem ne_nil_of_mem_fileWays (h : way ∈ e.fileWays) : way ≠ [] := by
  cases e with
  | file content => cases h
  | barred isDirectory => cases h
  | directory entries =>
      rw [fileWays, List.mem_append, mem_fileWaysOf] at h
      rcases h with hOwn | ⟨name, e, rest, -, -, rfl⟩
      · obtain ⟨entry, -, rfl⟩ := List.mem_map.1 hOwn
        exact List.cons_ne_nil _ _
      · exact List.cons_ne_nil _ _

/-- The ways are those of all files below the entry. -/
theorem mem_fileWays_iff (h : e.WellNamed) :
    way ∈ e.fileWays ↔ way ≠ [] ∧ ∃ file, e.entryAt? way = some file ∧ file.isFile = true := by
  induction h generalizing way with
  | file content =>
      cases way with
      | nil => simp [fileWays]
      | cons name rest => simp [fileWays, entryAt?, entries]
  | barred isDirectory =>
      cases way with
      | nil => simp [fileWays]
      | cons name rest => simp [fileWays, entryAt?, entries]
  | @directory entries hNames hOnce hBelow ih =>
      rw [fileWays, List.mem_append, mem_fileWaysOf]
      constructor
      · rintro (hOwn | ⟨name, e, rest, hMember, hRest, rfl⟩)
        · obtain ⟨⟨name, e⟩, hEntry, rfl⟩ := List.mem_map.1 hOwn
          obtain ⟨hMember, hFile⟩ := List.mem_filter.1 hEntry
          have hLookup := (lookup_eq_some_iff_mem hOnce).2 hMember
          exact ⟨List.cons_ne_nil _ _, e, by simp [hLookup], hFile⟩
        · obtain ⟨-, file, hFound, hFile⟩ := (ih _ hMember).1 hRest
          have hLookup := (lookup_eq_some_iff_mem hOnce).2 hMember
          exact ⟨List.cons_ne_nil _ _, file, by simpa [hLookup] using hFound, hFile⟩
      · rintro ⟨hSome, file, hFound, hFile⟩
        obtain ⟨name, rest, rfl⟩ := List.exists_cons_of_ne_nil hSome
        rw [entryAt?, Option.bind_eq_some_iff] at hFound
        obtain ⟨e, hLookup, hRest⟩ := hFound
        have hMember := (lookup_eq_some_iff_mem hOnce).1 hLookup
        cases rest with
        | nil =>
            obtain rfl := Option.some.inj hRest
            exact .inl (List.mem_map.2 ⟨_, List.mem_filter.2 ⟨hMember, hFile⟩, rfl⟩)
        | cons next rest =>
            have hBelow := (ih _ hMember).2 ⟨List.cons_ne_nil _ _, file, hRest, hFile⟩
            exact .inr ⟨name, e, _, hMember, hBelow, rfl⟩

/-- All names on a way to a file are names of entries. -/
theorem isEntryName_of_mem_fileWays (h : e.WellNamed) (hWay : way ∈ e.fileWays) :
    ∀ name ∈ way, IsEntryName name := by
  induction h generalizing way with
  | file content => cases hWay
  | barred isDirectory => cases hWay
  | directory hNames hOnce hBelow ih =>
      rw [fileWays, List.mem_append, mem_fileWaysOf] at hWay
      rcases hWay with hOwn | ⟨name, e, rest, hMember, hRest, rfl⟩
      · obtain ⟨entry, hEntry, rfl⟩ := List.mem_map.1 hOwn
        exact List.forall_mem_singleton.2 (hNames entry (List.mem_filter.1 hEntry).1)
      · exact List.forall_mem_cons.2 ⟨hNames _ hMember, ih _ hMember hRest⟩

/-- The ways stand in the order of a walk. -/
theorem pairwise_fileWays (h : e.WellNamed) : e.fileWays.Pairwise e.Precedes := by
  induction h with
  | file content => exact .nil
  | barred isDirectory => exact .nil
  | @directory entries hNames hOnce hBelow ih =>
      have hOrder : entries.Pairwise fun first second =>
          [first.1, second.1].Sublist (entries.map Prod.fst) :=
        List.pairwise_iff_forall_sublist.2 fun hPair => hPair.map Prod.fst
      rw [fileWays, List.pairwise_append, fileWaysOf_eq, List.pairwise_flatMap]
      refine ⟨?_, ⟨fun entry hEntry => ?_, ?_⟩, fun first hFirst second hSecond => ?_⟩
      · exact List.pairwise_map.2 ((hOrder.filter _).imp .files)
      · exact List.pairwise_map.2 ((ih entry hEntry).imp (.within hEntry))
      · refine hOrder.imp fun hPair first hFirst second hSecond => ?_
        obtain ⟨rest, hRest, rfl⟩ := List.mem_map.1 hFirst
        obtain ⟨rest', hRest', rfl⟩ := List.mem_map.1 hSecond
        exact .directories hPair (ne_nil_of_mem_fileWays hRest) (ne_nil_of_mem_fileWays hRest')
      · obtain ⟨entry, -, rfl⟩ := List.mem_map.1 hFirst
        rw [← fileWaysOf_eq, mem_fileWaysOf] at hSecond
        obtain ⟨name, e, rest, -, hRest, rfl⟩ := hSecond
        exact .file (ne_nil_of_mem_fileWays hRest)

/-- No way comes before itself. -/
theorem Precedes.ne (hNamed : e.WellNamed) (h : e.Precedes way other) : way ≠ other := by
  have hApart {a b : Text} {names : List Text} (hOnce : names.Nodup)
      (hPair : [a, b].Sublist names) : a ≠ b := by
    simpa using hOnce.sublist hPair
  induction h with
  | files hPair =>
      cases hNamed with
      | directory _ hOnce _ => simpa using hApart hOnce hPair
  | file hSome => simp [Ne.symm hSome]
  | directories hPair _ _ =>
      cases hNamed with
      | directory _ hOnce _ => simp [hApart hOnce hPair]
  | within hMember _ ih =>
      cases hNamed with
      | directory _ _ hBelow => simpa using ih (hBelow _ hMember)

/-- No file is met twice. -/
theorem nodup_fileWays (h : e.WellNamed) : e.fileWays.Nodup :=
  (pairwise_fileWays h).imp fun hBefore => hBefore.ne h

end Entry

def Listing.ways (l : Listing) : List (List Text) := l.files.map fun name => l.below ++ [name]

namespace Entry

mutual

/-- A walk goes through the files below an entry in their order. -/
theorem flatMap_listings (below : List Text) :
    (e : Entry) → (e.listings below).flatMap Listing.ways = e.fileWays.map (below ++ ·)
  | .file _ => rfl
  | .barred _ => rfl
  | .directory entries => by
      rw [listings, List.flatMap_cons, flatMap_listingsOf below entries, fileWays, List.map_append]
      simp [Listing.ways, Listing.files]

theorem flatMap_listingsOf (below : List Text) :
    (entries : List (Text × Entry)) →
      (listingsOf below entries).flatMap Listing.ways = (fileWaysOf entries).map (below ++ ·)
  | [] => rfl
  | (name, e) :: rest => by
      rw [listingsOf, List.flatMap_append, flatMap_listings (below ++ [name]) e,
        flatMap_listingsOf below rest, fileWaysOf, List.map_append]
      simp

end

end Entry

namespace Disk

variable {disk : Disk} {path part : Text} {tree : Entry} {trail next : List Entry}

/-- A step from well-named directories leads to such, and its part is in order too. -/
theorem step_wellNamed (hTrail : ∀ e ∈ trail, e.WellNamed) (h : step path trail part = .ok next) :
    (∀ e ∈ next, e.WellNamed) ∧
      (part = [] ∨ part = Path.here ∨ part = Path.above ∨ IsEntryName part) := by
  cases step_eq_ok_iff.1 h with
  | stay hStay => exact ⟨hTrail, hStay.imp_right .inl⟩
  | barred hEmpty => exact ⟨hTrail, .inl hEmpty⟩
  | up hUp =>
      refine ⟨?_, .inr (.inr (.inl hUp))⟩
      split
      · exact hTrail
      · exact (List.forall_mem_cons.1 hTrail).2
  | down hLeads hFound =>
      cases (List.forall_mem_cons.1 hTrail).1 with
      | directory hNames hOnce hBelow =>
          have hMember := (lookup_eq_some_iff_mem hOnce).1 hFound
          exact ⟨List.forall_mem_cons.2 ⟨hBelow _ hMember, hTrail⟩,
            .inr (.inr (.inr (hNames _ hMember)))⟩

/-- A whole path through well-named directories ends at such, and all its parts are in order. -/
theorem foldlM_step_wellNamed {way : List Text} (hTrail : ∀ e ∈ trail, e.WellNamed)
    (h : way.foldlM (step path) trail = .ok next) :
    (∀ e ∈ next, e.WellNamed) ∧ ∀ part ∈ way, pathFault? part = none := by
  induction way generalizing trail with
  | nil =>
      cases h
      exact ⟨hTrail, by simp⟩
  | cons part way ih =>
      rw [List.foldlM_cons, bind_eq_ok_iff] at h
      obtain ⟨middle, hFirst, hRest⟩ := h
      obtain ⟨hMiddle, hPart⟩ := step_wellNamed hTrail hFirst
      obtain ⟨hNext, hParts⟩ := ih hMiddle hRest
      refine ⟨hNext, List.forall_mem_cons.2 ⟨?_, hParts⟩⟩
      rcases hPart with rfl | rfl | rfl | hName
      · rfl
      · rfl
      · rfl
      · exact Option.isNone_iff_eq_none.1 hName.2

/-- A path that leads to an entry can be walked from, and the names below it are in order. A code
point of the path is a slash or stands in one of the parts that were followed. -/
theorem wellNamed_of_locate (hRoot : disk.root.WellNamed) (h : disk.locate path = .ok tree) :
    tree.WellNamed ∧ checkStart path = .ok () := by
  unfold locate at h
  by_cases hEmpty : path.isEmpty = true
  · simp only [hEmpty] at h
    cases h
  · simp only [hEmpty] at h
    generalize hOut : List.foldlM (step path) _ _ = outcome at h
    rcases outcome with fault | _ | ⟨e, outer⟩
    · cases h
    · cases h
    · cases h
      obtain ⟨hTrail, hParts⟩ := foldlM_step_wellNamed (List.forall_mem_singleton.2 hRoot) hOut
      refine ⟨hTrail _ List.mem_cons_self, ?_⟩
      have hFault : pathFault? path = none := by
        rw [pathFault?_eq_none_iff]
        intro p hMember
        rw [← joinWith_splitAll Path.slash path] at hMember
        rcases mem_joinWith hMember with hSlash | ⟨part, hPart, hPoint⟩
        · rw [List.mem_singleton.1 hSlash]
          exact ⟨rfl, by decide⟩
        · exact pathFault?_eq_none_iff.1 (hParts part (List.mem_append_right _ hPart)) p hPoint
      rw [checkStart, hFault]

end Disk

end RepoAudit
