import Mathlib.Data.List.Induction
import RepoAudit.Entries

/-!
What setting keys does to entries, and what adding members does to sets.
-/
namespace RepoAudit

variable {κ α : Type} [BEq κ]

@[simp] theorem setEntries_nil (entries : List (κ × α)) : setEntries [] entries = entries := rfl

@[simp] theorem setEntries_cons (key : κ) (value : α) (news entries : List (κ × α)) :
    setEntries ((key, value) :: news) entries = setEntries news (setEntry key value entries) := rfl

theorem setEntries_append (first second entries : List (κ × α)) :
    setEntries (first ++ second) entries = setEntries second (setEntries first entries) :=
  List.foldl_append

/-- Of two values that are set for a key, the second counts. -/
theorem setEntry_setEntry {key : κ} (hKey : (key == key) = true) (old new : α)
    (entries : List (κ × α)) :
    setEntry key new (setEntry key old entries) = setEntry key new entries := by
  induction entries with
  | nil => simp [setEntry, hKey]
  | cons entry entries ih =>
      obtain ⟨k, value⟩ := entry
      by_cases hSame : (k == key) = true
      · simp [setEntry, hSame]
      · simp [setEntry, hSame, ih]

/-- An entry after a key was set is an old one, or it has the value that was set. -/
theorem mem_setEntry {key : κ} {value : α} {entries : List (κ × α)} {entry : κ × α}
    (h : entry ∈ setEntry key value entries) :
    entry ∈ entries ∨ entry.2 = value ∧
      (entry.1 = key ∨ (entry.1 == key) = true ∧ ∃ old, (entry.1, old) ∈ entries) := by
  induction entries with
  | nil =>
      rw [List.mem_singleton.1 h]
      exact .inr ⟨rfl, .inl rfl⟩
  | cons first entries ih =>
      obtain ⟨k, old⟩ := first
      rw [setEntry] at h
      split at h
      · next hSame =>
          rcases List.mem_cons.1 h with rfl | hRest
          · exact .inr ⟨rfl, .inr ⟨hSame, old, List.mem_cons_self⟩⟩
          · exact .inl (List.mem_cons_of_mem _ hRest)
      · rcases List.mem_cons.1 h with rfl | hRest
        · exact .inl List.mem_cons_self
        · rcases ih hRest with hOld | ⟨hValue, hKey | ⟨hSame, other, hOld⟩⟩
          · exact .inl (List.mem_cons_of_mem _ hOld)
          · exact .inr ⟨hValue, .inl hKey⟩
          · exact .inr ⟨hValue, .inr ⟨hSame, other, List.mem_cons_of_mem _ hOld⟩⟩

/-- What is found under a key stands there under an equal one. -/
theorem exists_of_lookup {key : κ} {value : α} {entries : List (κ × α)}
    (h : entries.lookup key = some value) : ∃ k, (k, value) ∈ entries ∧ (key == k) = true := by
  induction entries with
  | nil => cases h
  | cons entry entries ih =>
      obtain ⟨k, other⟩ := entry
      rw [List.lookup_cons] at h
      split at h
      · next hSame =>
          cases h
          exact ⟨k, List.mem_cons_self, hSame⟩
      · obtain ⟨found, hMember, hSame⟩ := ih h
        exact ⟨found, List.mem_cons_of_mem _ hMember, hSame⟩

/-- A key that stands once leads to its value. -/
theorem lookup_eq_some_iff_mem [LawfulBEq κ] {entries : List (κ × α)}
    (hKeys : (entries.map Prod.fst).Nodup) {key : κ} {value : α} :
    entries.lookup key = some value ↔ (key, value) ∈ entries := by
  induction entries with
  | nil => simp
  | cons entry entries ih =>
      obtain ⟨k, other⟩ := entry
      obtain ⟨hFresh, hRest⟩ := List.nodup_cons.1 hKeys
      rw [List.lookup_cons, List.mem_cons, ← ih hRest, Prod.mk.injEq]
      by_cases hSame : key = k
      · subst hSame
        have hLater : ¬entries.lookup key = some value := by
          rw [ih hRest]
          exact fun hMember => hFresh (List.mem_map.2 ⟨_, hMember, rfl⟩)
        simp [hLater, eq_comm]
      · simp only [beq_eq_false_iff_ne.2 hSame, hSame, false_and, false_or]

/-- A new key goes to the end. -/
theorem setEntry_of_notMem [LawfulBEq κ] {key : κ} {entries : List (κ × α)}
    (h : key ∉ entries.map Prod.fst) (value : α) :
    setEntry key value entries = entries ++ [(key, value)] := by
  induction entries with
  | nil => rfl
  | cons entry entries ih =>
      obtain ⟨k, old⟩ := entry
      rw [List.map_cons, List.mem_cons, not_or] at h
      obtain ⟨hOther, hRest⟩ := h
      rw [setEntry, if_neg (by simpa using Ne.symm hOther), ih hRest, List.cons_append]

/-- Keys that stand once keep their order. -/
theorem setEntries_of_nodup [LawfulBEq κ] {news entries : List (κ × α)}
    (h : ((entries ++ news).map Prod.fst).Nodup) : setEntries news entries = entries ++ news := by
  induction news generalizing entries with
  | nil => rw [setEntries_nil, List.append_nil]
  | cons entry news ih =>
      obtain ⟨key, value⟩ := entry
      have hNew : key ∉ entries.map Prod.fst := by
        rw [List.map_append, List.nodup_append] at h
        exact fun hMember => h.2.2 key hMember key List.mem_cons_self rfl
      rw [List.append_cons] at h ⊢
      rw [setEntries_cons, setEntry_of_notMem hNew, ih h]

/-- Adding members one after the other to a set that is empty keeps the first of each. -/
theorem foldl_insertNew [BEq α] [LawfulBEq α] (as : List α) :
    as.foldl (fun set a => insertNew a set) [] = as.eraseDups := by
  induction as using List.reverseRecOn with
  | nil => rfl
  | append_singleton as a ih =>
      rw [List.foldl_append, ih, List.foldl_cons, List.foldl_nil, List.eraseDups_append, insertNew]
      by_cases hMember : a ∈ as
      · simp [hMember, List.removeAll]
      · simp [hMember, List.removeAll, List.eraseDups_cons]

/-- Insertion adds the members and loses none. -/
theorem mem_foldl_insertNew [BEq α] [LawfulBEq α] {as set : List α} {a : α} :
    a ∈ as.foldl (fun set a => insertNew a set) set ↔ a ∈ set ∨ a ∈ as := by
  induction as generalizing set with
  | nil => simp
  | cons first as ih =>
      have hFirst : a ∈ insertNew first set ↔ a ∈ set ∨ a = first := by
        rw [insertNew]
        split
        · next hMember =>
            refine ⟨.inl, ?_⟩
            rintro (hOld | rfl)
            · exact hOld
            · exact List.contains_iff_mem.1 hMember
        · rw [List.mem_append, List.mem_singleton]
      rw [List.foldl_cons, ih, hFirst, List.mem_cons, or_assoc]

theorem setEntry_ne_nil (key : κ) (value : α) (entries : List (κ × α)) :
    setEntry key value entries ≠ [] := by
  cases entries with
  | nil => exact List.cons_ne_nil _ _
  | cons entry entries =>
      rw [setEntry]
      split <;> exact List.cons_ne_nil _ _

/-- There are entries as soon as a key is set. -/
theorem eq_nil_of_setEntries {news entries : List (κ × α)} (h : setEntries news entries = []) :
    news = [] := by
  cases news using List.reverseRecOn with
  | nil => rfl
  | append_singleton news entry =>
      rw [setEntries_append] at h
      exact absurd h (setEntry_ne_nil _ _ _)

section Keys

variable {β : Type} [BEq β] [LawfulBEq β] {key : β → κ}
  (hKey : ∀ a b, (key a == key b) = (a == b))
include hKey

/-- Setting a key adds it to the keys, if keys are told apart by their names. -/
theorem map_fst_setEntry {names : List β} {entries : List (κ × α)}
    (h : entries.map Prod.fst = names.map key) (name : β) (value : α) :
    (setEntry (key name) value entries).map Prod.fst = (insertNew name names).map key := by
  induction entries generalizing names with
  | nil =>
      have hNames : names = [] := List.map_eq_nil_iff.1 h.symm
      subst hNames
      rfl
  | cons entry entries ih =>
      obtain ⟨k, old⟩ := entry
      obtain ⟨other, names, rfl, rfl, hRest⟩ := List.map_eq_cons_iff.1 h.symm
      rw [setEntry, hKey]
      by_cases hSame : other = name
      · subst hSame
        simp [insertNew, hRest]
      · have hIh := ih hRest.symm
        have hOther : ¬name = other := fun hEq => hSame hEq.symm
        simp only [beq_eq_false_iff_ne.2 hSame, Bool.false_eq_true, if_false, List.map_cons, hIh]
        by_cases hMember : name ∈ names
        · simp [insertNew, hMember]
        · simp [insertNew, hMember, hOther]

/-- The keys are in the order in which they were first set. -/
theorem map_fst_setEntries {names : List β} {news : List (κ × α)}
    (h : news.map Prod.fst = names.map key) :
    (setEntries news []).map Prod.fst = names.eraseDups.map key := by
  suffices hAll : ∀ (old : List β) (entries : List (κ × α)), entries.map Prod.fst = old.map key →
      (setEntries news entries).map Prod.fst =
        (names.foldl (fun set name => insertNew name set) old).map key by
    rw [← foldl_insertNew]
    exact hAll [] [] rfl
  induction news generalizing names with
  | nil =>
      intro old entries hEntries
      have hNames : names = [] := List.map_eq_nil_iff.1 h.symm
      subst hNames
      exact hEntries
  | cons entry news ih =>
      intro old entries hEntries
      obtain ⟨k, value⟩ := entry
      obtain ⟨name, names, rfl, rfl, hRest⟩ := List.map_eq_cons_iff.1 h.symm
      rw [setEntries_cons, List.foldl_cons]
      exact ih hRest.symm _ _ (map_fst_setEntry hKey hEntries name value)

end Keys

/-- Setting a key adds one entry at most. -/
theorem length_setEntry_le (key : κ) (value : α) (entries : List (κ × α)) :
    (setEntry key value entries).length ≤ entries.length + 1 := by
  induction entries with
  | nil => exact Nat.le_refl _
  | cons entry entries ih =>
      rw [setEntry]
      split
      · exact Nat.le_succ _
      · exact Nat.succ_le_succ ih

theorem length_setEntries_le (news entries : List (κ × α)) :
    (setEntries news entries).length ≤ entries.length + news.length := by
  induction news generalizing entries with
  | nil => exact Nat.le_refl _
  | cons entry news ih =>
      have hStep := length_setEntry_le entry.1 entry.2 entries
      have hRest := ih (setEntry entry.1 entry.2 entries)
      rw [setEntries_cons, List.length_cons]
      omega

section Forms

-- Equal keys may differ: a form tells apart those that are not equal.
variable {φ : Type} {form : κ → φ} {IsKey : κ → Prop}
  (hForm : ∀ {a b}, IsKey a → IsKey b → ((a == b) = true ↔ form a = form b))

/-- Setting a key keeps entries under keys. -/
theorem isKey_setEntry {key : κ} {value : α} {entries : List (κ × α)} (hKey : IsKey key)
    (hEntries : ∀ entry ∈ entries, IsKey entry.1) :
    ∀ entry ∈ setEntry key value entries, IsKey entry.1 := by
  intro entry hEntry
  rcases mem_setEntry hEntry with hOld | ⟨-, hEq | ⟨-, old, hOld⟩⟩
  · exact hEntries entry hOld
  · rwa [hEq]
  · exact hEntries (entry.1, old) hOld

/-- Entries that are set under keys stand under keys. -/
theorem isKey_setEntries {news entries : List (κ × α)} (hNews : ∀ entry ∈ news, IsKey entry.1)
    (hEntries : ∀ entry ∈ entries, IsKey entry.1) :
    ∀ entry ∈ setEntries news entries, IsKey entry.1 := by
  induction news generalizing entries with
  | nil => exact hEntries
  | cons entry news ih =>
      obtain ⟨hKey, hRest⟩ := List.forall_mem_cons.1 hNews
      exact ih hRest (isKey_setEntry hKey hEntries)

include hForm

/-- On keys, equality is symmetric. -/
theorem beq_comm_of_isKey {a b : κ} (ha : IsKey a) (hb : IsKey b) : (a == b) = (b == a) := by
  rw [Bool.eq_iff_iff, hForm ha hb, hForm hb ha, eq_comm]

/-- Equal keys find the same. -/
theorem lookup_congr {first second : κ} (hFirst : IsKey first) (hSecond : IsKey second)
    (hSame : (first == second) = true) {entries : List (κ × α)}
    (hEntries : ∀ entry ∈ entries, IsKey entry.1) :
    entries.lookup first = entries.lookup second := by
  induction entries with
  | nil => rfl
  | cons entry entries ih =>
      obtain ⟨hHere, hRest⟩ := List.forall_mem_cons.1 hEntries
      have hTest : (first == entry.1) = (second == entry.1) := by
        rw [Bool.eq_iff_iff, hForm hFirst hHere, hForm hSecond hHere,
          (hForm hFirst hSecond).1 hSame]
      rw [List.lookup_cons, List.lookup_cons, hTest, ih hRest]

/-- Only equal keys find the value that was set. -/
theorem lookup_setEntry {key asked : κ} (hKey : IsKey key) (hAsked : IsKey asked) (value : α)
    {entries : List (κ × α)} (hEntries : ∀ entry ∈ entries, IsKey entry.1) :
    (setEntry key value entries).lookup asked =
      if asked == key then some value else entries.lookup asked := by
  induction entries with
  | nil => simp only [setEntry, List.lookup_cons, List.lookup_nil]; split <;> simp [*]
  | cons entry entries ih =>
      obtain ⟨k, old⟩ := entry
      obtain ⟨hHere, hRest⟩ := List.forall_mem_cons.1 hEntries
      rw [setEntry]
      by_cases hSame : (k == key) = true
      · have hTest : (asked == k) = (asked == key) := by
          rw [Bool.eq_iff_iff, hForm hAsked hHere, hForm hAsked hKey, (hForm hHere hKey).1 hSame]
        rw [if_pos hSame, List.lookup_cons, List.lookup_cons, hTest]
        cases asked == key <;> rfl
      · rw [if_neg hSame, List.lookup_cons, List.lookup_cons, ih hRest]
        by_cases hFound : (asked == k) = true
        · have hOther : ¬(asked == key) = true := by
            rw [hForm hAsked hKey, (hForm hAsked hHere).1 hFound, ← hForm hHere hKey]
            exact hSame
          simp only [hFound, if_neg hOther]
        · simp only [Bool.not_eq_true] at hFound
          simp only [hFound]

/-- Of the values that are set for equal keys, the last one counts. -/
theorem lookup_setEntries {asked : κ} (hAsked : IsKey asked) {news entries : List (κ × α)}
    (hNews : ∀ entry ∈ news, IsKey entry.1) (hEntries : ∀ entry ∈ entries, IsKey entry.1) :
    (setEntries news entries).lookup asked =
      (news.reverse.lookup asked).or (entries.lookup asked) := by
  induction news generalizing entries with
  | nil => rfl
  | cons entry news ih =>
      obtain ⟨key, value⟩ := entry
      obtain ⟨hKey, hRest⟩ := List.forall_mem_cons.1 hNews
      rw [setEntries_cons, ih hRest (isKey_setEntry hKey hEntries),
        lookup_setEntry hForm hKey hAsked value hEntries, List.reverse_cons, List.lookup_append,
        Option.or_assoc, List.lookup_cons, List.lookup_nil]
      cases asked == key <;> rfl

theorem lookup_setEntries_nil {asked : κ} (hAsked : IsKey asked) {news : List (κ × α)}
    (hNews : ∀ entry ∈ news, IsKey entry.1) :
    (setEntries news []).lookup asked = news.reverse.lookup asked := by
  rw [lookup_setEntries hForm hAsked hNews (List.forall_mem_nil _), List.lookup_nil,
    Option.or_none]

/-- Setting a key adds an entry if no equal key is known. -/
theorem length_setEntry {key : κ} (hKey : IsKey key) (value : α) {entries : List (κ × α)}
    (hEntries : ∀ entry ∈ entries, IsKey entry.1) :
    (setEntry key value entries).length =
      if (entries.lookup key).isSome then entries.length else entries.length + 1 := by
  induction entries with
  | nil => rfl
  | cons entry entries ih =>
      obtain ⟨k, old⟩ := entry
      obtain ⟨hHere, hRest⟩ := List.forall_mem_cons.1 hEntries
      rw [setEntry, List.lookup_cons, beq_comm_of_isKey hForm hKey hHere]
      rcases k == key with _ | _
      · simp only [Bool.false_eq_true, if_false, List.length_cons, ih hRest]
        split <;> rfl
      · rfl

/-- A key is looked up in vain exactly if no entry has it, from either end. -/
theorem lookup_reverse_eq_none_iff {key : κ} (hKey : IsKey key) {entries : List (κ × α)}
    (hEntries : ∀ entry ∈ entries, IsKey entry.1) :
    entries.reverse.lookup key = none ↔ ∀ entry ∈ entries, (entry.1 == key) = false := by
  rw [List.lookup_eq_none_iff]
  refine forall_congr' fun entry => ?_
  rw [List.mem_reverse]
  refine forall_congr' fun hEntry => ?_
  rw [beq_comm_of_isKey hForm (hEntries entry hEntry) hKey, bne, Bool.not_eq_true']

/-- Every setting of a key has an entry of its own if no two of the keys are equal, and only
then. -/
theorem length_setEntries_eq_iff {news : List (κ × α)} (hNews : ∀ entry ∈ news, IsKey entry.1) :
    (setEntries news []).length = news.length ↔
      news.Pairwise fun first second => (first.1 == second.1) = false := by
  induction news using List.reverseRecOn with
  | nil => simp
  | append_singleton news entry ih =>
      obtain ⟨key, value⟩ := entry
      obtain ⟨hEarlier, hLast⟩ := List.forall_mem_append.1 hNews
      have hKey : IsKey key := hLast (key, value) List.mem_cons_self
      have hLength : (setEntries news []).length ≤ news.length := by
        simpa using length_setEntries_le news []
      have hMade := isKey_setEntries hEarlier (List.forall_mem_nil _)
      have hFresh := lookup_reverse_eq_none_iff hForm hKey hEarlier
      rw [setEntries_append, setEntries_cons, setEntries_nil,
        length_setEntry hForm hKey value hMade, lookup_setEntries_nil hForm hKey hEarlier,
        List.pairwise_append, List.length_append, List.length_singleton]
      have hIff := ih hEarlier
      rcases hFound : news.reverse.lookup key with _ | found
      · have hDistinct := hFresh.1 hFound
        simp only [Option.isSome_none, Bool.false_eq_true, if_false, Nat.add_right_cancel_iff,
          List.pairwise_singleton, true_and, List.mem_singleton, forall_eq]
        exact ⟨fun h => ⟨hIff.1 h, hDistinct⟩, fun h => hIff.2 h.1⟩
      · have hClash : ¬∀ entry ∈ news, (entry.1 == key) = false := fun h => by
          rw [hFresh.2 h] at hFound
          cases hFound
        simp only [Option.isSome_some, if_true, List.mem_singleton, forall_eq]
        exact ⟨fun h => by omega, fun h => absurd h.2.2 hClash⟩

end Forms

end RepoAudit
