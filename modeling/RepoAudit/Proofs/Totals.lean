import Mathlib.Algebra.GroupWithZero.Nat
import Mathlib.Data.List.Induction
import Mathlib.Data.List.Nodup
import RepoAudit.Proofs.Entries

/-!
Numbers that are summed up by key. The keys come in the order in which they turn up. Main statement:
summing up counts by the keys of their keys is the same as counting by those in the first place, in
numbers and in order.
-/
namespace RepoAudit

section Keys

variable {κ : Type} [BEq κ] [LawfulBEq κ]

theorem eraseDups_concat (keys : List κ) (key : κ) :
    (keys ++ [key]).eraseDups = insertNew key keys.eraseDups := by
  rw [← foldl_insertNew, List.foldl_concat, foldl_insertNew]

/-- A member that is there is not inserted again. -/
theorem insertNew_of_mem {keys : List κ} {key : κ} (h : key ∈ keys) :
    insertNew key keys = keys := by
  simp [insertNew, h]

theorem insertNew_of_not_mem {keys : List κ} {key : κ} (h : key ∉ keys) :
    insertNew key keys = keys ++ [key] := by
  simp [insertNew, h]

/-- No key is left twice. -/
theorem nodup_eraseDups (keys : List κ) : keys.eraseDups.Nodup := by
  induction keys using List.reverseRecOn with
  | nil => simp
  | append_singleton keys key ih =>
      rw [eraseDups_concat]
      by_cases hKnown : key ∈ keys.eraseDups
      · rwa [insertNew_of_mem hKnown]
      · rw [insertNew_of_not_mem hKnown, List.nodup_append]
        refine ⟨ih, List.nodup_singleton key, ?_⟩
        simp only [List.mem_singleton, forall_eq]
        exact fun other hOther hSame => hKnown (hSame ▸ hOther)

/-- Keys that are left out because they came before lead to nothing new. -/
theorem eraseDups_filterMap_eraseDups {μ : Type} [BEq μ] [LawfulBEq μ] (f : κ → Option μ)
    (keys : List κ) : (keys.eraseDups.filterMap f).eraseDups = (keys.filterMap f).eraseDups := by
  induction keys using List.reverseRecOn with
  | nil => rfl
  | append_singleton keys key ih =>
      rw [eraseDups_concat]
      cases hLed : f key with
      | none =>
          have hSame : (keys ++ [key]).filterMap f = keys.filterMap f := by simp [hLed]
          have hInsert : (insertNew key keys.eraseDups).filterMap f =
              keys.eraseDups.filterMap f := by
            rw [insertNew]
            split <;> simp [hLed]
          rw [hSame, hInsert, ih]
      | some led =>
          have hMore : (keys ++ [key]).filterMap f = keys.filterMap f ++ [led] := by simp [hLed]
          rw [hMore, eraseDups_concat]
          by_cases hKnown : key ∈ keys.eraseDups
          · have hOld : led ∈ (keys.filterMap f).eraseDups := by
              rw [List.mem_eraseDups, List.mem_filterMap]
              exact ⟨key, List.mem_eraseDups.1 hKnown, hLed⟩
            rw [insertNew_of_mem hKnown, insertNew_of_mem hOld, ih]
          · have hInsert : (keys.eraseDups ++ [key]).filterMap f =
                keys.eraseDups.filterMap f ++ [led] := by simp [hLed]
            rw [insertNew_of_not_mem hKnown, hInsert, eraseDups_concat, ih]

/-- The keys stand in the order in which they turn up first. -/
theorem pairwise_findIdx {α : Type} (key? : α → Option κ) (as : List α) :
    (as.filterMap key?).eraseDups.Pairwise fun first second =>
      as.findIdx (key? · == some first) < as.findIdx (key? · == some second) := by
  induction as using List.reverseRecOn with
  | nil => simp
  | append_singleton as a ih =>
      have hBefore (key : κ) (hKey : key ∈ (as.filterMap key?).eraseDups) :
          as.findIdx (key? · == some key) < as.length := by
        rw [List.findIdx_lt_length]
        obtain ⟨other, hOther, hSame⟩ := List.mem_filterMap.1 (List.mem_eraseDups.1 hKey)
        exact ⟨other, hOther, beq_iff_eq.2 hSame⟩
      have hOld : (as.filterMap key?).eraseDups.Pairwise fun first second =>
          (as ++ [a]).findIdx (key? · == some first) <
            (as ++ [a]).findIdx (key? · == some second) := by
        refine ih.imp_of_mem fun {first second} hFirst hSecond hLess => ?_
        rwa [List.findIdx_append, List.findIdx_append, if_pos (hBefore first hFirst),
          if_pos (hBefore second hSecond)]
      cases hKey : key? a with
      | none =>
          have hSame : (as ++ [a]).filterMap key? = as.filterMap key? := by simp [hKey]
          rwa [hSame]
      | some key =>
          have hMore : (as ++ [a]).filterMap key? = as.filterMap key? ++ [key] := by simp [hKey]
          rw [hMore, eraseDups_concat]
          by_cases hKnown : key ∈ (as.filterMap key?).eraseDups
          · rwa [insertNew_of_mem hKnown]
          · rw [insertNew_of_not_mem hKnown, List.pairwise_append]
            refine ⟨hOld, List.pairwise_singleton _ _, ?_⟩
            simp only [List.mem_singleton, forall_eq]
            intro first hFirst
            have hNone : ¬as.findIdx (key? · == some key) < as.length := by
              rw [List.findIdx_lt_length]
              rintro ⟨other, hOther, hSame⟩
              refine hKnown (List.mem_eraseDups.2 (List.mem_filterMap.2 ⟨other, hOther, ?_⟩))
              exact eq_of_beq hSame
            rw [List.findIdx_append, List.findIdx_append, if_pos (hBefore first hFirst),
              if_neg hNone]
            have hPlace := hBefore first hFirst
            omega

variable {α : Type} {value : κ → α}

theorem lookup_map_pair (keys : List κ) (key : κ) :
    (keys.map fun k => (k, value k)).lookup key =
      if keys.contains key then some (value key) else none := by
  induction keys with
  | nil => rfl
  | cons k keys ih =>
      rw [List.map_cons, List.lookup_cons, ih, List.contains_cons]
      by_cases hSame : key = k
      · simp [hSame]
      · simp only [beq_eq_false_iff_ne.2 hSame, Bool.false_or]

/-- What becomes of entries that are told by their keys when one of them is set. -/
theorem setEntry_map_pair {keys : List κ} (hKeys : keys.Nodup) (key : κ) (new : α) :
    setEntry key new (keys.map fun k => (k, value k)) =
      (insertNew key keys).map fun k => (k, if k == key then new else value k) := by
  have hOthers {others : List κ} (hFresh : key ∉ others) :
      (others.map fun k => (k, if k == key then new else value k)) =
        others.map fun k => (k, value k) := by
    refine List.map_congr_left fun k hMember => ?_
    have hOther : k ≠ key := fun hSame => hFresh (hSame ▸ hMember)
    simp [hOther]
  induction keys with
  | nil => simp [setEntry, insertNew]
  | cons k keys ih =>
      obtain ⟨hFresh, hRest⟩ := List.nodup_cons.1 hKeys
      rw [List.map_cons, setEntry]
      by_cases hSame : k = key
      · subst hSame
        rw [insertNew_of_mem List.mem_cons_self, List.map_cons, hOthers hFresh]
        simp
      · have hInsert : insertNew key (k :: keys) = k :: insertNew key keys := by
          simp only [insertNew, List.contains_cons, beq_eq_false_iff_ne.2 (Ne.symm hSame),
            Bool.false_or]
          split <;> rfl
        rw [hInsert, List.map_cons, ih hRest]
        simp [hSame]

end Keys

section Totals

variable {κ α : Type} [BEq κ] {key? : α → Option κ} {number : α → Nat}

def total (key? : α → Option κ) (number : α → Nat) (as : List α) (key : κ) : Nat :=
  ((as.filter fun a => key? a == some key).map number).sum

/-- The keys in the order in which they turn up, each with its total. -/
def totals (key? : α → Option κ) (number : α → Nat) (as : List α) : List (κ × Nat) :=
  (as.filterMap key?).eraseDups.map fun key => (key, total key? number as key)

theorem total_concat (as : List α) (a : α) (key : κ) :
    total key? number (as ++ [a]) key =
      total key? number as key + if key? a == some key then number a else 0 := by
  rw [total, List.filter_append, List.map_append, List.sum_append, total]
  cases hKey : key? a == some key <;> simp [hKey]

/-- A total of ones is a count. -/
theorem total_one (as : List α) (key : κ) :
    total key? (fun _ => 1) as key = as.countP fun a => key? a == some key := by
  rw [total, List.map_const', List.sum_replicate_nat, Nat.mul_one, List.countP_eq_length_filter]

theorem totals_concat_of_none {as : List α} {a : α} (h : key? a = none) :
    totals key? number (as ++ [a]) = totals key? number as := by
  have hSame (key : κ) : total key? number (as ++ [a]) key = total key? number as key := by
    simp [total_concat, h]
  have hKeys : (as ++ [a]).filterMap key? = as.filterMap key? := by simp [h]
  simp only [totals, hSame, hKeys]

variable [LawfulBEq κ]

/-- Under each key stands its total. -/
theorem lookup_totals (as : List α) (key : κ) :
    ((totals key? number as).lookup key).getD 0 = total key? number as key := by
  rw [totals, lookup_map_pair]
  split
  · rfl
  · next hFresh =>
      have hNone : ∀ a ∈ as, ¬(key? a == some key) = true := by
        intro a hMember hKey
        refine hFresh ?_
        rw [List.contains_iff_mem, List.mem_eraseDups, List.mem_filterMap]
        exact ⟨a, hMember, eq_of_beq hKey⟩
      rw [total, List.filter_eq_nil_iff.2 hNone]
      rfl

/-- What comes last is added to its key. -/
theorem totals_concat_of_some {as : List α} {a : α} {key : κ} (h : key? a = some key) :
    totals key? number (as ++ [a]) =
      setEntry key (((totals key? number as).lookup key).getD 0 + number a)
        (totals key? number as) := by
  have hKeys : (as ++ [a]).filterMap key? = as.filterMap key? ++ [key] := by simp [h]
  rw [lookup_totals, totals, totals, setEntry_map_pair (nodup_eraseDups _), hKeys,
    eraseDups_concat]
  refine List.map_congr_left fun k _ => ?_
  rw [total_concat, h]
  by_cases hSame : k = key
  · simp [hSame]
  · simp [hSame, Ne.symm hSame]

section Nested

variable {μ : Type} [BEq μ] (f : κ → Option μ)

/-- What is added under a key is added to the key of that key. -/
theorem total_setEntry (entries : List (κ × Nat)) (key : κ) (n : Nat) (led : μ) :
    total (fun entry => f entry.1) Prod.snd
        (setEntry key ((entries.lookup key).getD 0 + n) entries) led =
      total (fun entry => f entry.1) Prod.snd entries led +
        if f key == some led then n else 0 := by
  induction entries with
  | nil => cases hLed : f key == some led <;> simp [total, setEntry, hLed]
  | cons entry entries ih =>
      obtain ⟨k, old⟩ := entry
      rw [setEntry, List.lookup_cons]
      by_cases hSame : k = key
      · subst hSame
        cases hLed : f k == some led <;> simp [total, hLed]
        omega
      · simp only [beq_eq_false_iff_ne.2 hSame, beq_eq_false_iff_ne.2 (Ne.symm hSame),
          Bool.false_eq_true, if_false]
        cases hLed : f k == some led <;> simp [total, hLed] at ih ⊢ <;> omega

variable [LawfulBEq μ]

/-- Totals by key are summed up by the keys of the keys. -/
theorem totals_totals (as : List α) :
    totals (fun entry : κ × Nat => f entry.1) Prod.snd (totals key? number as) =
      totals (fun a => (key? a).bind f) number as := by
  have hKeys : ((totals key? number as).filterMap fun entry => f entry.1).eraseDups =
      (as.filterMap fun a => (key? a).bind f).eraseDups := by
    rw [totals, List.filterMap_map, ← List.filterMap_filterMap]
    exact eraseDups_filterMap_eraseDups f _
  have hTotal (led : μ) :
      total (fun entry : κ × Nat => f entry.1) Prod.snd (totals key? number as) led =
        total (fun a => (key? a).bind f) number as led := by
    clear hKeys
    induction as using List.reverseRecOn with
    | nil => rfl
    | append_singleton as a ih =>
        rw [total_concat]
        cases hKey : key? a with
        | none => simp [totals_concat_of_none hKey, ih]
        | some key => rw [totals_concat_of_some hKey, total_setEntry, ih, Option.bind_some]
  rw [totals, hKeys, totals]
  exact List.map_congr_left fun led _ => by rw [← hTotal led, totals]

end Nested

end Totals

end RepoAudit
