import RepoAudit.Proofs.Path

/-!
Ways between paths. However a path is spelled, a name that is joined to it adds one part at its end.
Main statement: the way from a path to names joined to it consists of these names.
-/
namespace RepoAudit.Path

/-- A part of a path that leads somewhere, down or up. -/
def IsPart (part : Text) : Prop := part ≠ [] ∧ part ≠ here ∧ slash ∉ part

/-- A part of a path that leads down: it names an entry of a directory. -/
def IsName (name : Text) : Prop := IsPart name ∧ name ≠ above

instance (part : Text) : Decidable (IsPart part) := inferInstanceAs (Decidable (_ ∧ _ ∧ _))

instance (name : Text) : Decidable (IsName name) := inferInstanceAs (Decidable (_ ∧ _))

variable {current start path part name : Text} {way names : List Text}

section Parts

@[simp] theorem parts_nil : parts [] = [] := rfl

/-- The parts of two paths with a slash between them. -/
theorem parts_append_slash (front back : Text) :
    parts (front ++ slash :: back) = parts front ++ parts back := by
  rw [parts, splitAll_append, List.filter_append]
  rfl

theorem parts_slash_cons (path : Text) : parts (slash :: path) = parts path := by
  rw [← List.nil_append (slash :: path), parts_append_slash, parts_nil, List.nil_append]

/-- The parts of a path hold no slash and are neither empty nor a single dot. -/
theorem isPart_of_mem_parts (h : part ∈ parts path) : IsPart part := by
  rw [parts, List.mem_filter, Bool.and_eq_true] at h
  exact ⟨by simpa using h.2.1, by simpa using h.2.2, not_mem_of_mem_splitAll h.1⟩

theorem parts_of_isPart (h : IsPart part) : parts part = [part] := by
  obtain ⟨hSome, hHere, hSlash⟩ := h
  simp [parts, splitAll_of_not_mem hSlash, hSome, hHere]

/-- Parts with slashes between them are taken apart again. -/
theorem parts_joinWith (h : ∀ part ∈ way, IsPart part) : parts (joinWith [slash] way) = way := by
  induction way with
  | nil => rfl
  | cons part way ih =>
      obtain ⟨hPart, hWay⟩ := List.forall_mem_cons.1 h
      cases way with
      | nil => exact parts_of_isPart hPart
      | cons next way =>
          rw [joinWith, List.append_assoc, List.singleton_append, parts_append_slash,
            parts_of_isPart hPart, ih hWay]
          rfl

/-- The parts of a path below a directory follow those of the directory. -/
theorem parts_join (directory path : Text) :
    parts (join directory path) =
      if isAbsolute path then parts path else parts directory ++ parts path := by
  rw [join]
  split
  · rfl
  · by_cases hEmpty : directory = []
    · simp [hEmpty]
    · by_cases hLast : directory.getLast? = some slash
      · obtain ⟨front, rfl⟩ := List.getLast?_eq_some_iff.1 hLast
        have hFront : parts (front ++ [slash]) = parts front := by
          rw [parts_append_slash, parts_nil, List.append_nil]
        simp [hFront, parts_append_slash]
      · simp [hEmpty, hLast, parts_append_slash]

theorem isAbsolute_of_isName (h : IsName name) : isAbsolute name = false :=
  isAbsolute_of_not_mem h.1.2.2

/-- A name does not change where a path starts. -/
theorem isAbsolute_join (h : IsName name) : isAbsolute (join path name) = isAbsolute path := by
  have hName := isAbsolute_of_isName h
  cases path with
  | nil =>
      rw [join, hName]
      exact hName
  | cons p path =>
      rw [join, hName]
      by_cases hLast : (p :: path).getLast? = some slash
      · simp [hLast, isAbsolute]
      · simp [hLast, isAbsolute]

end Parts

section Below

/-- Names below a start are the last parts of the path. -/
theorem parts_foldl_join (h : ∀ name ∈ names, IsName name) :
    parts (names.foldl join start) = parts start ++ names := by
  induction names generalizing start with
  | nil => simp
  | cons name names ih =>
      obtain ⟨hName, hNames⟩ := List.forall_mem_cons.1 h
      rw [List.foldl_cons, ih hNames, parts_join, isAbsolute_of_isName hName,
        parts_of_isPart hName.1]
      simp

theorem isAbsolute_foldl_join (h : ∀ name ∈ names, IsName name) :
    isAbsolute (names.foldl join start) = isAbsolute start := by
  induction names generalizing start with
  | nil => rfl
  | cons name names ih =>
      obtain ⟨hName, hNames⟩ := List.forall_mem_cons.1 h
      rw [List.foldl_cons, ih hNames, isAbsolute_join hName]

/-- A part is appended, or the last one is dropped. -/
theorem climb_concat (parts : List Text) (part : Text) :
    climb (parts ++ [part]) =
      if part = above then (climb parts).dropLast else climb parts ++ [part] := by
  simp [climb, List.foldl_append]

theorem climb_append (front : List Text) (h : ∀ name ∈ names, IsName name) :
    climb (front ++ names) = climb front ++ names := by
  induction names using List.reverseRecOn with
  | nil => simp
  | append_singleton names name ih =>
      obtain ⟨hNames, hName⟩ := List.forall_mem_append.1 h
      have hDown := (List.forall_mem_singleton.1 hName).2
      rw [← List.append_assoc, climb_concat, if_neg hDown, ih hNames, List.append_assoc]

/-- Where steps upwards are done, only names are left. -/
theorem isName_of_mem_climb (hWay : ∀ part ∈ way, IsPart part) (h : name ∈ climb way) :
    IsName name := by
  induction way using List.reverseRecOn with
  | nil => cases h
  | append_singleton way part ih =>
      obtain ⟨hBefore, hPart⟩ := List.forall_mem_append.1 hWay
      rw [climb_concat] at h
      split at h
      · exact ih hBefore (List.dropLast_subset _ h)
      · next hDown =>
          rcases List.mem_append.1 h with hEarlier | hLast
          · exact ih hBefore hEarlier
          · obtain rfl := List.mem_singleton.1 hLast
            exact ⟨List.forall_mem_singleton.1 hPart, hDown⟩

/-- The parts of a resolved path are what climbing leaves. -/
theorem parts_resolve (path : Text) : parts (resolve path) = climb (parts path) := by
  rw [resolve, parts_slash_cons, parts_joinWith fun _ hMember =>
    (isName_of_mem_climb (fun _ => isPart_of_mem_parts) hMember).1]

/-- Names that are joined to a path are still the last parts of its absolute path. -/
theorem parts_absolute_foldl_join (h : ∀ name ∈ names, IsName name) :
    parts (absolute current (names.foldl join start)) =
      parts (absolute current start) ++ names := by
  simp only [absolute, parts_resolve, parts_join, isAbsolute_foldl_join h, parts_foldl_join h]
  split
  · exact climb_append _ h
  · rw [← List.append_assoc, climb_append _ h]

theorem shared_append (first second : List Text) :
    shared first (first ++ second) = first.length := by
  induction first with
  | nil => cases second <;> rfl
  | cons a first ih => simp [shared, ih]

theorem foldl_join_eq {first : Text} (hFirst : first ≠ [] ∧ first.getLast? ≠ some slash)
    (h : ∀ name ∈ names, IsName name) :
    names.foldl join first = joinWith [slash] (first :: names) := by
  induction names generalizing first with
  | nil => rfl
  | cons name names ih =>
      obtain ⟨hName, hNames⟩ := List.forall_mem_cons.1 h
      obtain ⟨hSome, -, hSlash⟩ := hName.1
      have hLast : (first ++ slash :: name).getLast? ≠ some slash := by
        rw [List.getLast?_append_of_ne_nil _ (List.cons_ne_nil _ _),
          List.getLast?_cons_of_ne_nil hSome]
        exact fun hSame => hSlash (List.mem_of_getLast? hSame)
      rw [List.foldl_cons, join_of_not_mem hFirst.1 hFirst.2 hSlash, ih ⟨by simp, hLast⟩ hNames]
      cases names <;> simp [joinWith]

/-- The way from a path to names below it consists of these names, however the path is spelled. -/
theorem relative_foldl_join (hSome : names ≠ []) (h : ∀ name ∈ names, IsName name) :
    relative current (names.foldl join start) start = joinWith [slash] names := by
  obtain ⟨first, names, rfl⟩ := List.exists_cons_of_ne_nil hSome
  obtain ⟨hFirst, hNames⟩ := List.forall_mem_cons.1 h
  have hLast : first.getLast? ≠ some slash := fun hSame =>
    hFirst.1.2.2 (List.mem_of_getLast? hSame)
  simp only [relative, parts_absolute_foldl_join h, shared_append, Nat.sub_self,
    List.replicate_zero, List.nil_append, List.drop_left]
  exact foldl_join_eq ⟨hFirst.1.1, hLast⟩ hNames

end Below

section Normal

/-- A path has the same parts in its normal form. -/
theorem parts_normal (path : Text) : parts (normal path) = parts path := by
  have hRoot (rest : Text) : parts (root path ++ rest) = parts rest := by
    unfold root
    split <;> simp [parts_slash_cons]
  have hParts := parts_joinWith fun part (hPart : part ∈ parts path) => isPart_of_mem_parts hPart
  unfold normal
  dsimp only
  split
  · next hEmpty =>
      rw [List.isEmpty_iff, List.append_eq_nil_iff] at hEmpty
      rw [← hParts, hEmpty.2]
      rfl
  · rw [hRoot, hParts]

end Normal

end RepoAudit.Path
