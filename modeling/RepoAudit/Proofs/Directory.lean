import Mathlib.Data.List.TakeWhile
import RepoAudit.Directory
import RepoAudit.Proofs.Path
import RepoAudit.Proofs.Step
import RepoAudit.Proofs.Text.Writable

/-!
Paths and what can be read at them: which paths a walk can start at, and why a text cannot be read.
What is reported of a text that cannot be read can always be printed.
-/
namespace RepoAudit

/-- A path that can be printed and that a system takes. -/
def Text.Nameable [Output] (path : Text) : Prop := path.Sayable ∧ .char '\x00' ∉ path

/-- A path can be printed if its parts can. -/
theorem Text.Sayable.join [Output] {directory name : Text} (hDirectory : directory.Sayable)
    (hName : name.Sayable) : (Path.join directory name).Sayable := by
  unfold Path.join
  split
  · exact hName
  · split
    · exact Text.sayable_append.2 ⟨hDirectory, hName⟩
    · exact Text.sayable_append.2 ⟨hDirectory, Text.sayable_cons.2 ⟨by rfl, hName⟩⟩

theorem Text.Sayable.baseName [Output] {path : Text} (h : path.Sayable) :
    (Path.baseName path).Sayable := by
  unfold Path.baseName
  split
  · next front name hSplit =>
      rw [(splitLast?_eq_some_iff.1 hSplit).1] at h
      simp only [Text.sayable_append, Text.sayable_cons] at h
      exact h.2.2
  · exact h

theorem Text.Sayable.directoryName [Output] {path : Text} (h : path.Sayable) :
    (Path.directoryName path).Sayable := by
  unfold Path.directoryName
  split
  · next front name hSplit =>
      rw [(splitLast?_eq_some_iff.1 hSplit).1] at h
      simp only [Text.sayable_append, Text.sayable_cons] at h
      split
      · simp [h.1, h.2.1]
      · intro p hMember
        rw [trimEnd, List.mem_reverse] at hMember
        exact h.1 p (List.mem_reverse.1 ((List.dropWhile_suffix _).subset hMember))
  · exact Text.sayable_nil

/-- A part of a path that stays where it is. -/
def Path.IsStay (part : Text) : Prop := part = [] ∨ part = Path.here

namespace Disk

variable {disk : Disk} {path : Text}

/-- A system takes a path if it takes each of its code points. -/
theorem pathFault?_eq_none_iff : pathFault? path = none ↔
    ∀ p ∈ path, ErrorHandler.escape.passes p ∧ p ≠ .char '\x00' := by
  have hNone : pathFault? path = none ↔
      path.unencodable? .escape = none ∧ .char '\x00' ∉ path := by
    unfold pathFault?
    split <;> simp_all
  rw [hNone, Text.unencodable?_eq_none_iff]
  constructor
  · rintro ⟨hAll, hNul⟩ p hMember
    exact ⟨hAll p hMember, fun hSame => hNul (hSame ▸ hMember)⟩
  · intro hAll
    exact ⟨fun p hMember => (hAll p hMember).1, fun hNul => (hAll _ hNul).2 rfl⟩

/-- A path that can be printed is refused only because of a NUL. -/
theorem checkStart_eq_ok_iff [Output] (h : path.Sayable) :
    checkStart path = .ok () ↔ .char '\x00' ∉ path := by
  have hOk : checkStart path = .ok () ↔ pathFault? path = none := by
    unfold checkStart
    split <;> simp_all
  rw [hOk, pathFault?_eq_none_iff]
  constructor
  · intro hAll hNul
    exact (hAll _ hNul).2 rfl
  · intro hNul p hMember
    exact ⟨ErrorHandler.passes_escape _ (h p hMember), fun hSame => hNul (hSame ▸ hMember)⟩

/-- Where a part of a path leads from a directory and those above it. A barred directory can be
named with a slash behind it, but nothing in it can. -/
inductive Moves (part : Text) : List Entry → List Entry → Prop
  | stay {entries : List (Text × Entry)} {above : List Entry} (hStay : Path.IsStay part) :
    Moves part (.directory entries :: above) (.directory entries :: above)
  | barred {above : List Entry} (hEmpty : part = []) :
    Moves part (.barred true :: above) (.barred true :: above)
  | up {entries : List (Text × Entry)} {above : List Entry} (hUp : part = Path.above) :
    Moves part (.directory entries :: above)
      (if above.isEmpty then .directory entries :: above else above)
  | down {entries : List (Text × Entry)} {above : List Entry} {e : Entry}
    (hLeads : ¬Path.IsStay part ∧ part ≠ Path.above) (hFound : entries.lookup part = some e) :
    Moves part (.directory entries :: above) (e :: .directory entries :: above)

theorem moves_of_step {trail next : List Entry} {part : Text}
    (h : step path trail part = .ok next) : Moves part trail next := by
  unfold step at h
  split at h
  · split at h
    · next hStay =>
        cases h
        exact .stay (by simpa [Path.IsStay] using hStay)
    · next hStay =>
        split at h
        · next hUp =>
            cases h
            exact .up (beq_iff_eq.1 hUp)
        · next hUp =>
            split at h
            · next e hFound =>
                cases h
                refine .down ⟨?_, by simpa using hUp⟩ hFound
                simpa [Path.IsStay] using hStay
            · cases h
  · split at h
    · next hEmpty =>
        cases h
        exact .barred (List.isEmpty_iff.1 hEmpty)
    · cases h
  · cases h
  · cases h
  · cases h

/-- A step leads where its part moves, so the path as a whole matters for faults only. -/
theorem step_eq_ok_iff {trail next : List Entry} {part : Text} :
    step path trail part = .ok next ↔ Moves part trail next := by
  refine ⟨moves_of_step, fun h => ?_⟩
  cases h with
  | stay hStay => rcases hStay with rfl | rfl <;> rfl
  | barred hEmpty => rw [hEmpty]; rfl
  | up hUp => rw [hUp]; rfl
  | down hLeads hFound =>
      obtain ⟨hStay, hUp⟩ := hLeads
      rw [Path.IsStay, not_or] at hStay
      simp [step, hStay.1, hStay.2, hUp, hFound]

/-- A step fails for one of three reasons, whatever the part is. -/
theorem step_fault {trail : List Entry} {part : Text} {fault : Fault}
    (h : step path trail part = .error fault) :
    fault ∈ [.noSuchFile path, .notDirectory path, .accessDenied path] := by
  unfold step at h
  grind

/-- A path leads nowhere for one of three reasons. -/
theorem locate_fault {fault : Fault} (h : disk.locate path = .error fault) :
    fault ∈ [.noSuchFile path, .notDirectory path, .accessDenied path] := by
  have hWay (parts : List Text) (trail : List Entry)
      (hParts : parts.foldlM (step path) trail = .error fault) :
      fault ∈ [.noSuchFile path, .notDirectory path, .accessDenied path] := by
    induction parts generalizing trail with
    | nil => cases hParts
    | cons part parts ih =>
        rw [List.foldlM_cons] at hParts
        cases hStep : step path trail part with
        | error other =>
            rw [hStep] at hParts
            cases hParts
            exact step_fault hStep
        | ok next =>
            rw [hStep] at hParts
            exact ih next hParts
  unfold locate at h
  by_cases hEmpty : path.isEmpty = true
  · simp only [hEmpty] at h
    cases h
    exact List.mem_cons_self
  · simp only [hEmpty] at h
    generalize hOut : List.foldlM (step path) _ _ = outcome at h
    rcases outcome with other | _ | ⟨e, above⟩
    · cases h
      exact hWay _ _ hOut
    · cases h
      exact List.mem_cons_self
    · cases h

/-- Why a text cannot be read can be printed to every output: paths stand in quotes there. -/
theorem readText_fault_writable {fault : Fault} (h : disk.readText path = .error fault) :
    fault.message.Writable := by
  unfold readText at h
  rcases hOut : disk.locate path with other | content | entries | isDirectory
  · rw [hOut] at h
    cases h
    have hFault := locate_fault hOut
    simp only [List.mem_cons, List.not_mem_nil, or_false] at hFault
    rcases hFault with rfl | rfl | rfl <;> simp [Fault.message]
  · rw [hOut] at h
    rcases hDecode : Utf8.decode content with bad | chars
    · simp only [bind, Except.bind, hDecode] at h
      cases h
      cases hReason : bad.reason <;> by_cases hCount : bad.count ≤ 1 <;>
        simp [Fault.message, Fault.undecodableText, hReason, hCount]
    · simp only [bind, Except.bind, hDecode] at h
      cases h
  · rw [hOut] at h
    cases h
    simp [Fault.message]
  · rw [hOut] at h
    cases h
    simp [Fault.message]

/-- What can be read exists. -/
theorem has_of_readText {content : Text} (h : disk.readText path = .ok content) :
    disk.has path = true := by
  obtain ⟨entry, hEntry, -⟩ := bind_eq_ok_iff.1 h
  rw [has, hEntry]
  rfl

end Disk

end RepoAudit
