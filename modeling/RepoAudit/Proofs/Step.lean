import Mathlib.Data.List.Forall2
import RepoAudit.Step

/-!
What steps lead to, whether they fail or not. One lemma for each way to build a step; the outcome of
a compound step then follows from its parts.
-/
namespace RepoAudit

/-- What follows in a computation that may fail has a result if both parts do. -/
theorem bind_eq_ok_iff {ε α β : Type} {first : Except ε α} {next : α → Except ε β} {b : β} :
    first >>= next = .ok b ↔ ∃ a, first = .ok a ∧ next a = .ok b := by
  cases first <;> simp [bind, Except.bind]

/-- Two results in turn succeed exactly if both do. -/
theorem exists_bind_eq_ok_iff {ε α β : Type} {first : Except ε α} {next : α → Except ε β} :
    (∃ b, first >>= next = .ok b) ↔ ∃ a, first = .ok a ∧ ∃ b, next a = .ok b := by
  cases first <;> simp [bind, Except.bind]

theorem exists_bind_ok {ε α β : Type} {first : Except ε α} {next : α → Except ε β} {a : α}
    (hFirst : first = .ok a) (hNext : ∃ b, next a = .ok b) : ∃ b, first >>= next = .ok b :=
  exists_bind_eq_ok_iff.2 ⟨a, hFirst, hNext⟩

/-- Whether a computation has a given result can be decided, whatever its faults are. -/
instance decidableEqOk {ε α : Type} [DecidableEq α] (result : Except ε α) (a : α) :
    Decidable (result = .ok a) :=
  decidable_of_iff (result.toOption = some a) (by cases result <;> simp [Except.toOption])

theorem pure_eq_ok_iff {ε α : Type} {a b : α} : (pure a : Except ε α) = .ok b ↔ a = b := by
  simp [pure, Except.pure]

section Loop

variable {ε α β : Type} {work : α → Except ε β} {result : α → β} {as : List α}

/-- A loop whose turns can only fail in one way does so if one of them does, and collects the
results otherwise. -/
theorem mapM_eq_ite {fails : α → Bool} {fault : ε}
    (h : ∀ a ∈ as, work a = if fails a then .error fault else .ok (result a)) :
    as.mapM work = if as.any fails then .error fault else .ok (as.map result) := by
  induction as with
  | nil => rfl
  | cons a as ih =>
      obtain ⟨hFirst, hRest⟩ := List.forall_mem_cons.1 h
      rw [List.mapM_cons, hFirst, ih hRest, List.any_cons]
      cases fails a with
      | true => rfl
      | false => cases as.any fails <;> rfl

/-- A loop whose turns all succeed gives all their results. -/
theorem mapM_eq_ok_map (h : ∀ a ∈ as, work a = .ok (result a)) :
    as.mapM work = .ok (as.map result) := by
  induction as with
  | nil => rfl
  | cons a as ih =>
      obtain ⟨hFirst, hRest⟩ := List.forall_mem_cons.1 h
      rw [List.mapM_cons, hFirst, ih hRest]
      rfl

/-- A loop goes through if each of its turns does, and collects their results. -/
theorem mapM_eq_ok_iff {bs : List β} :
    as.mapM work = .ok bs ↔ as.Forall₂ (fun a b => work a = .ok b) bs := by
  induction as generalizing bs with
  | nil => rw [List.mapM_nil, pure_eq_ok_iff, List.forall₂_nil_left_iff, eq_comm]
  | cons a as ih =>
      simp only [List.mapM_cons, bind_eq_ok_iff, pure_eq_ok_iff, ih, List.forall₂_cons_left_iff,
        eq_comm (b := bs), exists_and_left]

/-- A loop succeeds exactly if all its turns do. -/
theorem exists_mapM_eq_ok_iff :
    (∃ bs, as.mapM work = .ok bs) ↔ ∀ a ∈ as, ∃ b, work a = .ok b := by
  induction as with
  | nil => simp [pure_eq_ok_iff]
  | cons a as ih =>
      rw [List.forall_mem_cons, ← ih]
      simp only [List.mapM_cons, bind_eq_ok_iff, pure_eq_ok_iff]
      constructor
      · rintro ⟨-, b, hFirst, bs, hRest, -⟩
        exact ⟨⟨b, hFirst⟩, bs, hRest⟩
      · rintro ⟨⟨b, hFirst⟩, bs, hRest⟩
        exact ⟨b :: bs, b, hFirst, bs, hRest, rfl⟩

/-- A loop fails as the first of its turns that fails. -/
theorem mapM_eq_error_iff {fault : ε} :
    as.mapM work = .error fault ↔ ∃ before a after, as = before ++ a :: after ∧
      (∀ earlier ∈ before, ∃ b, work earlier = .ok b) ∧ work a = .error fault := by
  induction as with
  | nil => simp [pure, Except.pure]
  | cons first as ih =>
      rw [List.mapM_cons]
      cases hFirst : work first with
      | error other =>
          constructor
          · intro h
            obtain rfl := Except.error.inj h
            exact ⟨[], first, as, rfl, by simp, hFirst⟩
          · rintro ⟨before, a, after, hAll, hEarlier, hFault⟩
            cases before with
            | nil =>
                obtain ⟨rfl, -⟩ := List.cons.inj hAll
                rw [Except.error.inj (hFirst.symm.trans hFault)]
                rfl
            | cons earlier before =>
                obtain ⟨rfl, -⟩ := List.cons.inj hAll
                obtain ⟨b, hOk⟩ := hEarlier first List.mem_cons_self
                cases hFirst.symm.trans hOk
      | ok b =>
          have hRest : (do let bs ← as.mapM work; pure (b :: bs) : Except ε (List β)) =
              .error fault ↔ as.mapM work = .error fault := by
            cases as.mapM work <;> simp [bind, Except.bind, pure, Except.pure]
          refine hRest.trans (ih.trans ?_)
          constructor
          · rintro ⟨before, a, after, rfl, hEarlier, hFault⟩
            exact ⟨first :: before, a, after, rfl, List.forall_mem_cons.2 ⟨⟨b, hFirst⟩, hEarlier⟩,
              hFault⟩
          · rintro ⟨before, a, after, hAll, hEarlier, hFault⟩
            cases before with
            | nil =>
                obtain ⟨rfl, -⟩ := List.cons.inj hAll
                cases hFirst.symm.trans hFault
            | cons earlier before =>
                obtain ⟨-, rfl⟩ := List.cons.inj hAll
                exact ⟨before, a, after, rfl, (List.forall_mem_cons.1 hEarlier).2, hFault⟩

end Loop

/-- A computation fails with a fault, or it has a result if there is no fault. -/
def EndsBy {ε α : Type} (result : Except ε α) : Option ε → Prop
  | some fault => result = .error fault
  | none => ∃ a, result = .ok a

section EndsBy

variable {ε σ α : Type} {result : Except ε α} {obstacle : Option ε}

/-- There is a result exactly if there is no obstacle. -/
theorem EndsBy.exists_ok_iff (h : EndsBy result obstacle) :
    (∃ a, result = .ok a) ↔ obstacle = none := by
  cases obstacle with
  | none => exact iff_of_true h rfl
  | some fault =>
      have hFault : result = .error fault := h
      simp [hFault]

/-- The fault of a result is its obstacle. -/
theorem EndsBy.eq_error_iff (h : EndsBy result obstacle) {fault : ε} :
    result = .error fault ↔ obstacle = some fault := by
  cases obstacle with
  | none =>
      obtain ⟨a, hOk⟩ := h
      simp [hOk]
  | some other =>
      have hFault : result = .error other := h
      simp [hFault]

/-- A loop that keeps a state fails at the first item that stands in its way. -/
theorem endsBy_foldlM {work : σ → α → Except ε σ} {obstacle : α → Option ε}
    (h : ∀ s a, EndsBy (work s a) (obstacle a)) (s : σ) (as : List α) :
    EndsBy (as.foldlM work s) (as.findSome? obstacle) := by
  induction as generalizing s with
  | nil => exact ⟨s, rfl⟩
  | cons a as ih =>
      have hFirst := h s a
      rw [List.foldlM_cons, List.findSome?_cons]
      cases hObstacle : obstacle a with
      | some fault =>
          rw [hObstacle] at hFirst
          have hFault : work s a = .error fault := hFirst
          rw [hFault]
          rfl
      | none =>
          rw [hObstacle] at hFirst
          obtain ⟨after, hAfter⟩ := hFirst
          rw [hAfter]
          exact ih after

end EndsBy

namespace Step

variable {σ α β : Type}

/-- From a state, a step leads to a result and a state with the property `q`. -/
def Leads (step : Step σ α) (s : σ) (q : Except Fault α → σ → Prop) : Prop :=
  q (step.perform s).1 (step.perform s).2

variable {s : σ} {q : Except Fault β → σ → Prop}

theorem Leads.imp {step : Step σ β} {p : Except Fault β → σ → Prop} (h : step.Leads s p)
    (hImp : ∀ result after, p result after → q result after) : step.Leads s q :=
  hImp _ _ h

/-- What two steps lead to, from what the first leads to. -/
theorem leads_bind {step : Step σ α} {next : α → Step σ β}
    (h : step.Leads s fun result after => match result with
      | .ok a => (next a).Leads after q
      | .error fault => q (.error fault) after) : (step >>= next).Leads s q := by
  unfold Leads at h ⊢
  rw [perform_bind]
  rcases hResult : step.perform s with ⟨fault | a, after⟩
  · rw [hResult] at h
    exact h
  · rw [hResult] at h
    exact h

/-- What follows a step of which it is known where it leads. -/
theorem leads_bind_of {step : Step σ α} {next : α → Step σ β} {p : Except Fault α → σ → Prop}
    (h : step.Leads s p)
    (hNext : ∀ result after, p result after → match result with
      | .ok a => (next a).Leads after q
      | .error fault => q (.error fault) after) : (step >>= next).Leads s q :=
  leads_bind (hNext _ _ h)

/-- What both parts of a step keep, the step keeps. -/
theorem leads_bind_keep {step : Step σ α} {next : α → Step σ β} {p : σ → Prop}
    (h : step.Leads s fun _ => p) (hNext : ∀ a after, p after → (next a).Leads after fun _ => p) :
    (step >>= next).Leads s fun _ => p := by
  apply leads_bind_of h
  intro result after hAfter
  cases result with
  | error fault => exact hAfter
  | ok a => exact hNext a after hAfter

/-- An attempt leaves the state, and a fault ends what follows. -/
theorem leads_attempt {result : Except Fault α} {next : α → Step σ β}
    (hOk : ∀ a, result = .ok a → (next a).Leads s q)
    (hFault : ∀ fault, result = .error fault → q (.error fault) s) :
    (attempt result >>= next).Leads s q := by
  refine leads_bind ?_
  rw [Leads, perform_attempt]
  rcases hResult : result with fault | a
  · exact hFault fault hResult
  · exact hOk a hResult

/-- What is said of results alone holds of an attempt that fails. -/
theorem leads_attempt_ok {result : Except Fault α} {next : α → Step σ β} {p : β → Prop}
    (hOk : ∀ a, result = .ok a → (next a).Leads s fun outcome _ => ∀ b, outcome = .ok b → p b) :
    (attempt result >>= next).Leads s fun outcome _ => ∀ b, outcome = .ok b → p b :=
  leads_attempt hOk fun _ _ _ hFault => nomatch hFault

theorem leads_get {next : σ → Step σ β} (h : (next s).Leads s q) : (get >>= next).Leads s q := h

theorem leads_modify {f : σ → σ} {next : PUnit → Step σ β} (h : (next ()).Leads (f s) q) :
    (modify f >>= next).Leads s q := h

theorem leads_ite {c : Prop} [Decidable c] {yes no : Step σ β} (hYes : c → yes.Leads s q)
    (hNo : ¬c → no.Leads s q) : (if c then yes else no).Leads s q := by
  split
  · exact hYes ‹_›
  · exact hNo ‹_›

/-- A fault is handled where it left off. -/
theorem leads_tryCatch {step : Step σ β} {handle : Fault → Step σ β}
    (h : step.Leads s fun result after => match result with
      | .ok b => q (.ok b) after
      | .error fault => (handle fault).Leads after q) : (tryCatch step handle).Leads s q := by
  unfold Leads at h ⊢
  rw [perform_tryCatch]
  rcases hResult : step.perform s with ⟨fault | b, after⟩
  · rw [hResult] at h
    exact h
  · rw [hResult] at h
    exact h

/-- What every turn of a loop keeps, the loop keeps. -/
theorem leads_forM {p : σ → Prop} {work : α → Step σ Unit} (as : List α)
    (hWork : ∀ a ∈ as, ∀ s, p s → (work a).Leads s fun _ => p) (h : p s) :
    (as.forM work).Leads s fun _ => p := by
  induction as generalizing s with
  | nil => exact h
  | cons a as ih =>
      have hFirst := hWork a List.mem_cons_self s h
      refine leads_bind ?_
      unfold Leads at hFirst ⊢
      rcases hOut : (work a).perform s with ⟨fault | _, after⟩
      · rw [hOut] at hFirst
        exact hFirst
      · rw [hOut] at hFirst
        exact ih (fun b hMember => hWork b (List.mem_cons_of_mem _ hMember)) hFirst

/-- A step goes through if `fits` holds, and only then. It makes a change of the given kind. -/
def Passes (step : Step σ Unit) (fits : Prop) (change : σ → σ → Prop) : Prop :=
  ∀ s, step.Leads s fun result after => (result.isOk = true ↔ fits) ∧ (fits → change s after)

section Passes

variable {step next : Step σ Unit} {fits fits' : Prop} {change change' change'' : σ → σ → Prop}

/-- A weaker change is made under the same condition. -/
theorem Passes.imp (h : step.Passes fits change) (hFits : fits ↔ fits')
    (hChange : ∀ s after, change s after → change' s after) : step.Passes fits' change' := by
  intro s
  refine (h s).imp fun result after hLast => ?_
  rw [← hFits]
  exact ⟨hLast.1, fun hHolds => hChange s after (hLast.2 hHolds)⟩

/-- A step that always fails passes if its condition never holds. -/
theorem passes_of_fault (h : ∀ s, ∃ fault after, step.perform s = (.error fault, after))
    (hFits : ¬fits) : step.Passes fits change := by
  intro s
  obtain ⟨fault, after, hOut⟩ := h s
  rw [Leads, hOut]
  exact ⟨iff_of_false nofun hFits, fun hHolds => absurd hHolds hFits⟩

theorem passes_pure (h : ∀ s, change s s) : Passes (pure ()) True change :=
  fun s => ⟨iff_of_true rfl trivial, fun _ => h s⟩

theorem passes_modify {f : σ → σ} (h : ∀ s, change s (f s)) : Passes (modify f) True change :=
  fun s => ⟨iff_of_true rfl trivial, fun _ => h s⟩

/-- Changes that follow each other are made if both steps go through. The second is only made if the
first is. -/
theorem passes_bind (hFirst : step.Passes fits change) (hNext : fits → next.Passes fits' change')
    (hTrans : ∀ {s middle after}, change s middle → change' middle after → change'' s after) :
    (step >>= fun _ => next).Passes (fits ∧ fits') change'' := by
  intro s
  refine leads_bind_of (hFirst s) fun result middle hMiddle => ?_
  rcases result with fault | _
  · have hUnfit : ¬fits := fun h => nomatch hMiddle.1.2 h
    exact ⟨⟨nofun, fun h => absurd h.1 hUnfit⟩, fun h => absurd h.1 hUnfit⟩
  · have hFits : fits := hMiddle.1.1 rfl
    refine (hNext hFits middle).imp fun result after hLast => ?_
    exact ⟨hLast.1.trans (and_iff_right hFits).symm,
      fun h => hTrans (hMiddle.2 hFits) (hLast.2 h.2)⟩

/-- A result is used, or the fault in its place is handled. -/
theorem passes_attempt {result : Except Fault α} {use : α → Step σ Unit}
    {handle : Fault → Step σ Unit} (hOk : ∀ a, result = .ok a → (use a).Passes True change)
    (hFault : ∀ fault, result = .error fault → (handle fault).Passes True change) :
    Passes (tryCatch (attempt result >>= use) handle) True change := by
  intro s
  apply leads_tryCatch
  cases result with
  | error fault => exact hFault fault rfl s
  | ok a =>
      refine (hOk a rfl s).imp fun result after hLast => ?_
      rcases result with fault | _
      · exact nomatch hLast.1.2 trivial
      · exact hLast

/-- A loop goes through if all of its turns do, and adds up their changes. -/
theorem passes_forM {work : α → Step σ Unit} {fits : α → Prop} {change : α → σ → σ → Prop}
    (total : List α → σ → σ → Prop) (h : ∀ a, (work a).Passes (fits a) (change a))
    (hNil : ∀ s, total [] s s)
    (hCons : ∀ {a as s middle after}, change a s middle → total as middle after →
      total (a :: as) s after) (as : List α) :
    (as.forM work).Passes (∀ a ∈ as, fits a) (total as) := by
  induction as with
  | nil => exact (passes_pure hNil).imp (by simp) fun _ _ => id
  | cons a as ih => exact (passes_bind (h a) (fun _ => ih) hCons).imp (by simp) fun _ _ => id

end Passes

end Step

end RepoAudit
