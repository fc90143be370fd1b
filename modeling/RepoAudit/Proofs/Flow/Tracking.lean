import RepoAudit.Flow.Analysis
import RepoAudit.Proofs.Syntax.Walk

/-!
Walks that keep track of the current function, as runs over a list. Main statement: if entering and
leaving a node are runs over what is laid out there, a walk is a run over what is laid out along the
tree. It holds of all trees, with the same faults and the same state at a fault.
-/
namespace RepoAudit

open Syntax Step

@[simp] theorem Analysis.enterFunction_function (a : Analysis) (f : Json) :
    (a.enterFunction f).function = f := rfl

@[simp] theorem Analysis.enterFunction_self (a : Analysis) : a.enterFunction a.function = a := rfl

/-- Items to work on in turn, each in its function. -/
structure Plan (ε : Type) where
  function : ε → Json
  work : ε → Step Analysis Unit

namespace Plan

variable {ε : Type}

/-- The outcome of an item. -/
def handle (p : Plan ε) (e : ε) (a : Analysis) : Except Fault Unit × Analysis :=
  (p.work e).perform (a.enterFunction (p.function e))

/-- The outcome of items in turn. A fault ends the run; otherwise it ends in the function `f`. -/
def run (p : Plan ε) (f : Json) : List ε → Analysis → Except Fault Unit × Analysis
  | [], a => (.ok (), a.enterFunction f)
  | e :: es, a => match p.handle e a with
    | (.ok _, b) => run p f es b
    | (.error fault, b) => (.error fault, b)

/-- No item moves to another function. -/
def KeepsFunction (p : Plan ε) : Prop :=
  ∀ e a, (p.work e).Leads a fun _ b => b.function = a.function

variable {p : Plan ε} {f g : Json} {e : ε} {es fs : List ε} {a b : Analysis}

/-- An item says itself in which function it is worked on. -/
theorem handle_enterFunction : p.handle e (a.enterFunction f) = p.handle e a := rfl

/-- A run sets the function itself at each event. -/
theorem run_enterFunction : p.run f es (a.enterFunction g) = p.run f es a := by
  cases es with
  | nil => rfl
  | cons e es => rw [run, run, handle_enterFunction]

/-- The function in which the first part ends does not matter. -/
theorem run_append : p.run f (es ++ fs) a = match p.run g es a with
    | (.ok _, b) => p.run f fs b
    | (.error fault, b) => (.error fault, b) := by
  induction es generalizing a with
  | nil => simp [run, run_enterFunction]
  | cons e es ih =>
      simp only [List.cons_append, run]
      rcases p.handle e a with ⟨_ | _, b⟩
      · rfl
      · exact ih

/-- A run that ends without a fault ends in the given function. -/
theorem run_function {u : Unit} (h : p.run f es a = (.ok u, b)) : b.function = f := by
  induction es generalizing a with
  | nil =>
      cases h
      rfl
  | cons e es ih =>
      rw [run] at h
      rcases hOut : p.handle e a with ⟨_ | _, c⟩
      · rw [hOut] at h
        cases h
      · rw [hOut] at h
        exact ih h

/-- What each item keeps, a run keeps, whether or not it ends in a fault. -/
theorem run_keeps {q : Analysis → Prop} (hFunction : ∀ f a, q a → q (a.enterFunction f))
    (hItems : ∀ e ∈ es, ∀ a, q a → (p.work e).Leads a fun _ => q) (h : q a) :
    q (p.run f es a).2 := by
  induction es generalizing a with
  | nil => exact hFunction f a h
  | cons e es ih =>
      obtain ⟨hFirst, hRest⟩ := List.forall_mem_cons.1 hItems
      have hAfter : q (p.handle e a).2 := hFirst _ (hFunction _ a h)
      rw [run]
      rcases hOut : p.handle e a with ⟨_ | _, b⟩
      · rw [hOut] at hAfter
        exact hAfter
      · rw [hOut] at hAfter
        exact ih hRest hAfter

/-- An item ends in the function in which it began. -/
theorem KeepsFunction.handle_function (h : p.KeepsFunction) (e : ε) (a : Analysis) :
    (p.handle e a).2.function = p.function e :=
  h e (a.enterFunction (p.function e))

/-- A run of one event is the work on it, where the work keeps the function. -/
theorem KeepsFunction.run_single (h : p.KeepsFunction) (e : ε) (a : Analysis) :
    p.run (p.function e) [e] a = p.handle e a := by
  have hFunction := h.handle_function e a
  rw [run]
  rcases hOut : p.handle e a with ⟨_ | _, b⟩
  · rfl
  · rw [hOut] at hFunction
    simp only [run, ← hFunction, Analysis.enterFunction_self]

/-- Runs over the lists of some parts in turn are a loop over the parts. -/
theorem perform_forM {α : Type} {work : α → Step Analysis Unit} {as : List α}
    (told : Json → α → List ε)
    (h : ∀ d ∈ as, ∀ a, (work d).perform a = p.run a.function (told a.function d) a)
    (a : Analysis) :
    (as.forM work).perform a = p.run a.function (as.flatMap (told a.function)) a := by
  induction as generalizing a with
  | nil => rfl
  | cons d as ih =>
      obtain ⟨hFirst, hRest⟩ := List.forall_mem_cons.1 h
      rw [List.forM_eq_forM, List.forM_cons, perform_bind, hFirst, List.flatMap_cons,
        run_append (g := a.function)]
      rcases hOut : p.run a.function (told a.function d) a with ⟨_ | _, b⟩
      · rfl
      · rw [← run_function hOut]
        exact ih hRest b

end Plan

/-- Entering and leaving a node are runs over what is laid out there. -/
structure Follows {ε : Type} (v : Visitor Analysis) (p : Plan ε) (l : Layout ε) : Prop where
  enter : ∀ t a, (askValue t >>= fun _ => v.enter t).perform a =
    p.run (innerFunction a.function t) (l.ahead a.function t) a
  leave : ∀ t before a, a.function = innerFunction before.function t →
    (v.leave t before).perform a = p.run before.function (l.behind before.function t) a

namespace Follows

variable {ε : Type} {v : Visitor Analysis} {p : Plan ε} {l : Layout ε}

/-- A walk over a tree is a run over what is laid out along it. -/
theorem perform_walk (h : Follows v p l) (t : Tree) (a : Analysis) :
    (v.walk t).perform a = p.run a.function (l.along a.function t) a := by
  induction t using Tree.induction_children generalizing a with
  | h t ih =>
      cases hKind : t.kind? with
      | none =>
          rw [Visitor.walk_eq_pure hKind, Layout.along_eq_nil hKind]
          rfl
      | some kind =>
          have hNode : t.kind?.isSome := by simp [hKind]
          rw [Visitor.walk_eq hNode, perform_bind, perform_get]
          simp only
          rw [perform_bind, h.enter, Layout.along_eq hNode, List.append_assoc,
            Plan.run_append (g := innerFunction a.function t)]
          rcases hAhead : p.run (innerFunction a.function t) (l.ahead a.function t) a
            with ⟨_ | _, b⟩
          · rfl
          · simp only
            rw [perform_bind, Plan.perform_forM l.along ih b, Plan.run_function hAhead,
              Plan.run_append (g := innerFunction a.function t)]
            rcases hBelow : p.run (innerFunction a.function t)
              (t.children.flatMap (l.along (innerFunction a.function t))) b with ⟨_ | _, c⟩
            · rfl
            · exact h.leave t a c (Plan.run_function hBelow)

/-- A visit of a node is a run over what is laid out along its tree. -/
theorem perform_visit (h : Follows v p l) {t : Tree} (hNode : t.kind?.isSome) (a : Analysis) :
    (v.visit t).perform a = p.run a.function (l.along a.function t) a := by
  cases t with
  | node kind span fields => exact h.perform_walk (.node kind span fields) a
  | _ => cases hNode

end Follows

namespace Tracking

/-- The walk that notes nodes one by one and keeps track of the current function. -/
def visitor (note : Tree → Step Analysis Unit) : Visitor Analysis where
  enter t := if t.kind? = some .functionDef then functionTracker.enter t else note t
  leave := functionTracker.leave

/-- What happens at a node, apart from moving into a definition. -/
def noteNode (note : Tree → Step Analysis Unit) (t : Tree) : Step Analysis Unit := do
  askValue t
  if t.kind? = some .functionDef then discard (Step.attempt (t.nameField "name")) else note t

/-- Nodes to note, each in the function that stands with it. -/
def plan (note : Tree → Step Analysis Unit) : Plan (Json × Tree) where
  function := Prod.fst
  work q := noteNode note q.2

variable {note : Tree → Step Analysis Unit}

/-- Notes that keep the function make a plan that does. -/
theorem keepsFunction_plan (hNote : ∀ t a, (note t).Leads a fun _ b => b.function = a.function) :
    (plan note).KeepsFunction := by
  rintro ⟨f, t⟩ a
  have hAsk := Visitor.askValue_leads (p := fun b => b.function = a.function) t (s := a) rfl
  apply leads_bind_keep hAsk
  intro _ b hAsked
  apply leads_ite
  · intro _
    exact leads_attempt (fun _ _ => hAsked) (fun _ _ => hAsked)
  · intro _
    exact (hNote t b).trans hAsked

/-- Walking over a tree is running over its nodes if no node moves to another function. -/
theorem follows (hNote : ∀ t a, (note t).Leads a fun _ b => b.function = a.function) :
    Follows (visitor note) (plan note) ⟨fun f t => [(f, t)], fun _ _ => []⟩ where
  enter t a := by
    have hFunction := (keepsFunction_plan hNote).handle_function (a.function, t) a
    have hHandle : (plan note).handle (a.function, t) a = (noteNode note t).perform a := rfl
    rw [Plan.run, hHandle]
    rw [hHandle] at hFunction
    by_cases hDefinition : t.kind? = some .functionDef
    · have hAsk : (askValue t : Step Analysis Unit) = pure () := by
        simp [askValue, hDefinition]
      simp only [noteNode, visitor, functionTracker, hAsk, hDefinition, pure_bind, if_true,
        beq_self_eq_true, innerFunction]
      rcases t.nameField "name" with fault | name
      · rfl
      · rfl
    · have hSame : (visitor note).enter t = note t := if_neg hDefinition
      rw [noteNode, if_neg hDefinition] at hFunction ⊢
      rw [hSame, innerFunction_of_ne hDefinition]
      rcases hOut : (askValue t >>= fun _ => note t).perform a with ⟨_ | _, b⟩
      · rfl
      · rw [hOut] at hFunction
        have hUnmoved : b.function = a.function := hFunction
        simp only [Plan.run, ← hUnmoved, Analysis.enterFunction_self]
  leave t before a hInner := by
    by_cases hDefinition : t.kind? = some .functionDef
    · simp [visitor, functionTracker, hDefinition, Analysis.leaveFunction, Analysis.enterFunction,
        Plan.run]
    · rw [innerFunction_of_ne hDefinition] at hInner
      simp [visitor, functionTracker, hDefinition, ← hInner, Plan.run]

/-- A visit of a node is a run over the nodes of its tree. -/
theorem perform_visit (hNote : ∀ t a, (note t).Leads a fun _ b => b.function = a.function)
    {t : Tree} (h : t.kind?.isSome) (a : Analysis) : ((visitor note).visit t).perform a =
      (plan note).run a.function (nodesWithin a.function t) a :=
  (follows hNote).perform_visit h a

end Tracking

end RepoAudit
