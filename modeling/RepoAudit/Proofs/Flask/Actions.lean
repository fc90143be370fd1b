import RepoAudit.Proofs.Entries
import RepoAudit.Proofs.Flask.Events

/-!
What a visit does, as a list of actions. Which actions are taken, and whether the visit fails,
depends on the tree and on the function in which it starts, and not on what is known; only a
response looks up what is known. This holds of all trees. Without a trace the same is done, up to
the lines that are printed and the faults of printing them.
-/
namespace RepoAudit.Flask

open Syntax Analysis

/-- Something that an analysis does to its state. -/
inductive Action where
  | print (line : Text)
  | point (name : Text)
  | record (key : Json) (record : SourceRecord)
  | assign (name : Json) (binding : Binding)
  | flow (flow : DataFlow)
  /-- A function makes a response, from what is known of its source and with all variables. -/
  | respond (function sink : Json)

namespace Action

/-- The state after an action. -/
def apply (a : Analysis) : Action → Analysis
  | print line => { a with lines := a.lines ++ [line] }
  | point name => a.addEntryPoint name
  | record key source => a.setSource key source
  | assign name binding => { a with scope := setEntry name binding a.scope }
  | flow found => a.addFlow found
  | respond function sink => a.addFlow ⟨sourceOf a function, sink, [function], a.carriers⟩

/-- Whether an action does more than to print. -/
def isNote : Action → Bool
  | print _ => false
  | _ => true

end Action

/-- The state after actions in turn. -/
def play (actions : List Action) (a : Analysis) : Analysis := actions.foldl Action.apply a

/-- The actions without those that only print. -/
def notes (actions : List Action) : List Action := actions.filter Action.isNote

section Play

variable (first second actions : List Action) (a : Analysis) (f : Json)

theorem play_cons (action : Action) :
    play (action :: actions) a = play actions (action.apply a) := rfl

theorem play_append : play (first ++ second) a = play second (play first a) := List.foldl_append

theorem notes_append : notes (first ++ second) = notes first ++ notes second :=
  List.filter_append _ _

/-- Actions do not ask in which function they are taken. -/
theorem play_enterFunction :
    play actions (a.enterFunction f) = (play actions a).enterFunction f := by
  induction actions generalizing a with
  | nil => rfl
  | cons action actions ih =>
      have hFirst : action.apply (a.enterFunction f) = (action.apply a).enterFunction f := by
        cases action <;> rfl
      rw [play_cons, play_cons, hFirst, ih]

end Play

variable {α β : Type} {f g h : Json}

/-- A step that starts in the function `f` has this result, takes these actions and ends in the
function `g`, whatever is known before. -/
def Scripted (f g : Json) (step : Step Analysis α) (result : Except Fault α)
    (actions : List Action) : Prop :=
  ∀ a : Analysis, step.perform (a.enterFunction f) = (result, (play actions a).enterFunction g)

section Scripted

variable {step : Step Analysis α} {next : α → Step Analysis β} {result : Except Fault β}
  {first second : List Action}

/-- Two steps take the actions of the first and then those of the second. -/
theorem scripted_bind {x : α} (hFirst : Scripted f g step (.ok x) first)
    (hNext : Scripted g h (next x) result second) :
    Scripted f h (step >>= next) result (first ++ second) := by
  intro a
  rw [Step.perform_bind, hFirst, play_append]
  exact hNext _

/-- After a fault nothing more is done. -/
theorem scripted_bind_fault {fault : Fault} (hFirst : Scripted f g step (.error fault) first) :
    Scripted f g (step >>= next) (.error fault) first := by
  intro a
  rw [Step.perform_bind, hFirst]

theorem scripted_attempt (outcome : Except Fault α) :
    Scripted f f (Step.attempt outcome) outcome [] := by
  intro a
  rw [Step.perform_attempt]
  rfl

/-- A change that amounts to actions in the function `f` takes them there. -/
theorem scripted_modify {change : Analysis → Analysis} {actions : List Action}
    (hSame : ∀ a, a.function = f → change a = play actions a) :
    Scripted f f (modify change) (.ok ()) actions := by
  intro a
  rw [Step.perform_modify, hSame _ rfl, play_enterFunction]

/-- A step that asks only in which function it is. -/
theorem scripted_get {next : Analysis → Step Analysis β}
    (hSame : ∀ a, next a = next { function := a.function })
    (h : Scripted f g (next { function := f }) result first) :
    Scripted f g (get >>= next) result first := by
  intro a
  change (next (a.enterFunction f)).perform (a.enterFunction f) = _
  rw [hSame]
  exact h a

end Scripted

/-- In the function `f`, a step takes actions that do not depend on what is known. It has the
expected result and notes what is expected, or it fails and notes only the beginning. -/
def Within (f : Json) (step : Step Analysis α) (expected : Except Fault α)
    (expectedNotes : List Action) : Prop :=
  ∃ result actions, Scripted f f step result actions ∧ notes actions <+: expectedNotes ∧
    ∀ x, result = .ok x → expected = .ok x ∧ notes actions = expectedNotes

section Within

variable {step : Step Analysis α} {next : α → Step Analysis β} {expected : Except Fault β}
  {first second : List Action}

/-- What a step is expected to do at most, it does in some way that does not depend on what is
known. -/
theorem Within.scripted {expected : Except Fault α} (h : Within f step expected first) :
    ∃ result actions, Scripted f f step result actions := by
  obtain ⟨result, actions, hScript, -⟩ := h
  exact ⟨result, actions, hScript⟩

/-- Two steps note at most what both are expected to. A fault leaves out what follows, so that only
the beginning of the first part is noted. -/
theorem within_bind {x : α} (hFirst : Within f step (.ok x) first)
    (hNext : Within f (next x) expected second) :
    Within f (step >>= next) expected (first ++ second) := by
  obtain ⟨result, actions, hStep, hBegin, hSame⟩ := hFirst
  rcases result with fault | y
  · exact ⟨_, _, scripted_bind_fault hStep, hBegin.trans (List.prefix_append _ _), nofun⟩
  · obtain ⟨hResult, hNotes⟩ := hSame y rfl
    cases hResult
    obtain ⟨after, more, hAfter, hMore, hEnd⟩ := hNext
    refine ⟨_, _, scripted_bind hStep hAfter, ?_, fun z hOk => ⟨(hEnd z hOk).1, ?_⟩⟩
    · rw [notes_append, hNotes]
      exact (List.prefix_append_right_inj _).2 hMore
    · rw [notes_append, hNotes, (hEnd z hOk).2]

/-- A step at which nothing is noted may come first. -/
theorem within_after {x : α} (hFirst : Within f step (.ok x) [])
    (hNext : Within f (next x) expected second) : Within f (step >>= next) expected second :=
  within_bind hFirst hNext

/-- Where a step is expected to fail, whatever follows it is left out. -/
theorem within_bind_fault {fault : Fault} (hFirst : Within f step (.error fault) first) :
    Within f (step >>= next) (.error fault) first := by
  obtain ⟨result, actions, hStep, hBegin, hSame⟩ := hFirst
  rcases result with other | y
  · exact ⟨_, _, scripted_bind_fault hStep, hBegin, nofun⟩
  · exact nomatch (hSame y rfl).1

/-- A step whose actions are known notes just these. -/
theorem within_of_scripted {result : Except Fault α} {actions : List Action}
    (h : Scripted f f step result actions) : Within f step result (notes actions) :=
  ⟨result, actions, h, List.prefix_refl _, fun _ hOk => ⟨hOk, rfl⟩⟩

/-- A step that fails at once is within whatever is expected. -/
theorem within_of_fault {expected : Except Fault α} {fault : Fault} {expectedNotes : List Action}
    (h : Scripted f f step (.error fault) []) : Within f step expected expectedNotes :=
  ⟨_, _, h, List.nil_prefix, nofun⟩

/-- A line is not a note, whether or not it can be printed. -/
theorem within_say [Output] (line : Text) : Within f (say line) (.ok ()) [] := by
  rcases hPrinted : line.printed with fault | shown
  · have hFails : Scripted f f (say line) (.error fault) [] := by
      intro a
      rw [say, Step.perform_bind, Step.perform_attempt, hPrinted]
      rfl
    exact within_of_fault hFails
  · refine ⟨.ok (), [.print shown], fun a => ?_, List.nil_prefix, fun _ _ => ⟨rfl, rfl⟩⟩
    rw [say, Step.perform_bind, Step.perform_attempt, hPrinted]
    rfl

theorem within_pure (x : α) : Within f (pure x) (.ok x) [] :=
  within_of_scripted (scripted_attempt (.ok x))

theorem within_trace [Output] (m : Manner) (line : Text) : Within f (m.trace line) (.ok ()) [] := by
  unfold Manner.trace
  split
  · exact within_say line
  · exact within_pure ()

/-- A step that asks only for the current function may be looked at in a new state. -/
theorem within_get {next : Analysis → Step Analysis α} {expected : Except Fault α}
    (hSame : ∀ a, next a = next { function := a.function })
    (h : Within f (next { function := f }) expected first) :
    Within f (get >>= next) expected first := by
  obtain ⟨result, actions, hNext, hNotes⟩ := h
  exact ⟨result, actions, scripted_get hSame hNext, hNotes⟩

end Within

/-- In the function `f`, both steps take actions that do not depend on what is known, and `quiet`
notes what `loud` notes, and perhaps more if `loud` fails. -/
def Quiets (f : Json) (loud quiet : Step Analysis α) : Prop :=
  ∃ result actions, Scripted f f quiet result actions ∧ Within f loud result (notes actions)

section Quiets

variable {loud quiet : Step Analysis α} {next next' : α → Step Analysis β}

/-- Steps can be made quiet one by one. -/
theorem quiets_bind (hFirst : Quiets f loud quiet) (hNext : ∀ x, Quiets f (next x) (next' x)) :
    Quiets f (loud >>= next) (quiet >>= next') := by
  obtain ⟨result, first, hQuiet, hLoud⟩ := hFirst
  rcases result with fault | x
  · exact ⟨_, _, scripted_bind_fault hQuiet, within_bind_fault hLoud⟩
  · obtain ⟨after, second, hQuietNext, hLoudNext⟩ := hNext x
    refine ⟨_, _, scripted_bind hQuiet hQuietNext, ?_⟩
    rw [notes_append]
    exact within_bind hLoud hLoudNext

/-- A step whose actions do not depend on what is known is its own quiet form. -/
theorem quiets_same {result : Except Fault α} {actions : List Action}
    (hScript : Scripted f f loud result actions) : Quiets f loud loud :=
  ⟨result, actions, hScript, within_of_scripted hScript⟩

theorem quiets_pure (x : α) : Quiets f (pure x) (pure x) :=
  quiets_same (scripted_attempt (.ok x))

theorem quiets_attempt (outcome : Except Fault α) :
    Quiets f (Step.attempt outcome) (Step.attempt outcome) :=
  quiets_same (scripted_attempt outcome)

/-- What is noted is noted with and without a trace. -/
theorem quiets_modify {change : Analysis → Analysis} (actions : List Action)
    (hSame : ∀ a, a.function = f → change a = play actions a) :
    Quiets f (modify change) (modify change) :=
  quiets_same (scripted_modify hSame)

/-- Steps that ask in which function they are. -/
theorem quiets_get {next next' : Analysis → Step Analysis β}
    (hLoud : ∀ a, next a = next { function := a.function })
    (hQuiet : ∀ a, next' a = next' { function := a.function })
    (h : Quiets f (next { function := f }) (next' { function := f })) :
    Quiets f (get >>= next) (get >>= next') := by
  obtain ⟨result, actions, hNext', hNext⟩ := h
  exact ⟨result, actions, scripted_get hQuiet hNext', within_get hLoud hNext⟩

theorem quiets_ite {c : Prop} [Decidable c] {other other' : Step Analysis α}
    (hYes : Quiets f loud quiet) (hNo : Quiets f other other') :
    Quiets f (if c then loud else other) (if c then quiet else other') := by
  split
  · exact hYes
  · exact hNo

/-- Each turn of a loop can be made quiet. -/
theorem quiets_forM {work work' : α → Step Analysis Unit}
    (hWork : ∀ x, Quiets f (work x) (work' x)) (xs : List α) :
    Quiets f (xs.forM work) (xs.forM work') := by
  induction xs with
  | nil => exact quiets_pure ()
  | cons x xs ih => exact quiets_bind (hWork x) fun _ => ih

end Quiets

section Handlers

variable {m n : Manner} (hSilent : n.traced = false) (f : Json) (t : Tree)

theorem quiets_askValue : Quiets f (askValue t) (askValue t) := by
  refine quiets_ite ?_ (quiets_pure ())
  exact quiets_bind (quiets_attempt _) fun _ => quiets_pure ()

theorem quiets_noteAttribute : Quiets f (noteAttribute t) (noteAttribute t) := by
  refine quiets_bind (quiets_attempt _) fun value => ?_
  refine quiets_ite ?_ (quiets_pure ())
  refine quiets_bind (quiets_attempt _) fun name => ?_
  refine quiets_ite ?_ (quiets_pure ())
  refine quiets_bind (quiets_attempt _) fun attr => ?_
  refine quiets_ite ?_ (quiets_pure ())
  refine quiets_get (fun _ => rfl) (fun _ => rfl) ?_
  refine quiets_bind (quiets_attempt _) fun function => ?_
  exact quiets_modify [.record function ⟨.flaskInput, f⟩] fun a hFunction => by rw [hFunction]; rfl

include hSilent

/-- The lines of the trace may differ, and may be left out. -/
theorem quiets_trace [Output] (line line' : Text) : Quiets f (m.trace line) (n.trace line') := by
  have hNothing : n.trace line' = pure () := by
    rw [Manner.trace, hSilent]
    rfl
  rw [hNothing]
  exact ⟨.ok (), [], scripted_attempt (.ok ()), within_trace m line⟩

/-- A call is noted alike with and without a trace. Of the state only the function is asked for,
which the lines printed so far do not change. -/
theorem quiets_noteCall [Output] : Quiets f (noteCall m t) (noteCall n t) := by
  refine quiets_bind (quiets_attempt _) fun called => ?_
  refine quiets_ite ?_ (quiets_pure ())
  refine quiets_bind (quiets_attempt _) fun value => ?_
  refine quiets_ite ?_ (quiets_pure ())
  refine quiets_bind (quiets_attempt _) fun receiver => ?_
  refine quiets_bind (quiets_attempt _) fun attr => ?_
  refine quiets_bind (quiets_trace hSilent f _ _) fun _ => ?_
  refine quiets_get (fun _ => rfl) (fun _ => rfl) ?_
  refine quiets_ite ?_ ?_
  · refine quiets_bind (quiets_trace hSilent f _ _) fun _ => ?_
    refine quiets_ite ?_ (quiets_pure ())
    refine quiets_bind (quiets_attempt _) fun function => ?_
    refine quiets_bind (quiets_modify [.record function _] fun _ _ => rfl) fun _ => ?_
    refine quiets_bind (quiets_attempt _) fun carrier => ?_
    exact quiets_modify [.flow _] fun _ _ => rfl
  · refine quiets_bind (quiets_attempt _) fun key => ?_
    refine quiets_ite ?_ (quiets_pure ())
    refine quiets_bind (quiets_trace hSilent f _ _) fun _ => ?_
    refine quiets_ite ?_ (quiets_pure ())
    refine quiets_bind (quiets_attempt _) fun function => ?_
    exact quiets_modify [.respond function _] fun _ _ => rfl

theorem quiets_noteTarget [Output] (target : Tree) :
    Quiets f (noteTarget m t target) (noteTarget n t target) := by
  refine quiets_ite ?_ (quiets_pure ())
  refine quiets_bind (quiets_attempt _) fun name => ?_
  refine quiets_bind (quiets_trace hSilent f _ _) fun _ => ?_
  refine quiets_bind (quiets_attempt _) fun value => ?_
  refine quiets_bind (quiets_attempt _) fun key => ?_
  refine quiets_bind (quiets_modify [.assign key ⟨f, value⟩] fun a hFunction => ?_) fun _ => ?_
  · subst hFunction
    rfl
  refine quiets_ite ?_ (quiets_pure ())
  refine quiets_bind (quiets_attempt _) fun called => ?_
  refine quiets_ite ?_ (quiets_pure ())
  refine quiets_bind (quiets_attempt _) fun function => ?_
  refine quiets_bind (quiets_trace hSilent f _ _) fun _ => ?_
  refine quiets_ite ?_ (quiets_pure ())
  exact quiets_modify [.record key ⟨.externalInput, f⟩] fun a hFunction => by rw [hFunction]; rfl

/-- An assignment is noted alike with and without a trace. -/
theorem quiets_noteAssignment [Output] : Quiets f (noteAssignment m t) (noteAssignment n t) := by
  refine quiets_get (fun _ => rfl) (fun _ => rfl) ?_
  refine quiets_bind (quiets_trace hSilent f _ _) fun _ => ?_
  refine quiets_bind (quiets_attempt _) fun targets => ?_
  exact quiets_forM (quiets_noteTarget hSilent f t) targets

/-- A node is noted alike with and without a trace. -/
theorem quiets_enterNode [Output] : Quiets f (Event.enterNode m t) (Event.enterNode n t) := by
  unfold Event.enterNode
  by_cases hDefinition : t.kind? = some .functionDef
  · rw [if_pos hDefinition, if_pos hDefinition]
    exact quiets_bind (quiets_attempt _) fun _ => quiets_trace hSilent f _ _
  · rw [if_neg hDefinition, if_neg hDefinition]
    unfold enter
    split
    · exact absurd ‹_› hDefinition
    · exact quiets_noteAssignment hSilent f t
    · exact quiets_noteAttribute f t
    · exact quiets_noteCall hSilent f t
    · exact quiets_pure ()

end Handlers

section Definitions

/-- Whether a decorator, of whatever form, is taken for one that registers a route. -/
def registers (decorator : Tree) : Bool :=
  decorator.kind? == some .call &&
    match decorator.field "func" with
    | .ok called => match called.nameField "attr" with
      | .ok attr => attr.isOneOf routeDecorators
      | .error _ => false
    | .error _ => false

/-- What there is to note at a decorator in the function `f`. -/
def routeNotes (f : Json) (decorator : Tree) : List Action :=
  if registers decorator then [.point (httpEndpoint f.display), .flow (routeFlow f)] else []

/-- What there is to note when the decorators of a definition are done. -/
def processorNotes (f : Json) : List Action :=
  if f.isOneOf processors then [.flow (processorFlow f)] else []

variable (m : Manner) (f : Json) (t : Tree)

theorem within_traceDecorator [Output] : Within f (traceDecorator m t) (.ok ()) [] := by
  unfold traceDecorator
  split
  · rcases hDump : t.dump with fault | shown
    · exact within_of_fault (scripted_bind_fault (scripted_attempt (.error fault)))
    · exact within_after (within_of_scripted (scripted_attempt (.ok shown))) (within_say _)
  · exact within_pure ()

/-- At a decorator at most its route is noted. -/
theorem within_noteRouteOf [Output] : Within f (noteRouteOf m t) (.ok ()) (routeNotes f t) := by
  have hNothing (hOther : registers t = false) : routeNotes f t = [] := by
    rw [routeNotes, hOther]
    rfl
  unfold noteRouteOf
  by_cases hCall : t.kind? = some .call
  · rw [if_pos (beq_iff_eq.2 hCall)]
    rcases hField : t.field "func" with fault | called
    · exact within_of_fault (scripted_bind_fault (scripted_attempt (.error fault)))
    · refine within_after (within_of_scripted (scripted_attempt (.ok called))) ?_
      rcases hName : called.nameField "attr" with fault | attr
      · rw [hNothing (by simp [registers, hField, hName])]
        exact within_pure ()
      · by_cases hRoute : attr.isOneOf routeDecorators = true
        · rw [routeNotes, if_pos (by simp [registers, hCall, hField, hName, hRoute])]
          simp only [if_pos hRoute]
          refine within_after (within_trace m _) ?_
          refine within_get (fun _ => rfl) ?_
          refine within_after (within_trace m _) ?_
          have hModify : Scripted f f (modify noteRoute) (.ok ())
              [.point (httpEndpoint f.display), .flow (routeFlow f)] :=
            scripted_modify fun a hFunction => by rw [← hFunction]; rfl
          exact within_of_scripted hModify
        · rw [hNothing (by simp [registers, hField, hName, hRoute])]
          simp only [if_neg hRoute]
          exact within_pure ()
  · rw [if_neg (fun h => hCall (beq_iff_eq.1 h)), hNothing (by simp [registers, hCall])]
    exact within_pure ()

/-- A decorator is noted for the function in which it is examined. -/
theorem within_noteDecorator [Output] : Within f (noteDecorator m t) (.ok ()) (routeNotes f t) := by
  rw [noteDecorator_eq]
  exact within_after (within_traceDecorator m f t) (within_noteRouteOf m f t)

/-- A function is noted as a processor where its definition or one inside it is done. -/
theorem within_noteProcessor : Within f noteProcessor (.ok ()) (processorNotes f) := by
  refine within_get (fun _ => rfl) ?_
  rcases hKey : f.asKey with fault | function
  · exact within_of_fault (scripted_bind_fault (scripted_attempt (.error fault)))
  · obtain ⟨hSame, -⟩ := Json.asKey_eq_ok_iff.1 hKey
    refine within_after (within_of_scripted (scripted_attempt (.ok function))) ?_
    rw [hSame, processorNotes]
    split
    · have hModify : Scripted f f (modify (·.addFlow (processorFlow f))) (.ok ())
          [.flow (processorFlow f)] :=
        scripted_modify fun _ _ => rfl
      exact within_of_scripted hModify
    · exact within_pure ()

end Definitions

end RepoAudit.Flask
