import RepoAudit.Flow.Session
import RepoAudit.Proofs.Flask.History
import RepoAudit.Proofs.Flask.Run

/-!
Where responses come from. A call that reads request data records it for its function, and the next
thing that is looked at is the attribute that it calls, which takes the place of the record. Main
statement: no response is ever traced to request data.
-/
namespace RepoAudit.Flask

open Syntax Analysis

/-- No source is recorded as request data. -/
def Clean (a : Analysis) : Prop := ∀ p ∈ a.sources, p.2.origin ≠ .requestData

def Event.IsCall : Event → Prop
  | .node _ t => t.kind? = some .call
  | _ => False

/-- Each call of an attribute is followed by that attribute. -/
def Followed : List Event → Prop
  | [] => True
  | e :: es => (∀ f t called, e = .node f t → t.kind? = some .call →
      t.field "func" = .ok called → called.kind? = some .attribute →
      ∃ rest, es = .node f called :: rest) ∧ Followed es

/-- No source is recorded as request data, or the next event takes its place. -/
inductive Pending : List Event → Analysis → Prop
  | clean {es : List Event} {a : Analysis} (h : Clean a) : Pending es a
  | next {f location : Json} {called : Tree} {es : List Event} {a before : Analysis}
    (hRequest : IsRequestAttribute called) (hKey : f.IsKey) (hBefore : Clean before)
    (h : a.sources = setEntry f ⟨.requestData, location⟩ before.sources) :
    Pending (.node f called :: es) a

section Followed

variable {c d : Credit} {f : Json} {t : Tree} {es fs : List Event}

theorem followed_append (hFirst : Followed es) (hSecond : Followed fs) : Followed (es ++ fs) := by
  induction es with
  | nil => exact hSecond
  | cons e es ih =>
      refine ⟨fun g t called hEvent hCall hCalled hKind => ?_, ih hFirst.2⟩
      obtain ⟨rest, rfl⟩ := hFirst.1 g t called hEvent hCall hCalled hKind
      exact ⟨rest ++ fs, rfl⟩

/-- Events other than nodes ask for nothing to follow. -/
theorem followed_of_node?_eq_none (h : ∀ e ∈ es, e.node? = none) : Followed es := by
  induction es with
  | nil => trivial
  | cons e es ih =>
      rw [List.forall_mem_cons] at h
      refine ⟨fun g t called hEvent => ?_, ih h.2⟩
      subst hEvent
      cases h.1

theorem credited_followed : Followed (credited c d f t) := by
  refine followed_of_node?_eq_none fun e hEvent => ?_
  have hNone : (credited c d f t).filterMap Event.node? = [] := filterMap_node?_credited
  exact List.filterMap_eq_nil_iff.1 hNone e hEvent

/-- What a call calls stands in its first field. -/
theorem eq_cons_of_field_func {span : Span} {fields : List Tree} {called : Tree}
    (h : (Syntax.Tree.node .call span fields).field "func" = .ok called)
    (hKind : called.kind? = some .attribute) : ∃ rest, fields = called :: rest := by
  match fields with
  | [] => exact nomatch h
  | .absent :: rest => exact nomatch h
  | .leaf value :: rest =>
      cases h
      cases hKind
  | .list items :: rest =>
      cases h
      cases hKind
  | .node kind span' fields' :: rest =>
      cases h
      exact ⟨rest, rfl⟩

/-- The call of an attribute is followed by the attribute. -/
theorem events_followed (c : Credit) (t : Tree) (f : Json) : Followed (events c f t) := by
  refine Layout.along_induction trivial (fun _ _ => followed_append) ?_ f t
  intro f t hNode hBelow
  rw [Layout.along_eq hNode]
  refine ⟨fun g d called hEvent hCall hCalled hKind => ?_,
    followed_append (followed_append credited_followed hBelow) credited_followed⟩
  cases hEvent
  obtain ⟨span, fields, rfl⟩ := Tree.eq_node_of_kind? hCall
  obtain ⟨rest, rfl⟩ := eq_cons_of_field_func hCalled hKind
  obtain ⟨span, fields, rfl⟩ := Tree.eq_node_of_kind? hKind
  exact ⟨_, rfl⟩

end Followed

section Clean

variable {m : Manner} {f : Json} {t : Tree} {es : List Event} {a b : Analysis}

theorem Clean.prints (h : Clean a) (hPrints : Prints a b) : Clean b := by
  unfold Clean
  rw [hPrints.sources]
  exact h

theorem Clean.addFlow (h : Clean a) (flow : DataFlow) : Clean (a.addFlow flow) := h

/-- A source of another kind may be recorded. -/
theorem Clean.setSource (h : Clean a) (name : Json) {record : SourceRecord}
    (hOrigin : record.origin ≠ .requestData) : Clean (a.setSource name record) := by
  intro p hMember
  rcases mem_setEntry hMember with hOld | ⟨hNew, -⟩
  · exact h p hOld
  · rwa [hNew]

/-- After an event: a fault leaves no request data, and otherwise the next event takes its place. -/
def After (es : List Event) : Except Fault Unit → Analysis → Prop
  | .ok _, b => Pending es b
  | .error _, b => Clean b

/-- Where nothing is recorded as request data, nothing is pending. -/
theorem Clean.after {result : Except Fault Unit} (h : Clean b) : After es result b := by
  cases result with
  | ok _ => exact .clean h
  | error _ => exact h

variable [Output]

/-- A call that leaves request data is a call of the attribute that comes next. -/
theorem noteCall_after (h : Clean a) (hFunction : a.function = f) (hCall : t.kind? = some .call)
    (hFollowed : Followed (.node f t :: es)) : (noteCall m t).Leads a (After es) := by
  refine (noteCall_leads m t a).imp fun result b hNote => ?_
  cases hNote with
  | nothing _ hPrints => exact (h.prints hPrints).after
  | sink _ _ _ hPrints => exact ((h.addFlow _).prints hPrints).after
  | @source called _ location flow hCalled hRequest hKey _ hPrints =>
      obtain ⟨rest, rfl⟩ := hFollowed.1 f t called rfl hCall hCalled hRequest.kind
      rw [hFunction] at hKey hPrints
      exact .next hRequest hKey h hPrints.sources

/-- A node records request data only where the next event takes its place. -/
theorem enterNode_after (h : Clean a) (hFunction : a.function = f)
    (hFollowed : Followed (.node f t :: es)) : (Event.enterNode m t).Leads a (After es) := by
  refine Step.leads_ite (fun _ => ?_) (fun hOther => ?_)
  · refine Step.leads_attempt (fun name _ => ?_) (fun _ _ => h.after)
    exact (h.prints (trace_prints m _ a)).after
  · unfold enter
    split
    · exact absurd ‹_› hOther
    · have hClean := noteAssignment_leads m t
        (fun _ _ hPrints hBefore => Clean.prints hBefore hPrints) (fun _ _ _ hBefore => hBefore)
        (fun _ _ _ hBefore => Clean.setSource hBefore _ (by simp)) h
      exact hClean.after
    · have hClean : Clean ((noteAttribute t).perform a).2 := by
        rcases noteAttribute_leads t a with hSame | ⟨-, hSame⟩
        · rwa [hSame]
        · rw [hSame]
          exact h.setSource _ (by simp)
      exact hClean.after
    · next hCall => exact noteCall_after h hFunction hCall hFollowed
    · exact h.after

/-- The attribute that a call of the request reads takes the place of the record. -/
theorem handle_request {called : Tree} (hRequest : IsRequestAttribute called) (hKey : f.IsKey) :
    (plan m).handle (.node f called) a =
      (.ok (), (a.enterFunction f).setSource f ⟨.flaskInput, f⟩) := by
  have hKind := hRequest.kind
  have hAsk : (askValue called : Step Analysis Unit).perform (a.enterFunction f) =
      (.ok (), a.enterFunction f) := by
    simp [askValue, hKind]
  have hEnter : Event.enterNode m called = noteAttribute called := by
    simp [Event.enterNode, enter, hKind]
  rw [handle_plan, Event.work, Event.function, Step.perform_bind, hAsk, hEnter]
  exact perform_noteAttribute_request hRequest hKey

/-- An event keeps request data from staying. -/
theorem handle_after (e : Event) (hFollowed : Followed (e :: es)) (h : Pending (e :: es) a) :
    After es ((plan m).handle e a).1 ((plan m).handle e a).2 := by
  cases h with
  | clean h =>
      have hStart : Clean (a.enterFunction e.function) := h
      cases e with
      | node f t =>
          change (askValue t >>= fun _ => Event.enterNode m t).Leads (a.enterFunction f) (After es)
          exact leads_askValue (fun _ => hStart) (enterNode_after hStart rfl hFollowed)
      | decorator f t =>
          rcases noteDecorator_leads m t (a.enterFunction f) with hPrints | hPrints
          · exact (hStart.prints hPrints).after
          · have hRoute : Clean (noteRoute (a.enterFunction f)) := hStart
            exact (hRoute.prints hPrints).after
      | defined f =>
          rcases noteProcessor_leads (a.enterFunction f) with hSame | hSame
          · exact Clean.after (hSame ▸ hStart)
          · exact Clean.after (hSame ▸ hStart.addFlow _)
      | broken f fault => exact hStart
  | @next f location called _ _ before hRequest hKey hBefore hSources =>
      have hOver : setEntry f ⟨.flaskInput, f⟩ a.sources =
          setEntry f ⟨.flaskInput, f⟩ before.sources := by
        rw [hSources, setEntry_setEntry (Json.beq_self hKey)]
      rw [handle_request hRequest hKey]
      refine .clean fun p hMember => ?_
      change p ∈ setEntry f ⟨.flaskInput, f⟩ a.sources at hMember
      rw [hOver] at hMember
      exact hBefore.setSource f (by simp) p hMember

end Clean

/-- At a moment in the function `location`, what comes from outside is assigned to a variable that
is called `f`. -/
def StoresInput (p : Event × Analysis) (f location : Json) : Prop :=
  ∃ t assigned, p.1 = .node location t ∧ t.kind? = some .assign ∧ TakesInput t assigned ∧
    (f == assigned) = true

/-- A place where the data of the function `f` may come from: the function itself, or the function
in which what comes from outside was assigned to a variable of that name. -/
def Explained (past : List (Event × Analysis)) (f source : Json) : Prop :=
  (source == f) = true ∨ ∃ p ∈ past, StoresInput p f source

/-- Apart from request data, sources are recorded for the function or variable under whose name they
are kept, and the sources of responses are explained by the past. -/
structure Sound (past : List (Event × Analysis)) (a : Analysis) : Prop where
  key : ∀ p ∈ a.sources, p.1.IsKey
  own : ∀ p ∈ a.sources, p.2.origin = .flaskInput →
    p.2.location.IsKey ∧ (p.1 == p.2.location) = true
  input : ∀ p ∈ a.sources, p.2.origin = .externalInput →
    ∃ moment ∈ past, StoresInput moment p.1 p.2.location
  flows : ∀ flow ∈ a.flows, ∀ f, flow.path = [f] → Explained past f flow.source

section Sound

variable {m : Manner} {f : Json} {t : Tree} {past later : List (Event × Analysis)} {a b : Analysis}

/-- What was explained stays explained. -/
theorem Sound.mono (h : Sound past a) (hLater : past ⊆ later) : Sound later a where
  key := h.key
  own := h.own
  input p hMember hOrigin := by
    obtain ⟨moment, hMoment, hStores⟩ := h.input p hMember hOrigin
    exact ⟨moment, hLater hMoment, hStores⟩
  flows flow hMember f hPath := by
    rcases h.flows flow hMember f hPath with hOwn | ⟨moment, hMoment, hStores⟩
    · exact .inl hOwn
    · exact .inr ⟨moment, hLater hMoment, hStores⟩

theorem Sound.prints (h : Sound past a) (hPrints : Prints a b) : Sound past b := by
  obtain ⟨lines, rfl⟩ := hPrints
  exact ⟨h.key, h.own, h.input, h.flows⟩

/-- A response may be added if its source is explained. -/
theorem Sound.addFlow (h : Sound past a) {flow : DataFlow}
    (hFlow : ∀ f, flow.path = [f] → Explained past f flow.source) :
    Sound past (a.addFlow flow) where
  key := h.key
  own := h.own
  input := h.input
  flows other hMember f hPath := by
    rcases List.mem_append.1 hMember with hOld | hNew
    · exact h.flows other hOld f hPath
    · obtain rfl := List.mem_singleton.1 hNew
      exact hFlow f hPath

/-- A source may be recorded if it is the function itself or an input stored at some time. -/
theorem Sound.setSource (h : Sound past a) {name : Json} {record : SourceRecord}
    (hKey : name.IsKey) (hOwn : record.origin = .flaskInput → record.location = name)
    (hInput : record.origin = .externalInput → ∀ k, (k == name) = true →
      ∃ moment ∈ past, StoresInput moment k record.location) :
    Sound past (a.setSource name record) := by
  have hEntry : ∀ p ∈ (a.setSource name record).sources, p ∈ a.sources ∨
      p.2 = record ∧ p.1.IsKey ∧ (p.1 == name) = true := by
    intro p hMember
    rcases mem_setEntry hMember with hOld | ⟨hRecord, hName | ⟨hSame, old, hOld⟩⟩
    · exact .inl hOld
    · rw [hName]
      exact .inr ⟨hRecord, hKey, Json.beq_self hKey⟩
    · exact .inr ⟨hRecord, h.key (p.1, old) hOld, hSame⟩
  refine ⟨fun p hMember => ?_, fun p hMember hOrigin => ?_, fun p hMember hOrigin => ?_, h.flows⟩
  · rcases hEntry p hMember with hOld | ⟨-, hIsKey, -⟩
    · exact h.key p hOld
    · exact hIsKey
  · rcases hEntry p hMember with hOld | ⟨hRecord, -, hSame⟩
    · exact h.own p hOld hOrigin
    · rw [hRecord] at hOrigin ⊢
      rw [hOwn hOrigin]
      exact ⟨hKey, hSame⟩
  · rcases hEntry p hMember with hOld | ⟨hRecord, -, hSame⟩
    · exact h.input p hOld hOrigin
    · rw [hRecord] at hOrigin ⊢
      exact hInput hOrigin p.1 hSame

/-- The source of a function is explained by the past, unless it is request data. -/
theorem Sound.explained (h : Sound past a) (hClean : Clean a) (hKey : f.IsKey) :
    Explained past f (sourceOf a f) := by
  unfold sourceOf
  split
  · next record hLookup =>
      obtain ⟨k, hMember, hSame⟩ := exists_of_lookup hLookup
      have hIsKey := h.key _ hMember
      rcases hOrigin : record.origin with _ | _ | _
      · obtain ⟨moment, hMoment, t, assigned, hEvent, hKind, hTakes, hEqual⟩ :=
          h.input _ hMember hOrigin
        exact .inr ⟨moment, hMoment, t, assigned, hEvent, hKind, hTakes,
          Json.beq_trans hKey hIsKey hTakes.key hSame hEqual⟩
      · obtain ⟨hLocation, hEqual⟩ := h.own _ hMember hOrigin
        exact .inl (Json.beq_symm hKey hLocation
          (Json.beq_trans hKey hIsKey hLocation hSame hEqual))
      · exact absurd hOrigin (hClean _ hMember)
  · exact .inl (Json.beq_self hKey)

variable [Output]

/-- What an assignment records is explained by the moment at which it is made. -/
theorem noteAssignment_sound (h : Sound past a) (hFunction : a.function = f)
    (hAssign : t.kind? = some .assign) (hNow : ∃ before, (.node f t, before) ∈ past) :
    (noteAssignment m t).Leads a fun _ b => Sound past b := by
  obtain ⟨before, hMoment⟩ := hNow
  have hKept := noteAssignment_leads m t (p := fun b => Sound past b ∧ b.function = f)
    (fun _ _ hPrints hBefore => ⟨hBefore.1.prints hPrints, hPrints.function.trans hBefore.2⟩)
    (fun _ _ _ hBefore => ⟨⟨hBefore.1.key, hBefore.1.own, hBefore.1.input, hBefore.1.flows⟩,
      hBefore.2⟩)
    (fun c assigned hTakes hBefore => by
      refine ⟨hBefore.1.setSource hTakes.key (by simp) fun _ k hSame => ?_, hBefore.2⟩
      rw [hBefore.2]
      exact ⟨_, hMoment, t, assigned, rfl, hAssign, hTakes, hSame⟩)
    ⟨h, hFunction⟩
  exact hKept.1

/-- A call traces responses to sources that are explained. -/
theorem noteCall_sound (h : Sound past a) (hClean : Clean a) :
    (noteCall m t).Leads a fun _ b => Sound past b := by
  refine (noteCall_leads m t a).imp fun result b hNote => ?_
  cases hNote with
  | nothing _ hPrints => exact h.prints hPrints
  | source _ _ _ _ hKey hPath hPrints =>
      refine (Sound.addFlow (h.setSource hKey (by simp) (by simp)) fun g hSingle => ?_).prints
        hPrints
      rw [hSingle] at hPath
      cases hPath
  | sink _ _ hKey hPrints =>
      refine (h.addFlow fun g hSingle => ?_).prints hPrints
      cases hSingle
      exact h.explained hClean hKey

/-- A node keeps all responses explained. -/
theorem enterNode_sound (h : Sound past a) (hFunction : a.function = f)
    (hClean : t.kind? = some .call → Clean a) (hNow : ∃ before, (.node f t, before) ∈ past) :
    (Event.enterNode m t).Leads a fun _ b => Sound past b := by
  refine Step.leads_ite (fun _ => ?_) (fun hOther => ?_)
  · exact Step.leads_attempt (fun _ _ => h.prints (trace_prints m _ a)) (fun _ _ => h)
  · unfold enter
    split
    · exact absurd ‹_› hOther
    · next hAssign => exact noteAssignment_sound h hFunction hAssign hNow
    · rcases noteAttribute_leads t a with hSame | ⟨hKey, hSame⟩
      · rwa [Step.Leads, hSame]
      · rw [Step.Leads, hSame]
        exact h.setSource hKey (fun _ => rfl) (by simp)
    · next hCall => exact noteCall_sound h (hClean hCall)
    · exact h

/-- An event adds sources and responses that its past explains. -/
theorem handle_sound (e : Event) (h : Sound past a) (hClean : e.IsCall → Clean a) :
    Sound (past ++ [(e, a)]) ((plan m).handle e a).2 := by
  have hMono := h.mono (List.subset_append_left past [(e, a)])
  have hStart : Sound (past ++ [(e, a)]) (a.enterFunction e.function) :=
    ⟨hMono.key, hMono.own, hMono.input, hMono.flows⟩
  cases e with
  | node f t =>
      have hNow : ∃ before, (.node f t, before) ∈ past ++ [(.node f t, a)] := ⟨a, by simp⟩
      change (askValue t >>= fun _ => Event.enterNode m t).Leads (a.enterFunction f) fun _ b =>
        Sound (past ++ [(.node f t, a)]) b
      exact leads_askValue (fun _ => hStart) (enterNode_sound hStart rfl hClean hNow)
  | decorator f t =>
      rcases noteDecorator_leads m t (a.enterFunction f) with hPrints | hPrints
      · exact hStart.prints hPrints
      · have hPoint : Sound (past ++ [(.decorator f t, a)])
            ((a.enterFunction f).addEntryPoint (httpEndpoint f.display)) :=
          ⟨hStart.key, hStart.own, hStart.input, hStart.flows⟩
        exact (hPoint.addFlow (fun g hPath => by cases hPath)).prints hPrints
  | defined f =>
      rcases noteProcessor_leads (a.enterFunction f) with hSame | hSame
      · exact hSame ▸ hStart
      · rw [handle_plan, Event.work, Event.function, hSame]
        exact hStart.addFlow (fun g hPath => by cases hPath)
  | broken f fault => exact hStart

end Sound

/-- The state of an analysis with events to come: request data may wait for the next event, but
there was none at the calls in the past, and sources and responses are explained by the past. -/
structure Tracked (es : List Event) (past : List (Event × Analysis)) (a : Analysis) : Prop where
  followed : Followed es
  pending : Pending es a
  calls : ∀ p ∈ past, p.1.IsCall → Clean p.2
  sound : Sound past a

section Tracked

variable {m : Manner} {f : Json} {es : List Event} {past : List (Event × Analysis)} {a b : Analysis}

/-- When a call comes next, nothing is recorded as request data. -/
theorem Pending.clean_of_isCall {e : Event} (h : Pending (e :: es) a) (hCall : e.IsCall) :
    Clean a := by
  cases h with
  | clean h => exact h
  | next hRequest _ _ _ =>
      have hKind := hRequest.kind
      rw [Event.IsCall, hKind] at hCall
      cases hCall

theorem Pending.clean_of_nil (h : Pending [] a) : Clean a := by
  cases h with
  | clean h => exact h

/-- The current function plays no part between visits. -/
theorem tracked_enterFunction (h : Tracked [] past a) : Tracked [] past (a.enterFunction f) where
  followed := trivial
  pending := .clean h.pending.clean_of_nil
  calls := h.calls
  sound := ⟨h.sound.key, h.sound.own, h.sound.input, h.sound.flows⟩

theorem tracked_initial : Tracked [] [] {} := by
  refine ⟨trivial, .clean ?_, ?_, ?_, ?_, ?_, ?_⟩
  · simp [Clean]
  all_goals simp

variable [Output]

/-- An event keeps an analysis on track. -/
theorem handle_tracked (e : Event) (h : Tracked (e :: es) past a) :
    match (plan m).handle e a with
    | (.ok _, b) => Tracked es (past ++ [(e, a)]) b
    | (.error _, b) => Tracked [] (past ++ [(e, a)]) b := by
  have hAfter := handle_after (m := m) e h.followed h.pending
  have hSound := handle_sound (m := m) e h.sound h.pending.clean_of_isCall
  have hCalls : ∀ p ∈ past ++ [(e, a)], p.1.IsCall → Clean p.2 := by
    rw [List.forall_mem_append, List.forall_mem_singleton]
    exact ⟨h.calls, h.pending.clean_of_isCall⟩
  rcases hOut : (plan m).handle e a with ⟨fault | _, b⟩
  · rw [hOut] at hAfter hSound
    exact ⟨trivial, .clean hAfter, hCalls, hSound⟩
  · rw [hOut] at hAfter hSound
    exact ⟨h.followed.2, hAfter, hCalls, hSound⟩

/-- A visit of a tree keeps an analysis on track. -/
theorem run_tracked (t : Tree) (h : Tracked [] past a) :
    Tracked [] (past ++ moments m (events m.credit a.function t) a)
      ((plan m).run a.function (events m.credit a.function t) a).2 := by
  refine run_invariant (fun e _ _ _ => handle_tracked e) (fun _ _ => tracked_enterFunction) ?_
  exact ⟨events_followed m.credit t a.function, .clean h.pending.clean_of_nil, h.calls, h.sound⟩

end Tracked

/-- A name without colons, as identifiers are. -/
def Plain (f : Json) : Prop := CodePoint.char ':' ∉ f.display
deriving Decidable

/-- The functions that a tree defines have names without colons. -/
def NamesPlain (t : Tree) : Prop :=
  ∀ d ∈ t.nodes, d.kind? = some .functionDef → Plain (innerFunction .null d)
deriving Decidable

/-- All functions so far have names without colons. -/
def PlainSoFar (past : List (Event × Analysis)) (a : Analysis) : Prop :=
  Plain a.function ∧ ∀ p ∈ past, Plain p.1.function

/-- A run through functions without colons stays in such functions. -/
theorem run_plain [Output] {m : Manner} {f : Json} {es : List Event}
    {past : List (Event × Analysis)} {a : Analysis}
    (hEvents : ∀ e ∈ es, Plain e.function) (hEnd : Plain f) (h : PlainSoFar past a) :
    PlainSoFar (past ++ moments m es a) ((plan m).run f es a).2 := by
  have hRun := run_invariant (m := m) (f := f) (a := a)
    (I := fun es past a => (∀ e ∈ es, Plain e.function) ∧ PlainSoFar past a)
    (fun e es past a hBefore => ?_) (fun past a hBefore => ⟨hBefore.1, hEnd, hBefore.2.2⟩)
    ⟨hEvents, h⟩
  · exact hRun.2
  · rw [List.forall_mem_cons] at hBefore
    obtain ⟨⟨hFirst, hRest⟩, -, hPast⟩ := hBefore
    have hFunction := (keepsFunction_plan m).handle_function e a
    have hNow : ∀ p ∈ past ++ [(e, a)], Plain p.1.function := by
      rw [List.forall_mem_append, List.forall_mem_singleton]
      exact ⟨hPast, hFirst⟩
    rcases hOut : (plan m).handle e a with ⟨fault | _, b⟩
    · rw [hOut] at hFunction
      exact ⟨by simp, by rwa [hFunction], hNow⟩
    · rw [hOut] at hFunction
      exact ⟨hRest, by rwa [hFunction], hNow⟩

/-- In visits of trees whose functions have names without colons, no other function turns up. -/
theorem history_plain [Output] {m : Manner} {ts : List Tree} (h : ∀ t ∈ ts, NamesPlain t) :
    ∀ p ∈ history m ts {}, Plain p.1.function := by
  have hStart : PlainSoFar [] {} := ⟨by decide, by simp⟩
  have hAll : PlainSoFar ([] ++ history m ts {}) (visitAll m ts {}) :=
    history_invariant (fun t hTree past a hBefore =>
      run_plain (events_function hBefore.1 (h t hTree)) hBefore.1 hBefore) hStart
  exact hAll.2

/-- In visits of any trees in turn, no request data is recorded when a call is handled, nor at the
end of a visit. So the source of a response in a function is the function itself, or the function in
which what comes from outside was assigned to a variable of the same name, but never a path of the
request. -/
theorem responses_without_request_data [Output] (m : Manner) (ts : List Tree) :
    (∀ p ∈ history m ts {}, p.1.IsCall → Clean p.2) ∧ Clean (visitAll m ts {}) ∧
      ∀ flow ∈ (visitAll m ts {}).flows, ∀ f, flow.path = [f] →
        Explained (history m ts {}) f flow.source ∧
        ((∀ t ∈ ts, NamesPlain t) →
          ∀ path, flow.source ≠ .str (f.display ++ "::request." ++ path)) := by
  have hAll : Tracked [] ([] ++ history m ts {}) (visitAll m ts {}) :=
    history_invariant (fun t _ past a => run_tracked t) tracked_initial
  refine ⟨hAll.calls, hAll.pending.clean_of_nil, fun flow hFlow f hPath => ?_⟩
  have hExplained := hAll.sound.flows flow hFlow f hPath
  refine ⟨hExplained, fun hNames path hRequest => ?_⟩
  rcases hExplained with hOwn | ⟨p, hMoment, t, assigned, hEvent, -⟩
  · rw [hRequest] at hOwn
    have hSame := congrArg (List.length ∘ Json.display) (Json.eq_of_str_beq hOwn)
    simp [Json.display, Text.ofString, Text.ofChars] at hSame
  · have hPlain := history_plain (m := m) hNames p hMoment
    rw [hEvent, Event.function, hRequest, Plain, Json.display] at hPlain
    simp [Text.ofString, Text.ofChars] at hPlain

/-- A source whose function reads request data and then makes a response. -/
def echoTree : Tree := .ofStatements [.ofDefinition "echo" [] [
  .node .exprStmt default [.ofMethod "request" "get_json" []],
  .node .exprStmt default [.ofMethod "flask" "jsonify" []]]]

/-- The response is traced to the function, not to the request. -/
theorem responses_without_request_data_echo : NamesPlain echoTree ∧
    ∃ flow ∈ (visitAll .standard [echoTree] {}).flows, flow.path = [.str "echo"] ∧
      Explained (history .standard [echoTree] {}) (.str "echo") flow.source ∧
      ∀ path, flow.source ≠ .str ("echo" ++ "::request." ++ path) := by
  have hNames : NamesPlain echoTree := by decide
  have hWell : echoTree.WellFormed := by decide
  have hNoted := visit_notedAll (m := .standard) (a := {}) (.inl rfl) hWell
  have hResponse : ⟨.str "echo", .str "echo::jsonify", [.str "echo"], []⟩ ∈
      (visitAll .standard [echoTree] {}).flows := by
    rw [visitAll, visitAll, hNoted.flows]
    exact List.mem_cons_of_mem _ List.mem_cons_self
  obtain ⟨-, -, hAll⟩ := responses_without_request_data .standard [echoTree]
  obtain ⟨hExplained, hNever⟩ := hAll _ hResponse (.str "echo") rfl
  exact ⟨hNames, _, hResponse, rfl, hExplained, hNever (by simpa using hNames)⟩

end RepoAudit.Flask
