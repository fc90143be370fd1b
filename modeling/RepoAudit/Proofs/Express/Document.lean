import RepoAudit.Flow.Express.Document
import RepoAudit.Proofs.Step
import RepoAudit.Proofs.Text.Pattern
import RepoAudit.Proofs.Text.Writable

/-!
What makes a source one of Express: the routes and the middleware that are written in it. Main
statement: the scan of a source adds flows if a route stands in it, or middleware that is not blank,
and otherwise changes nothing as long as no route is known.
-/
namespace RepoAudit.Express

open Pattern

/-- A path in quotes as it follows the name of a method. -/
inductive QuotedPath (path : Text) : Text → Prop
  | mk {blanks : Text} {opening closing : CodePoint} (hBlanks : Text.Blank blanks)
    (hOpening : isQuote opening = true) (hPath : path ≠ [])
    (hFree : ∀ c ∈ path, isQuote c = false) (hClosing : isQuote closing = true) :
    QuotedPath path (blanks ++ .char '(' :: opening :: (path ++ [closing]))

/-- A route as a call of a method. -/
inductive CallText (methods : List Text) : Route → Text → Prop
  | mk {receiver method path rest : Text} (hReceiver : receiver ∈ [Text.ofString "app", "router"])
    (hMethod : method ∈ methods) (hRest : QuotedPath path rest) :
    CallText methods ⟨method.upper, path⟩ (receiver ++ .char '.' :: (method ++ rest))

/-- A route as a decorator. -/
inductive DecoratorText : Route → Text → Prop
  | mk {method path rest : Text}
    (hMethod : method ∈ [Text.ofString "Get", "Post", "Put", "Delete", "Patch"])
    (hRest : QuotedPath path rest) :
    DecoratorText ⟨method.lower.upper, path⟩ (.char '@' :: (method ++ rest))

/-- A text that is a route. -/
inductive RouteText (r : Route) (t : Text) : Prop
  | call (h : CallText ["get", "post", "put", "delete", "patch"] r t)
  | use (h : CallText ["use"] r t)
  | decorator (h : DecoratorText r t)

/-- Middleware as a call of `use`. -/
inductive MiddlewareText (receiver argument : Text) : Text → Prop
  | mk {blanks : Text} (hBlanks : Text.Blank blanks) (hArgument : argument ≠ [])
    (hFree : ∀ c ∈ argument, c ≠ .char ')') :
    MiddlewareText receiver argument
      (receiver ++ Text.ofString ".use" ++ (blanks ++ .char '(' :: (argument ++ [.char ')'])))

def HoldsRoute (source : Text) : Prop := ∃ r t, RouteText r t ∧ t <:+: source

/-- Middleware that is not blank stands in a source. -/
def HoldsMiddleware (source : Text) : Prop :=
  ∃ receiver ∈ [Text.ofString "app", "router"], ∃ argument t,
    MiddlewareText receiver argument t ∧ ¬argument.Blank ∧ t <:+: source

/-- The pattern of a quoted path reads what is a quoted path. -/
theorem quotedPath_reads : quotedPath.Reads QuotedPath := by
  have hEnd (path : Text) : (do discard (one isQuote); return path : Pattern Text).Reads
      fun b t => b = path ∧ ∃ c, isQuote c = true ∧ t = [c] := by
    refine (reads_bind (reads_discard (reads_one isQuote)) fun _ => reads_pure path).congr ?_
    intro b t
    constructor
    · rintro ⟨_, u, v, ⟨c, hQuote, rfl⟩, ⟨rfl, rfl⟩, rfl⟩
      exact ⟨rfl, c, hQuote, rfl⟩
    · rintro ⟨rfl, c, hQuote, rfl⟩
      exact ⟨(), [c], [], ⟨c, hQuote, rfl⟩, ⟨rfl, rfl⟩, rfl⟩
  have hOff : ∀ (a b t : Text), (b = a ∧ ∃ c, isQuote c = true ∧ t = [c]) →
      StartsOff (fun c => !isQuote c) t := by
    rintro a b t ⟨-, c, hQuote, rfl⟩
    exact ⟨c, [], rfl, by simp [hQuote]⟩
  have hPath := reads_bind (reads_exactly "(") fun _ =>
    reads_bind (reads_discard (reads_one isQuote)) fun _ => reads_many1_bind hEnd hOff
  have hBlanks := reads_blanks_bind hPath ?_
  · refine hBlanks.congr fun path t => ?_
    constructor
    · rintro ⟨blanks, v, hBlanks, ⟨_, u, w, rfl, ⟨_, x, y, ⟨opening, hOpening, rfl⟩,
        ⟨z, last, hSome, hFree, ⟨rfl, closing, hClosing, rfl⟩, rfl⟩, rfl⟩, rfl⟩, rfl⟩
      exact .mk hBlanks hOpening hSome (fun c hMember => by simpa using hFree c hMember) hClosing
    · rintro ⟨hBlanks, hOpening, hSome, hFree, hClosing⟩
      exact ⟨_, _, hBlanks, ⟨(), _, _, rfl, ⟨(), _, _, ⟨_, hOpening, rfl⟩,
        ⟨path, _, hSome, fun c hMember => by simpa using hFree c hMember,
          ⟨rfl, _, hClosing, rfl⟩, rfl⟩, rfl⟩, rfl⟩, rfl⟩
  · rintro b t ⟨_, u, v, rfl, -, rfl⟩
    exact ⟨.char '(', v, rfl, by decide⟩

/-- Methods none of which starts another are told apart by the text. -/
theorem callRoute_reads {methods : List Text} (h : ∀ t ∈ methods, ∀ u ∈ methods, t <+: u → t = u) :
    (callRoute methods).Reads (CallText methods) := by
  have hReceivers : ∀ t ∈ [Text.ofString "app", "router"], ∀ u ∈ [Text.ofString "app", "router"],
      t <+: u → t = u := by decide
  refine (reads_bind (reads_discard (reads_anyOf hReceivers)) fun _ =>
    reads_bind (reads_exactly ".") fun _ => reads_bind (reads_anyOf h) fun method =>
      reads_bind quotedPath_reads fun path => reads_pure (Route.mk method.upper path)).congr ?_
  intro r t
  constructor
  · rintro ⟨_, u, v, ⟨receiver, hReceiver, rfl⟩, ⟨_, w, x, rfl, ⟨method, y, z, ⟨hMethod, rfl⟩,
      ⟨path, rest, last, hRest, ⟨rfl, rfl⟩, rfl⟩, rfl⟩, rfl⟩, rfl⟩
    rw [List.append_nil]
    exact .mk hReceiver hMethod hRest
  · rintro ⟨hReceiver, hMethod, hRest⟩
    exact ⟨(), _, _, ⟨_, hReceiver, rfl⟩, ⟨(), _, _, rfl, ⟨_, _, _, ⟨hMethod, rfl⟩,
      ⟨_, _, [], hRest, ⟨rfl, rfl⟩, rfl⟩, rfl⟩, rfl⟩, by rw [List.append_nil]; rfl⟩

/-- The pattern of a decorator reads what is one. -/
theorem decoratorRoute_reads : decoratorRoute.Reads DecoratorText := by
  have hMethods : ∀ t ∈ [Text.ofString "Get", "Post", "Put", "Delete", "Patch"],
      ∀ u ∈ [Text.ofString "Get", "Post", "Put", "Delete", "Patch"], t <+: u → t = u := by decide
  refine (reads_bind (reads_exactly "@") fun _ => reads_bind (reads_anyOf hMethods) fun method =>
    reads_bind quotedPath_reads fun path => reads_pure (Route.mk method.lower.upper path)).congr ?_
  intro r t
  constructor
  · rintro ⟨_, u, v, rfl, ⟨method, y, z, ⟨hMethod, rfl⟩, ⟨path, rest, last, hRest, ⟨rfl, rfl⟩,
      rfl⟩, rfl⟩, rfl⟩
    rw [List.append_nil]
    exact .mk hMethod hRest
  · rintro ⟨hMethod, hRest⟩
    exact ⟨(), _, _, rfl, ⟨_, _, _, ⟨hMethod, rfl⟩, ⟨_, _, [], hRest, ⟨rfl, rfl⟩, rfl⟩, rfl⟩,
      by rw [List.append_nil]; rfl⟩

/-- The pattern of middleware reads what registers it. -/
theorem middleware_reads (receiver : Text) :
    (middleware receiver).Reads (MiddlewareText receiver) := by
  have hEnd (argument : Text) : (do exactly ")"; return argument : Pattern Text).Reads
      fun b t => b = argument ∧ t = [.char ')'] := by
    refine (reads_bind (reads_exactly ")") fun _ => reads_pure argument).congr fun b t => ?_
    constructor
    · rintro ⟨_, u, v, rfl, ⟨rfl, rfl⟩, rfl⟩
      exact ⟨rfl, rfl⟩
    · rintro ⟨rfl, rfl⟩
      exact ⟨(), _, [], rfl, ⟨rfl, rfl⟩, rfl⟩
  have hOff : ∀ (a b t : Text), (b = a ∧ t = [.char ')']) → StartsOff (· != .char ')') t := by
    rintro a b t ⟨-, rfl⟩
    exact ⟨_, [], rfl, by simp⟩
  have hArgument := reads_bind (reads_exactly "(") fun _ => reads_many1_bind hEnd hOff
  have hBlanks := reads_blanks_bind hArgument ?_
  · refine (reads_bind (reads_exactly (receiver ++ ".use")) fun _ => hBlanks).congr ?_
    intro argument t
    constructor
    · rintro ⟨_, u, v, rfl, ⟨blanks, w, hBlanks, ⟨_, x, y, rfl, ⟨z, last, hSome, hFree, ⟨rfl, rfl⟩,
        rfl⟩, rfl⟩, rfl⟩, rfl⟩
      exact .mk hBlanks hSome fun c hMember => by simpa using hFree c hMember
    · rintro ⟨hBlanks, hSome, hFree⟩
      exact ⟨(), _, _, rfl, ⟨_, _, hBlanks, ⟨(), _, _, rfl, ⟨argument, _, hSome,
        fun c hMember => by simpa using hFree c hMember, ⟨rfl, rfl⟩, rfl⟩, rfl⟩, rfl⟩, rfl⟩
  · rintro b t ⟨_, u, v, rfl, -, rfl⟩
    exact ⟨.char '(', v, rfl, by decide⟩

theorem not_callText_nil {methods : List Text} (r : Route) : ¬CallText methods r [] := by
  intro h
  generalize hText : ([] : Text) = t at h
  cases h
  simp at hText

theorem not_middlewareText_nil {receiver argument : Text} :
    ¬MiddlewareText receiver argument [] := by
  intro h
  generalize hText : ([] : Text) = t at h
  cases h
  simp at hText

section Sources

variable {source : Text}

/-- Routes are found if there is one. -/
theorem findEach_routePatterns_ne_nil_iff :
    findEach routePatterns source ≠ [] ↔ HoldsRoute source := by
  have hMethods : ∀ t ∈ [Text.ofString "get", "post", "put", "delete", "patch"],
      ∀ u ∈ [Text.ofString "get", "post", "put", "delete", "patch"], t <+: u → t = u := by decide
  have hUses : ∀ t ∈ [Text.ofString "use"], ∀ u ∈ [Text.ofString "use"], t <+: u → t = u := by
    decide
  have hCall := findAll_ne_nil_iff (callRoute_reads hMethods) not_callText_nil source
  have hUse := findAll_ne_nil_iff (callRoute_reads hUses) not_callText_nil source
  have hDecorator := findAll_ne_nil_iff decoratorRoute_reads (fun _ => nofun) source
  have hSome : findEach routePatterns source ≠ [] ↔ ∃ p ∈ routePatterns, findAll p source ≠ [] := by
    simp [findEach]
  rw [hSome]
  simp only [routePatterns, List.mem_cons, List.not_mem_nil, or_false, exists_eq_or_imp,
    exists_eq_left, hCall, hUse, hDecorator]
  constructor
  · rintro (⟨r, t, hText, hInfix⟩ | ⟨r, t, hText, hInfix⟩ | ⟨r, t, hText, hInfix⟩)
    · exact ⟨r, t, .call hText, hInfix⟩
    · exact ⟨r, t, .use hText, hInfix⟩
    · exact ⟨r, t, .decorator hText, hInfix⟩
  · rintro ⟨r, t, hText | hText | hText, hInfix⟩
    · exact .inl ⟨r, t, hText, hInfix⟩
    · exact .inr (.inl ⟨r, t, hText, hInfix⟩)
    · exact .inr (.inr ⟨r, t, hText, hInfix⟩)

/-- Middleware that is blank hides no other. After its first word a blank match has white space and
parentheses, so no word starts there. -/
theorem middleware_unhidden (receiver : Text) {word : Text} {c : CodePoint}
    (hWord : receiver ++ Text.ofString ".use" = c :: word) (hUnbordered : Unbordered (c :: word))
    (hBlank : c.satisfies isBlank = false) (hSign : c ∉ [.char '(', .char ')']) :
    (middleware receiver).Unhidden fun argument => ¬argument.Blank := by
  intro s argument after t other behind hRun hArgument hSuffix hOther hInside hAgain
  have hStarts : c :: word <+: t := by
    obtain ⟨_, ⟨-, -, -⟩, rfl⟩ := (middleware_reads receiver _ _ _).1 hAgain
    rw [hWord, List.append_assoc]
    exact List.prefix_append _ _
  obtain ⟨_, @⟨blanks, hBlanks, -, -⟩, rfl⟩ := (middleware_reads receiver _ _ _).1 hRun
  rw [Classical.not_not] at hArgument
  have hFree {u : Text} (hu : u.Blank) : c ∉ u := by
    intro hMember
    rw [hu c hMember] at hBlank
    cases hBlank
  have hRest : c ∉ blanks ++ .char '(' :: (argument ++ [.char ')']) := by
    simp only [List.mem_append, List.mem_cons, not_or] at hSign ⊢
    exact ⟨hFree hBlanks, hSign.1, hFree hArgument, hSign.2⟩
  rw [hWord, List.append_assoc] at hSuffix hOther
  exact absurd hStarts (hUnbordered.not_prefix_inside hRest hSuffix hOther hInside)

/-- Names of middleware are found if some of it is not blank. -/
theorem middlewareNames_ne_nil_iff : middlewareNames source ≠ [] ↔ HoldsMiddleware source := by
  have hSearch {receiver : Text}
      (hUnhidden : (middleware receiver).Unhidden fun argument => ¬argument.Blank) :=
    exists_mem_findAll_iff_infix (middleware_reads receiver) hUnhidden
      (fun _ => not_middlewareText_nil) source
  have hApp := hSearch (middleware_unhidden "app" rfl (by decide) (by decide) (by decide))
  have hRouter := hSearch (middleware_unhidden "router" rfl (by decide) (by decide) (by decide))
  have hSome : middlewareNames source ≠ [] ↔
      ∃ p ∈ middlewarePatterns, ∃ m ∈ findAll p source, ¬Text.Blank m.value := by
    simp [middlewareNames, findEach, ← Text.trim_eq_nil_iff]
  rw [hSome]
  simp only [middlewarePatterns, List.mem_cons, List.not_mem_nil, or_false, exists_eq_or_imp,
    exists_eq_left, hApp, hRouter, HoldsMiddleware]

end Sources

/-- Nothing is known yet. -/
structure State.IsNew (s : State) : Prop where
  entryPoints : s.analysis.entryPoints = []
  flows : s.analysis.flows = []
  route : s.route = none

/-- What a part of an analysis adds. It keeps the flows that are known, and there are some after it
if it met what makes them; otherwise nothing becomes known. -/
structure Gains (met : Prop) (s after : State) : Prop where
  flows : met ∨ s.analysis.flows ≠ [] → after.analysis.flows ≠ []
  isNew : ¬met → s.IsNew → after.IsNew

/-- Two steps gain what either gains. -/
theorem Gains.trans {met other : Prop} {s middle after : State} (hFirst : Gains met s middle)
    (hSecond : Gains other middle after) : Gains (met ∨ other) s after := by
  constructor
  · rintro ((hMet | hOther) | hSome)
    · exact hSecond.flows (.inr (hFirst.flows (.inl hMet)))
    · exact hSecond.flows (.inl hOther)
    · exact hSecond.flows (.inr (hFirst.flows (.inr hSome)))
  · intro hNone hNew
    rw [not_or] at hNone
    exact hSecond.isNew hNone.2 (hFirst.isNew hNone.1 hNew)

theorem gains_self (s : State) : Gains False s s :=
  ⟨fun hSome => hSome.resolve_left id, fun _ => id⟩

theorem Gains.congr {met other : Prop} {s after : State} (h : Gains met s after)
    (hSame : met ↔ other) : Gains other s after := by
  rwa [← propext hSame]

/-- Routes append their flows in order. -/
theorem foldl_noteRoute_flows (names : List Text) (s : State) :
    (names.foldl noteRoute s).analysis.flows = s.analysis.flows ++ names.map routeFlow := by
  induction names generalizing s with
  | nil => simp
  | cons name names ih =>
      rw [List.foldl_cons, ih]
      simp [noteRoute, Analysis.addFlow, Analysis.addEntryPoint]

/-- Routes add their entry points, each once. -/
theorem foldl_noteRoute_entryPoints (names : List Text) (s : State) :
    (names.foldl noteRoute s).analysis.entryPoints =
      (names.map httpEndpoint).foldl (fun set name => insertNew name set)
        s.analysis.entryPoints := by
  induction names generalizing s with
  | nil => rfl
  | cons name names ih => exact ih (noteRoute s name)

/-- The route that was noted last is known, and without one the route that was known before. -/
theorem foldl_noteRoute_route (names : List Text) (s : State) :
    (names.foldl noteRoute s).route = names.getLast?.or s.route := by
  induction names generalizing s with
  | nil => rfl
  | cons name names ih =>
      rw [List.foldl_cons, ih, List.getLast?_cons]
      cases names.getLast? <;> rfl

/-- A scan notes the routes, and then appends the flows of the middleware and those that are
credited to the route that is known. -/
theorem scan_eq (source : Text) (s : State) :
    let noted := ((findEach routePatterns source).map Route.name).foldl noteRoute s
    let passed := (middlewareNames source).map fun name => middlewareFlow (.str name)
    scan source s = (noted.addFlows passed).addFlows
      (noted.route.elim [] fun route => dataFlows route source) := by
  intro noted passed
  have hSame (s : State) : s.addFlows [] = s := by simp [State.addFlows]
  unfold scan
  dsimp only
  split
  · next route hRoute =>
      have hKnown : noted.route = some route := hRoute
      rw [hKnown]
      rfl
  · next hRoute =>
      have hUnknown : noted.route = none := hRoute
      rw [hUnknown, Option.elim_none, hSame]

/-- The route that is known after a source is its last, or else the one before. -/
theorem scan_route (source : Text) (s : State) : (scan source s).route =
    ((findEach routePatterns source).map Route.name).getLast?.or s.route := by
  rw [scan_eq]
  exact foldl_noteRoute_route _ s

/-- The flows after a scan. -/
theorem scan_flows (source : Text) (s : State) : (scan source s).analysis.flows =
    s.analysis.flows ++ ((findEach routePatterns source).map Route.name).map routeFlow ++
      (middlewareNames source).map (fun name => middlewareFlow (.str name)) ++
        (scan source s).route.elim [] fun route => dataFlows route source := by
  rw [scan_route, ← foldl_noteRoute_route, ← foldl_noteRoute_flows, scan_eq]
  rfl

/-- A source adds the entry points of its routes. -/
theorem scan_entryPoints (source : Text) (s : State) : (scan source s).analysis.entryPoints =
    (((findEach routePatterns source).map Route.name).map httpEndpoint).foldl
      (fun set name => insertNew name set) s.analysis.entryPoints := by
  rw [scan_eq]
  exact foldl_noteRoute_entryPoints _ s

/-- A scan meets routes, and middleware that is not blank. Requests and responses are credited to a
route that is known, and there is none. -/
theorem scan_gains (source : Text) (s : State) :
    Gains (HoldsRoute source ∨ HoldsMiddleware source) s (scan source s) := by
  rw [← findEach_routePatterns_ne_nil_iff, ← middlewareNames_ne_nil_iff]
  constructor
  · intro hSome hNil
    have hFlows := scan_flows source s
    rw [hNil] at hFlows
    simp only [List.nil_eq, List.append_eq_nil_iff, List.map_eq_nil_iff] at hFlows
    obtain ⟨⟨⟨hBefore, hRoutes⟩, hNames⟩, -⟩ := hFlows
    rcases hSome with (hMet | hMet) | hMet
    · exact hMet hRoutes
    · exact hMet hNames
    · exact hMet hBefore
  · intro hNone hNew
    simp only [not_or, Classical.not_not] at hNone
    obtain ⟨analysis, route⟩ := s
    obtain rfl : route = none := hNew.route
    have hSame : scan source ⟨analysis, none⟩ = ⟨analysis, none⟩ := by
      simp [scan, hNone.1, hNone.2, State.addFlows]
    rwa [hSame]

/-- Lines were printed, and nothing else was done. -/
structure Prints (s after : State) : Prop where
  entryPoints : after.analysis.entryPoints = s.analysis.entryPoints
  flows : after.analysis.flows = s.analysis.flows
  route : after.route = s.route

/-- What was printed before has no effect on the search of a source. -/
theorem Prints.scan {s after : State} (h : Prints s after) (source : Text) :
    Prints (scan source s) (scan source after) where
  entryPoints := by rw [scan_entryPoints, scan_entryPoints, h.entryPoints]
  flows := by rw [scan_flows, scan_flows, scan_route, scan_route, h.flows, h.route]
  route := by rw [scan_route, scan_route, h.route]

theorem Prints.trans {s middle after : State} (hFirst : Prints s middle)
    (hSecond : Prints middle after) : Prints s after where
  entryPoints := hSecond.entryPoints.trans hFirst.entryPoints
  flows := hSecond.flows.trans hFirst.flows
  route := hSecond.route.trans hFirst.route

/-- A line is printed if it can be, and otherwise nothing is done. -/
theorem say_cases [Output] (line : Text) (s : State) :
    (line.Sayable ∧ (say line).perform s = (.ok (),
      { s with analysis := { s.analysis with lines := s.analysis.lines ++ [line] } })) ∨
    (¬line.Sayable ∧ ∃ fault, (say line).perform s = (.error fault, s)) := by
  by_cases hLine : line.Sayable
  · refine .inl ⟨hLine, ?_⟩
    simp [say, onAnalysis, Analysis.say, Step.perform_bind, hLine.printed]
  · obtain ⟨fault, hFault⟩ := Text.printed_fails_iff.2 hLine
    refine .inr ⟨hLine, fault, ?_⟩
    simp [say, onAnalysis, Analysis.say, Step.perform_bind, hFault]

/-- A line goes through exactly if it can be printed, and changes nothing else. -/
theorem say_leads [Output] (line : Text) (s : State) : (say line).Leads s fun result after =>
    (result.isOk = true ↔ line.Sayable) ∧ Prints s after := by
  rcases say_cases line s with ⟨hLine, hSay⟩ | ⟨hLine, fault, hSay⟩
  · rw [Step.Leads, hSay]
    exact ⟨iff_of_true rfl hLine, rfl, rfl, rfl⟩
  · rw [Step.Leads, hSay]
    exact ⟨iff_of_false Bool.false_ne_true hLine, rfl, rfl, rfl⟩

end RepoAudit.Express
