import RepoAudit.Proofs.Express.Routes
import RepoAudit.Proofs.Text.Occurrences

/-!
What stands in an Express source and what is found of it. Main statements: routes are sought form by
form and from left to right, and each access to request data and each call that answers is found
exactly once.
-/
namespace RepoAudit.Express

open Pattern Step

/-- A form of routes: what stands before the method, and the methods. -/
structure RouteForm where
  heads : List Text
  methods : List Text

/-- A route is written in a form: a head, a method and a path in quotes. Its name has the method in
capitals. -/
inductive RouteForm.Writes (form : RouteForm) : Route → Text → Prop
  | mk {head method path rest : Text} (hHead : head ∈ form.heads) (hMethod : method ∈ form.methods)
    (hRest : QuotedPath path rest) : form.Writes ⟨method.upper, path⟩ (head ++ (method ++ rest))

def callForm (methods : List Text) : RouteForm := ⟨["app.", "router."], methods⟩

/-- Decorators named for a method. -/
def decoratorForm : RouteForm := ⟨["@"], ["Get", "Post", "Put", "Delete", "Patch"]⟩

/-- The forms of routes in the order in which they are sought. -/
def routeForms : List RouteForm :=
  [callForm ["get", "post", "put", "delete", "patch"], callForm ["use"], decoratorForm]

/-- Calls of methods are one form of routes. -/
theorem callForm_writes_iff {methods : List Text} (r : Route) (t : Text) :
    CallText methods r t ↔ (callForm methods).Writes r t := by
  constructor
  · intro h
    cases h with
    | mk hReceiver hMethod hRest =>
        have hApp : Text.ofString "app." ∈ (callForm methods).heads := by simp [callForm]
        have hRouter : Text.ofString "router." ∈ (callForm methods).heads := by simp [callForm]
        simp only [List.mem_cons, List.not_mem_nil, or_false] at hReceiver
        rcases hReceiver with rfl | rfl
        · exact .mk hApp hMethod hRest
        · exact .mk hRouter hMethod hRest
  · intro h
    cases h with
    | mk hHead hMethod hRest =>
        have hApp : Text.ofString "app" ∈ [Text.ofString "app", "router"] := by simp
        have hRouter : Text.ofString "router" ∈ [Text.ofString "app", "router"] := by simp
        simp only [callForm, List.mem_cons, List.not_mem_nil, or_false] at hHead
        rcases hHead with rfl | rfl
        · exact .mk hApp hMethod hRest
        · exact .mk hRouter hMethod hRest

/-- Decorators are the other form of routes. -/
theorem decoratorForm_writes_iff (r : Route) (t : Text) :
    DecoratorText r t ↔ decoratorForm.Writes r t := by
  have hUpper : ∀ method ∈ decoratorForm.methods, method.lower.upper = method.upper := by decide
  constructor
  · intro h
    cases h with
    | mk hMethod hRest =>
        have hHead : Text.ofString "@" ∈ decoratorForm.heads := List.mem_singleton.2 rfl
        rw [hUpper _ hMethod]
        exact .mk hHead hMethod hRest
  · intro h
    cases h with
    | mk hHead hMethod hRest =>
        rw [List.mem_singleton.1 hHead, ← hUpper _ hMethod]
        exact .mk hMethod hRest

theorem RouteForm.not_writes_nil (form : RouteForm) (r : Route) : ¬form.Writes r [] := by
  intro h
  generalize hText : ([] : Text) = t at h
  cases h with
  | mk _ _ hRest =>
      cases hRest
      simp at hText

/-- Each pattern of routes reads its own form. -/
theorem routePatterns_read : List.Forall₂ (fun form (p : Pattern Route) => p.Reads form.Writes)
    routeForms routePatterns := by
  have hMethods : ∀ t ∈ [Text.ofString "get", "post", "put", "delete", "patch"],
      ∀ u ∈ [Text.ofString "get", "post", "put", "delete", "patch"], t <+: u → t = u := by decide
  have hUses : ∀ t ∈ [Text.ofString "use"], ∀ u ∈ [Text.ofString "use"], t <+: u → t = u := by
    decide
  have hCall := (callRoute_reads hMethods).congr callForm_writes_iff
  have hUse := (callRoute_reads hUses).congr callForm_writes_iff
  have hDecorator := decoratorRoute_reads.congr decoratorForm_writes_iff
  exact .cons hCall (.cons hUse (.cons hDecorator .nil))

/-- Each form of routes is searched from left to right. -/
theorem routeForms_searched (source : Text) :
    List.Forall₂ (fun form found => Searched form.Writes source 0 found) routeForms
      (routePatterns.map fun p => findAll p source) := by
  rw [List.forall₂_map_right_iff]
  apply routePatterns_read.imp
  intro form p hReads
  exact findAll_searched hReads form.not_writes_nil source

/-- Patterns are searched one after the other, each from the start of the source. -/
theorem findEach_eq {α : Type} (patterns : List (Pattern α)) (source : Text) :
    findEach patterns source =
      (patterns.map fun p => findAll p source).flatten.map (·.value) := by
  rw [findEach, List.flatMap_def, List.map_flatten, List.map_map]
  rfl

section Stations

variable {station : Text}

/-- Flows of middleware lead over no other station. -/
theorem not_leadsOver_middleware (hStation : station ≠ "middleware") (names : List Text) :
    ∀ flow ∈ names.map (fun name => middlewareFlow (.str name)), ¬LeadsOver station flow := by
  simp [hStation]

/-- Flows of data lead over the request or the response. -/
theorem not_leadsOver_dataFlows (hRequest : station ≠ "request") (hResponse : station ≠ "response")
    (route : Option Text) (source : Text) :
    ∀ flow ∈ route.elim [] (fun route => dataFlows route source), ¬LeadsOver station flow := by
  cases route with
  | none => simp
  | some route =>
      simp only [Option.elim_some, dataFlows, List.forall_mem_append, List.forall_mem_map,
        leadsOver_requestFlow_iff, leadsOver_responseFlow_iff]
      exact ⟨fun _ _ => hRequest, fun _ _ => hResponse⟩

end Stations

/-- A source is searched for each form of routes in turn, from left to right: what is found fills
intervals that do not overlap, and a route that is missed starts inside of one of them. The flows of
the routes come in that order, before all others, and each route has its entry point. -/
theorem scan_records_routes (source : Text) (s : State) :
    ∃ found : List (List (Match Route)),
      List.Forall₂ (fun form found => Searched form.Writes source 0 found) routeForms found ∧
      (∃ more, (scan source s).analysis.flows =
          s.analysis.flows ++ found.flatten.map (fun m => routeFlow m.value.name) ++ more ∧
        ∀ flow ∈ more, ¬LeadsOver "router" flow) ∧
      ∀ name, name ∈ (scan source s).analysis.entryPoints ↔ name ∈ s.analysis.entryPoints ∨
        ∃ m ∈ found.flatten, name = httpEndpoint m.value.name := by
  have hFlows := scan_flows source s
  have hEntries := scan_entryPoints source s
  rw [findEach_eq, List.map_map, List.map_map] at hFlows hEntries
  have hMiddleware := not_leadsOver_middleware (by decide : Text.ofString "router" ≠ "middleware")
    (middlewareNames source)
  have hData := not_leadsOver_dataFlows (by decide : Text.ofString "router" ≠ "request") (by decide)
    (scan source s).route source
  refine ⟨_, routeForms_searched source, ⟨_, ?_, List.forall_mem_append.2 ⟨hMiddleware, hData⟩⟩, ?_⟩
  · rw [hFlows, List.append_assoc]
    rfl
  · intro name
    rw [hEntries, mem_foldl_insertNew]
    simp only [List.mem_map, Function.comp_apply, eq_comm]

/-- An access to one of some names on a receiver, and what has to follow. -/
inductive AccessText (receivers names : List Text) (ends : Text → Prop) (name : Text) : Text → Prop
  | mk {receiver rest : Text} (hReceiver : receiver ∈ receivers) (hName : name ∈ names)
    (hEnds : ends rest) :
    AccessText receivers names ends name (receiver ++ .char '.' :: name ++ rest)

/-- An access to a part of the request. -/
def RequestText (receivers : List Text) : Text → Text → Prop :=
  AccessText receivers ["body", "query", "params", "cookies", "headers"] (· = [])

/-- A call that answers, up to its opening parenthesis. -/
def ResponseText (receivers : List Text) : Text → Text → Prop :=
  AccessText receivers ["json", "send", "render", "redirect"]
    fun rest => ∃ blanks, Text.Blank blanks ∧ rest = blanks ++ [.char '(']

section Access

variable {receivers others names : List Text} {ends : Text → Prop}

theorem accessText_append_iff (name u : Text) : AccessText (receivers ++ others) names ends name u ↔
    AccessText receivers names ends name u ∨ AccessText others names ends name u := by
  constructor
  · rintro ⟨hReceiver, hName, hEnds⟩
    rcases List.mem_append.1 hReceiver with hMember | hMember
    · exact .inl (.mk hMember hName hEnds)
    · exact .inr (.mk hMember hName hEnds)
  · rintro (⟨hMember, hName, hEnds⟩ | ⟨hMember, hName, hEnds⟩)
    · exact .mk (List.mem_append_left _ hMember) hName hEnds
    · exact .mk (List.mem_append_right _ hMember) hName hEnds

/-- An access starts with its receiver and a point. -/
theorem accessText_starts {receiver : Text} (name u : Text)
    (h : AccessText [receiver] names ends name u) : receiver ++ [.char '.'] <+: u := by
  cases h with
  | mk hReceiver _ _ =>
      rw [List.mem_singleton.1 hReceiver]
      simp

/-- All receivers start with a word that stands nowhere else in an access. -/
theorem accessText_leadsOnce {lead : Text} (hSome : lead ≠ [])
    (hReceivers : ∀ receiver ∈ receivers, lead <+: receiver)
    (hNames : ∀ receiver ∈ receivers, ∀ name ∈ names, ∀ x ∈ (receiver ++ .char '.' :: name).tails,
      lead <+: x → x = receiver ++ .char '.' :: name)
    (hBorder : ends [] → ∀ receiver ∈ receivers, ∀ name ∈ names,
      ∀ x ∈ (receiver ++ .char '.' :: name).tails,
        x <+: lead → x = [] ∨ x = receiver ++ .char '.' :: name)
    (hFree : ∀ rest, ends rest → ∀ c ∈ rest, c ∉ lead) :
    LeadsOnce lead (AccessText receivers names ends) := by
  constructor
  · rintro name u ⟨hReceiver, -, -⟩
    rw [List.append_assoc]
    exact (hReceivers _ hReceiver).trans (List.prefix_append _ _)
  · rintro name u after s ⟨hReceiver, hName, hEnds⟩ hSuffix hOther hInside
    rw [List.append_assoc] at hSuffix hOther
    apply not_prefix_inside hSome (hNames _ hReceiver _ hName) ?_ (hFree _ hEnds) hSuffix hOther
      hInside
    rintro rfl
    exact hBorder hEnds _ hReceiver _ hName

end Access

/-- The pattern of a part of the request reads what accesses one. -/
theorem requestPart_reads (receiver : Text) :
    (requestPart receiver).Reads (RequestText [receiver]) := by
  have hParts : ∀ t ∈ [Text.ofString "body", "query", "params", "cookies", "headers"],
      ∀ u ∈ [Text.ofString "body", "query", "params", "cookies", "headers"], t <+: u → t = u := by
    decide
  apply (reads_bind (reads_exactly (receiver ++ ".")) fun _ => reads_anyOf hParts).congr
  intro part t
  constructor
  · rintro ⟨_, u, v, rfl, ⟨hPart, rfl⟩, rfl⟩
    have hText : RequestText [receiver] v _ := .mk (List.mem_singleton.2 rfl) hPart rfl
    simp only [List.append_assoc, List.append_nil] at hText ⊢
    exact hText
  · rintro ⟨hReceiver, hPart, rfl⟩
    rw [List.mem_singleton.1 hReceiver]
    exact ⟨(), _, _, rfl, ⟨hPart, rfl⟩, by simp only [List.append_assoc, List.append_nil]; rfl⟩

/-- The pattern of a response reads what answers. -/
theorem response_reads (receiver : Text) :
    (response receiver).Reads (ResponseText [receiver]) := by
  have hKinds : ∀ t ∈ [Text.ofString "json", "send", "render", "redirect"],
      ∀ u ∈ [Text.ofString "json", "send", "render", "redirect"], t <+: u → t = u := by decide
  have hOpen (kind : Text) := reads_bind (reads_exactly "(") fun _ => reads_pure kind
  have hBlanks (kind : Text) := reads_blanks_bind (hOpen kind) (by
    rintro b t ⟨_, u, v, rfl, -, rfl⟩
    exact ⟨.char '(', v, rfl, by decide⟩)
  apply (reads_bind (reads_exactly (receiver ++ ".")) fun _ =>
    reads_bind (reads_anyOf hKinds) hBlanks).congr
  intro kind t
  constructor
  · rintro ⟨_, u, v, rfl, ⟨word, w, x, ⟨hKind, rfl⟩, hCall, rfl⟩, rfl⟩
    obtain ⟨blanks, y, hBlank, ⟨_, z, last, rfl, ⟨rfl, rfl⟩, rfl⟩, rfl⟩ := hCall
    have hText : ResponseText [receiver] kind _ :=
      .mk (List.mem_singleton.2 rfl) hKind ⟨blanks, hBlank, rfl⟩
    simp only [List.append_assoc, List.append_nil] at hText ⊢
    exact hText
  · rintro ⟨hReceiver, hKind, blanks, hBlank, rfl⟩
    rw [List.mem_singleton.1 hReceiver]
    exact ⟨(), _, _, rfl, ⟨_, _, _, ⟨hKind, rfl⟩, ⟨_, _, hBlank, ⟨(), _, [], rfl, ⟨rfl, rfl⟩, rfl⟩,
      rfl⟩, rfl⟩, by simp only [List.append_assoc, List.append_nil]; rfl⟩

/-- Accesses to the request start with the same letters, which none of them holds again. -/
theorem requestText_leadsOnce : LeadsOnce "req" (RequestText ["req", "request"]) := by
  apply accessText_leadsOnce
  · decide
  · decide
  · decide
  · intro _
    decide
  · rintro rest rfl
    simp

/-- Answers start with the same letters, which none of them holds again. -/
theorem responseText_leadsOnce : LeadsOnce "res" (ResponseText ["res", "response"]) := by
  have hLetters : ∀ c ∈ Text.ofString "res", c.satisfies isBlank = false ∧ c ≠ .char '(' := by
    decide
  apply accessText_leadsOnce
  · decide
  · decide
  · decide
  · rintro ⟨blanks, -, hNil⟩
    simp at hNil
  · rintro rest ⟨blanks, hBlanks, rfl⟩ c hc hLead
    obtain ⟨hBlank, hParenthesis⟩ := hLetters c hLead
    rcases List.mem_append.1 hc with hMember | hMember
    · rw [hBlanks c hMember] at hBlank
      cases hBlank
    · exact hParenthesis (List.mem_singleton.1 hMember)

/-- Every access to request data is found. -/
theorem requests_listsAll (source : Text) : ListsAll (RequestText ["req", "request"]) source
    (findAll (requestPart "req") source ++ findAll (requestPart "request") source) :=
  findAll_append_listsAll (requestPart_reads "req") (requestPart_reads "request")
    accessText_append_iff requestText_leadsOnce (by decide) accessText_starts accessText_starts
    (by decide) source

/-- Every call that answers is found. -/
theorem responses_listsAll (source : Text) : ListsAll (ResponseText ["res", "response"]) source
    (findAll (response "res") source ++ findAll (response "response") source) :=
  findAll_append_listsAll (response_reads "res") (response_reads "response")
    accessText_append_iff responseText_leadsOnce (by decide) accessText_starts accessText_starts
    (by decide) source

/-- The flows of request data and responses once a source was searched for routes: one for each
access to a part of the request and one for each call that answers, if a route is known. -/
inductive DataFound (source : Text) : Option Text → List DataFlow → Prop
  | unknown : DataFound source none []
  | known (route : Text) {requests responses : List (Match Text)}
    (hRequests : ListsAll (RequestText ["req", "request"]) source requests)
    (hResponses : ListsAll (ResponseText ["res", "response"]) source responses) :
    DataFound source (some route) (requests.map (fun m => requestFlow route m.value) ++
      responses.map fun m => responseFlow route m.value)

/-- The data of a source is found whether or not a route is known. -/
theorem dataFound_dataFlows (source : Text) (route : Option Text) :
    DataFound source route (route.elim [] fun route => dataFlows route source) := by
  cases route with
  | none => exact .unknown
  | some route =>
      have hFlows : dataFlows route source =
          (findAll (requestPart "req") source ++ findAll (requestPart "request") source).map
            (fun m => requestFlow route m.value) ++
          (findAll (response "res") source ++ findAll (response "response") source).map
            fun m => responseFlow route m.value := by
        simp [dataFlows, findEach, requestPatterns, responsePatterns, Function.comp_def]
      rw [Option.elim_some, hFlows]
      exact .known route (requests_listsAll source) (responses_listsAll source)

/-- The state after the analysis of a source. A route is known if one was before or stands in the
source. Data is found at all of its places, and credited to that route. -/
structure Credited (source : Text) (s after : State) : Prop where
  route : after.route = none ↔ s.route = none ∧ ¬HoldsRoute source
  flows : ∃ front back, after.analysis.flows = s.analysis.flows ++ front ++ back ∧
    (∀ flow ∈ front, ¬LeadsOver "request" flow ∧ ¬LeadsOver "response" flow) ∧
    DataFound source after.route back

/-- A search credits what stands in the source. -/
theorem scan_credited (source : Text) (s : State) : Credited source s (scan source s) where
  route := by
    rw [scan_route, Option.or_eq_none_iff, List.getLast?_eq_none_iff, List.map_eq_nil_iff,
      ← findEach_routePatterns_ne_nil_iff, not_ne_iff, and_comm]
  flows := by
    have hFlows := scan_flows source s
    rw [List.append_assoc s.analysis.flows] at hFlows
    refine ⟨_, _, hFlows, ?_, dataFound_dataFlows source _⟩
    have hRouter : Text.ofString "request" ≠ "router" ∧ Text.ofString "response" ≠ "router" := by
      decide
    have hMiddleware : Text.ofString "request" ≠ "middleware" ∧
        Text.ofString "response" ≠ "middleware" := by decide
    simp only [List.forall_mem_append, List.forall_mem_map, leadsOver_routeFlow_iff,
      leadsOver_middlewareFlow_iff]
    exact ⟨fun _ _ => hRouter, fun _ _ => hMiddleware⟩

theorem Credited.prints {source : Text} {s middle after : State} (h : Credited source s middle)
    (hPrints : Prints middle after) : Credited source s after where
  route := by rw [hPrints.route, h.route]
  flows := by rw [hPrints.route, hPrints.flows]; exact h.flows

/-- If its file can be named, a source is searched on top of what is known: each access to a part of
the request and each call that answers appends one flow, if a route is known then, and otherwise
none does. If the file cannot be named, the analysis fails and appends nothing. -/
theorem analyze_credits_data [Output] (source file : Text) (s : State) :
    (analyze (.str source) file).Leads s fun result after =>
      file.Sayable ∧ result = .ok () ∧ Credited source s after ∨
        ¬file.Sayable ∧ result.isOk = false ∧
          after.analysis.flows = s.analysis.flows := by
  apply (analyze_leads source file s).imp
  intro result after hAfter
  by_cases hFile : file.Sayable
  · have hOk : result.isOk = true := hAfter.1.2 hFile
    have hResult : result = .ok () := by
      cases result with
      | error fault => cases hOk
      | ok _ => rfl
    exact .inl ⟨hFile, hResult, (scan_credited source s).prints (hAfter.2.1 hFile)⟩
  · have hFails : result.isOk = false := by
      rw [← Bool.not_eq_true, hAfter.1]
      exact hFile
    exact .inr ⟨hFile, hFails, (hAfter.2.2 hFile).flows⟩

end RepoAudit.Express
