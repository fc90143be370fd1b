import RepoAudit.Flow.Session
import RepoAudit.Proofs.Entries
import RepoAudit.Proofs.Express.Document
import RepoAudit.Proofs.Express.Visit

/-!
Routes over the whole life of an analysis of Express sources and trees. Main statement: after any
sources and trees in turn, whether or not they failed, the entry points are those of the flows of
routes, and request data and responses are credited to routes that have such a flow.
-/
namespace RepoAudit.Express

open Syntax Step

/-- One use of an analysis: a source, or a tree. -/
inductive Use where
  | source (content : Json) (file : Text)
  | tree (t : Tree)

def Use.step [Output] : Use → Step State Unit
  | source content file => analyze content file
  | tree t => onAnalysis (visit t)

/-- The state after uses in turn. A use that fails leaves its state to the next. -/
def after [Output] (uses : List Use) (s : State) : State :=
  uses.foldl (fun s use => (use.step.perform s).2) s

/-- The path of a flow starts with two stations, of which the second is `station`. -/
def LeadsOver (station : Text) (flow : DataFlow) : Prop :=
  [.str "express", .str station] <+: flow.path

/-- The flows of routes agree with the entry points, with themselves, and with the flows that name a
route. -/
structure Consistent (a : Analysis) : Prop where
  entryPoints : ∀ name, name ∈ a.entryPoints ↔ ∃ flow ∈ a.flows, LeadsOver "router" flow ∧
    ∃ route, flow.sink = .str route ∧ name = httpEndpoint route
  router : ∀ flow ∈ a.flows, LeadsOver "router" flow → ∃ route, flow.sink = .str route ∧
    flow.source = .str ("HTTP::" ++ route) ∧ flow.path[2]? = some (.str route)
  request : ∀ flow ∈ a.flows, LeadsOver "request" flow →
    ∃ other ∈ a.flows, LeadsOver "router" other ∧ flow.sink = other.sink
  response : ∀ flow ∈ a.flows, LeadsOver "response" flow →
    ∃ other ∈ a.flows, LeadsOver "router" other ∧ flow.source = other.sink

/-- The flows that there are, among flows that are known. -/
inductive Explained (known : List DataFlow) : DataFlow → Prop
  | route (name : Text) : Explained known (routeFlow name)
  | middleware (name : Json) : Explained known (middlewareFlow name)
  | request (part : Text) {route : Text} (h : routeFlow route ∈ known) :
    Explained known (requestFlow route part)
  | response (kind : Text) {route : Text} (h : routeFlow route ∈ known) :
    Explained known (responseFlow route kind)

/-- Every flow is explained, the entry points are those of the flows of routes, and the route that
was found last has a flow. -/
structure Sound (s : State) : Prop where
  flows : ∀ flow ∈ s.analysis.flows, Explained s.analysis.flows flow
  entryPoints : ∀ name, name ∈ s.analysis.entryPoints ↔
    ∃ route, routeFlow route ∈ s.analysis.flows ∧ name = httpEndpoint route
  route : ∀ route, s.route = some route → routeFlow route ∈ s.analysis.flows

section Flows

variable {known more : List DataFlow} {flow : DataFlow} {s : State}

/-- A flow stays explained when more flows are known. -/
theorem Explained.mono (h : Explained known flow) (hMore : known ⊆ more) :
    Explained more flow := by
  cases h with
  | route name => exact .route name
  | middleware name => exact .middleware name
  | request part h => exact .request part (hMore h)
  | response kind h => exact .response kind (hMore h)

/-- Routes with the same flow have the same name. -/
theorem routeFlow_inj {name other : Text} (h : routeFlow name = routeFlow other) :
    name = other := by
  have hSink := congrArg DataFlow.sink h
  cases hSink
  rfl

/-- A flow leads over one station. -/
theorem LeadsOver.station_eq {station other : Text} {last : Json} (h : LeadsOver station flow)
    (hPath : flow.path = [.str "express", .str other, last]) : station = other := by
  rw [LeadsOver, hPath, List.cons_prefix_cons, List.cons_prefix_cons] at h
  cases h.2.1
  rfl

theorem leadsOver_iff {station other : Text} {last : Json}
    (hPath : flow.path = [.str "express", .str other, last]) :
    LeadsOver station flow ↔ station = other := by
  constructor
  · intro h
    exact h.station_eq hPath
  · rintro rfl
    exact ⟨[last], hPath.symm⟩

@[simp] theorem leadsOver_routeFlow_iff {station name : Text} :
    LeadsOver station (routeFlow name) ↔ station = "router" := leadsOver_iff rfl

@[simp] theorem leadsOver_middlewareFlow_iff {station : Text} {name : Json} :
    LeadsOver station (middlewareFlow name) ↔ station = "middleware" := leadsOver_iff rfl

@[simp] theorem leadsOver_requestFlow_iff {station route part : Text} :
    LeadsOver station (requestFlow route part) ↔ station = "request" := leadsOver_iff rfl

@[simp] theorem leadsOver_responseFlow_iff {station route kind : Text} :
    LeadsOver station (responseFlow route kind) ↔ station = "response" := leadsOver_iff rfl

theorem leadsOver_routeFlow (name : Text) : LeadsOver "router" (routeFlow name) := ⟨_, rfl⟩

/-- Only routes have flows over the router. -/
theorem Explained.router (h : Explained known flow) (hOver : LeadsOver "router" flow) :
    ∃ name, flow = routeFlow name := by
  cases h with
  | route name => exact ⟨name, rfl⟩
  | middleware name => exact absurd (hOver.station_eq rfl) (by decide)
  | request part h => exact absurd (hOver.station_eq rfl) (by decide)
  | response kind h => exact absurd (hOver.station_eq rfl) (by decide)

/-- Flows over the request go into a route that is known. -/
theorem Explained.request_sink (h : Explained known flow) (hOver : LeadsOver "request" flow) :
    ∃ route, routeFlow route ∈ known ∧ flow.sink = .str route := by
  cases h with
  | route name => exact absurd (hOver.station_eq rfl) (by decide)
  | middleware name => exact absurd (hOver.station_eq rfl) (by decide)
  | @request part route h => exact ⟨route, h, rfl⟩
  | response kind h => exact absurd (hOver.station_eq rfl) (by decide)

/-- Flows over the response come from a route that is known. -/
theorem Explained.response_source (h : Explained known flow) (hOver : LeadsOver "response" flow) :
    ∃ route, routeFlow route ∈ known ∧ flow.source = .str route := by
  cases h with
  | route name => exact absurd (hOver.station_eq rfl) (by decide)
  | middleware name => exact absurd (hOver.station_eq rfl) (by decide)
  | request part h => exact absurd (hOver.station_eq rfl) (by decide)
  | @response kind route h => exact ⟨route, h, rfl⟩

/-- In a sound state the entry points and flows are consistent. -/
theorem Sound.consistent (h : Sound s) : Consistent s.analysis where
  entryPoints name := by
    rw [h.entryPoints]
    constructor
    · rintro ⟨route, hFlow, rfl⟩
      exact ⟨routeFlow route, hFlow, leadsOver_routeFlow route, route, rfl, rfl⟩
    · rintro ⟨flow, hFlow, hOver, route, hSink, rfl⟩
      obtain ⟨other, rfl⟩ := (h.flows flow hFlow).router hOver
      obtain rfl : other = route := by
        cases hSink
        rfl
      exact ⟨other, hFlow, rfl⟩
  router flow hFlow hOver := by
    obtain ⟨name, rfl⟩ := (h.flows flow hFlow).router hOver
    exact ⟨name, rfl, rfl, rfl⟩
  request flow hFlow hOver := by
    obtain ⟨route, hRoute, hSink⟩ := (h.flows flow hFlow).request_sink hOver
    exact ⟨routeFlow route, hRoute, leadsOver_routeFlow route, hSink⟩
  response flow hFlow hOver := by
    obtain ⟨route, hRoute, hSource⟩ := (h.flows flow hFlow).response_source hOver
    exact ⟨routeFlow route, hRoute, leadsOver_routeFlow route, hSource⟩

/-- Flows that are no routes and name known routes keep a state sound. -/
theorem Sound.addFlows (h : Sound s) (hMore : ∀ flow ∈ more, Explained s.analysis.flows flow)
    (hOver : ∀ flow ∈ more, ¬LeadsOver "router" flow) : Sound (s.addFlows more) where
  flows := by
    intro flow hFlow
    have hSub : s.analysis.flows ⊆ s.analysis.flows ++ more := List.subset_append_left _ _
    rcases List.mem_append.1 hFlow with hOld | hNew
    · exact (h.flows flow hOld).mono hSub
    · exact (hMore flow hNew).mono hSub
  entryPoints := by
    intro name
    have hSame (route : Text) :
        routeFlow route ∈ s.analysis.flows ++ more ↔ routeFlow route ∈ s.analysis.flows := by
      have hNew : routeFlow route ∉ more := fun hNew => hOver _ hNew (leadsOver_routeFlow route)
      rw [List.mem_append, or_iff_left hNew]
    simp only [State.addFlows, hSame]
    exact h.entryPoints name
  route := by
    intro route hRoute
    exact List.mem_append_left _ (h.route route hRoute)

/-- A route that is noted as an entry point and with its flow keeps a state sound, whether or not it
becomes the one that was found last. -/
theorem Sound.addRoute (h : Sound s) (name : Text) {last : Option Text}
    (hLast : last = s.route ∨ last = some name) :
    Sound ⟨(s.analysis.addEntryPoint (httpEndpoint name)).addFlow (routeFlow name), last⟩ where
  flows := by
    intro flow hFlow
    rcases List.mem_append.1 hFlow with hOld | hNew
    · exact (h.flows flow hOld).mono (List.subset_append_left _ _)
    · rw [List.mem_singleton.1 hNew]
      exact .route name
  entryPoints := by
    intro other
    have hAdded : other ∈ insertNew (httpEndpoint name) s.analysis.entryPoints ↔
        other ∈ s.analysis.entryPoints ∨ other ∈ [httpEndpoint name] := by
      rw [← mem_foldl_insertNew]
      rfl
    simp only [Analysis.addFlow, Analysis.addEntryPoint, hAdded, h.entryPoints, List.mem_append,
      List.mem_singleton]
    constructor
    · rintro (⟨route, hFlow, rfl⟩ | rfl)
      · exact ⟨route, .inl hFlow, rfl⟩
      · exact ⟨name, .inr rfl, rfl⟩
    · rintro ⟨route, hFlow | hFlow, rfl⟩
      · exact .inl ⟨route, hFlow, rfl⟩
      · rw [routeFlow_inj hFlow]
        exact .inr rfl
  route := by
    intro route hRoute
    rcases hLast with rfl | rfl
    · exact List.mem_append_left _ (h.route route hRoute)
    · cases hRoute
      exact List.mem_append_right _ List.mem_cons_self

end Flows

variable {s : State} {p : State → Prop}

/-- A step of the analysis leaves the known route as it is. -/
theorem onAnalysis_leads {step : Step Analysis Unit}
    (h : step.Leads s.analysis fun _ a => p ⟨a, s.route⟩) :
    (onAnalysis step).Leads s fun _ => p := by
  apply leads_get
  apply leads_modify
  unfold Leads
  rw [perform_attempt]
  exact h

/-- Printing changes neither flows nor entry points. -/
theorem say_sound [Output] (line : Text) (h : Sound s) : (say line).Leads s fun _ => Sound := by
  apply onAnalysis_leads
  apply leads_attempt ?_ fun _ _ => h
  intro shown _
  exact ⟨h.flows, h.entryPoints, h.route⟩

theorem foldl_noteRoute_sound (names : List Text) (h : Sound s) :
    Sound (names.foldl noteRoute s) := by
  induction names generalizing s with
  | nil => exact h
  | cons name names ih => exact ih (h.addRoute name (.inr rfl))

theorem middleware_sound (names : List Json) (h : Sound s) :
    Sound (s.addFlows (names.map middlewareFlow)) := by
  apply h.addFlows
  · rw [List.forall_mem_map]
    exact fun name _ => .middleware name
  · rw [List.forall_mem_map]
    exact fun name _ hOver => absurd (hOver.station_eq rfl) (by decide)

/-- Data that is credited to a route with a flow is explained by it. -/
theorem explained_dataFlows {known : List DataFlow} {route : Text} (h : routeFlow route ∈ known)
    (source : Text) : ∀ flow ∈ dataFlows route source, Explained known flow := by
  rw [dataFlows, List.forall_mem_append, List.forall_mem_map, List.forall_mem_map]
  exact ⟨fun part _ => .request part h, fun kind _ => .response kind h⟩

/-- Data may be credited to the route that is known. -/
theorem dataFlows_sound {route : Text} (source : Text) (h : Sound s)
    (hRoute : s.route = some route) : Sound (s.addFlows (dataFlows route source)) := by
  apply h.addFlows
  · exact explained_dataFlows (h.route route hRoute) source
  · rw [dataFlows, List.forall_mem_append, List.forall_mem_map, List.forall_mem_map]
    exact ⟨fun part _ hOver => absurd (hOver.station_eq rfl) (by decide),
      fun kind _ hOver => absurd (hOver.station_eq rfl) (by decide)⟩

/-- A scan keeps a state sound: data is credited to a route only once it has a flow. -/
theorem scan_sound (source : Text) (h : Sound s) : Sound (scan source s) := by
  have hRoutes := foldl_noteRoute_sound ((findEach routePatterns source).map Route.name) h
  have hNames := middleware_sound ((middlewareNames source).map Json.str) hRoutes
  rw [List.map_map] at hNames
  unfold scan
  dsimp only
  split
  · next route hRoute => exact dataFlows_sound source hNames hRoute
  · exact hNames

/-- The analysis of a source keeps a state sound. -/
theorem analyze_sound [Output] (content : Json) (file : Text) (h : Sound s) :
    (analyze content file).Leads s fun _ => Sound := by
  apply leads_bind_keep (say_sound _ h)
  intro _ s h
  split
  · apply leads_modify
    exact say_sound _ (scan_sound _ h)
  · exact say_sound _ h

/-- A source is searched if its file can be named, and otherwise its analysis fails at once. -/
theorem analyze_leads [Output] (source file : Text) (s : State) :
    (analyze (.str source) file).Leads s fun result after =>
      (result.isOk = true ↔ file.Sayable) ∧
        (file.Sayable → Prints (scan source s) after) ∧ (¬file.Sayable → Prints s after) := by
  have hLine (start : String) : (Text.ofString start ++ file).Sayable ↔ file.Sayable := by simp
  apply leads_bind_of (say_leads ("[DEBUG] Starting Express analysis of " ++ file) s)
  intro result started hSaid
  rw [hLine] at hSaid
  cases result with
  | error fault =>
      have hFile : ¬file.Sayable := fun h => Bool.false_ne_true (hSaid.1.2 h)
      exact ⟨hSaid.1, fun h => absurd h hFile, fun _ => hSaid.2⟩
  | ok _ =>
      have hFile : file.Sayable := hSaid.1.1 rfl
      apply leads_modify
      apply (say_leads _ _).imp
      intro result after hLast
      rw [hLine] at hLast
      exact ⟨hLast.1, fun _ => (hSaid.2.scan source).trans hLast.2, fun h => absurd hFile h⟩

/-- The visit of a tree keeps a state sound. -/
theorem keeps_sound (route : Option Text) : Keeps fun a => Sound ⟨a, route⟩ where
  route name _ h := h.addRoute name (.inl rfl)
  middleware name _ h := middleware_sound [name] h
  bind _ _ _ h := ⟨h.flows, h.entryPoints, h.route⟩
  source _ _ _ h := ⟨h.flows, h.entryPoints, h.route⟩

/-- Every use of an analysis keeps its state sound. -/
theorem use_sound [Output] (use : Use) (h : Sound s) : use.step.Leads s fun _ => Sound := by
  cases use with
  | source content file => exact analyze_sound content file h
  | tree t =>
      apply onAnalysis_leads
      apply visit_leads (keeps_sound s.route) ?_ t h
      intro f a h
      exact ⟨h.flows, h.entryPoints, h.route⟩

/-- Uses in turn keep a state sound. -/
theorem after_sound [Output] (uses : List Use) (h : Sound s) : Sound (after uses s) := by
  induction uses generalizing s with
  | nil => exact h
  | cons use uses ih => exact ih (use_sound use h)

/-- After any sources and trees in turn, the entry points are those of the routes, each route has
its source and its name on the way, and request data and responses belong to routes. -/
theorem after_consistent [Output] (uses : List Use) : Consistent (after uses {}).analysis := by
  have hNew : Sound {} := by
    constructor
    · exact nofun
    · simp
    · exact nofun
  exact (after_sound uses hNew).consistent

end RepoAudit.Express
