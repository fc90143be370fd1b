import RepoAudit.Proofs.Express.Occurrences

/-!
Files that are analysed in turn by one analysis of Express sources. The route that was found last
stays known, and a file without routes borrows it. Main statement: what a file adds is what it has
alone, unless it accesses request data or answers without a route of its own after a file with
routes; the order of files matters exactly if there are files of both kinds.
-/
namespace RepoAudit.Express

open Step

/-- A file that is analysed: what it holds, and its name. -/
structure File where
  content : Json
  name : Text

/-- Data is credited if there is some. -/
theorem dataFlows_eq_nil_iff {route text : Text} : dataFlows route text = [] ↔
    ¬((∃ m, Match.Stands (RequestText ["req", "request"]) text m) ∨
      ∃ m, Match.Stands (ResponseText ["res", "response"]) text m) := by
  have hData := dataFound_dataFlows text (some route)
  rw [Option.elim_some] at hData
  generalize dataFlows route text = flows at hData ⊢
  cases hData with
  | known _ hRequests hResponses =>
      rw [List.append_eq_nil_iff, List.map_eq_nil_iff, List.map_eq_nil_iff, hRequests.eq_nil_iff,
        hResponses.eq_nil_iff, not_or]

/-- Flows over the request and the response name a route that has a flow among them. -/
def NamesOwnRoutes (flows : List DataFlow) : Prop := ∀ flow ∈ flows,
  (LeadsOver "request" flow → ∃ other ∈ flows, LeadsOver "router" other ∧ flow.sink = other.sink) ∧
  (LeadsOver "response" flow → ∃ other ∈ flows, LeadsOver "router" other ∧ flow.source = other.sink)

/-- Flows that are explained by routes among them name only these. -/
theorem namesOwnRoutes_of_explained {flows : List DataFlow}
    (h : ∀ flow ∈ flows, Explained flows flow) : NamesOwnRoutes flows := by
  intro flow hFlow
  constructor
  · intro hOver
    obtain ⟨route, hRoute, hSink⟩ := (h flow hFlow).request_sink hOver
    exact ⟨routeFlow route, hRoute, leadsOver_routeFlow route, hSink⟩
  · intro hOver
    obtain ⟨route, hRoute, hSource⟩ := (h flow hFlow).response_source hOver
    exact ⟨routeFlow route, hRoute, leadsOver_routeFlow route, hSource⟩

/-- Any two members of a list can be put in front, if they differ. -/
theorem exists_perm_cons_cons {files : List File} {file other : File} (hFile : file ∈ files)
    (hOther : other ∈ files) (hDiffer : file ≠ other) :
    ∃ rest, (file :: other :: rest).Perm files := by
  obtain ⟨front, back, rfl⟩ := List.append_of_mem hFile
  have hRest : other ∈ front ++ back := by
    simp only [List.mem_append, List.mem_cons] at hOther ⊢
    rcases hOther with hFront | rfl | hBack
    · exact .inl hFront
    · exact absurd rfl hDiffer
    · exact .inr hBack
  obtain ⟨left, right, hSplit⟩ := List.append_of_mem hRest
  refine ⟨left ++ right, ?_⟩
  have hInner : (other :: (left ++ right)).Perm (front ++ back) := by
    rw [hSplit]
    exact List.perm_middle.symm
  exact (hInner.cons file).trans List.perm_middle.symm

section Files

variable [Output]

namespace File

/-- The text that is searched in a file. One that holds no text, or cannot be named, is not. -/
def text? (file : File) : Option Text :=
  match file.content, file.name.unencodable? Output.handler with
  | .str text, none => some text
  | _, _ => none

/-- The names of the routes in a file, in the order in which they are found. -/
def routeNames (file : File) : List Text :=
  file.text?.elim [] fun text => (findEach routePatterns text).map Route.name

def Routed (file : File) : Prop := ∃ text, file.text? = some text ∧ HoldsRoute text

/-- An access to request data or a call that answers stands in a file, but no route. -/
def Unrouted (file : File) : Prop := ∃ text, file.text? = some text ∧ ¬HoldsRoute text ∧
  ((∃ m, Match.Stands (RequestText ["req", "request"]) text m) ∨
    ∃ m, Match.Stands (ResponseText ["res", "response"]) text m)

/-- A file with data but no route comes after one with routes. -/
def Borrows (file : File) (before : List File) : Prop :=
  file.Unrouted ∧ ∃ other ∈ before, other.Routed

/-- The flows that a file adds after the route `known`. -/
def found (known : Option Text) (file : File) : List DataFlow :=
  file.text?.elim [] fun text =>
    file.routeNames.map routeFlow ++
      (middlewareNames text).map (fun name => middlewareFlow (.str name)) ++
        (file.routeNames.getLast?.or known).elim [] fun route => dataFlows route text

/-- The flows that a file without routes credits to the route `known`. -/
def strays (known : Option Text) (file : File) : List DataFlow :=
  if file.routeNames.isEmpty then
    file.text?.elim [] fun text => known.elim [] fun route => dataFlows route text
  else []

end File

/-- The state of a new analysis after files in turn. -/
def afterFiles (files : List File) (s : State) : State :=
  after (files.map fun file => .source file.content file.name) s

def flowsAfter (files : List File) : List DataFlow := (afterFiles files {}).analysis.flows

/-- The route that is known after files in turn: the last one that stands in them. -/
def lastRoute (files : List File) : Option Text := (files.flatMap File.routeNames).getLast?

variable {file : File} {files : List File} {s : State}

/-- A text is searched if the file holds one and its name can be printed. -/
theorem File.text?_eq_some_iff {text : Text} :
    file.text? = some text ↔ file.content = .str text ∧ file.name.Sayable := by
  rw [Text.sayable_iff, File.text?]
  split
  · next hContent hName => simp [hContent, hName]
  · next hOther =>
      simp only [reduceCtorEq, false_iff, not_and]
      exact hOther text

/-- Nothing is searched in what holds no text. -/
theorem analyze_prints {content : Json} (h : ∀ text, content ≠ .str text) (file : Text)
    (s : State) : (analyze content file).Leads s fun _ after => Prints s after := by
  apply leads_bind_of (say_leads ("[DEBUG] Starting Express analysis of " ++ file) s)
  intro result started hSaid
  cases result with
  | error fault => exact hSaid.2
  | ok _ =>
      dsimp only
      split
      · next text => exact absurd rfl (h text)
      · exact (say_leads _ started).imp fun _ _ hLast => hSaid.2.trans hLast.2

/-- The analysis of a file searches its text, if there is one. -/
theorem analyze_file (file : File) (s : State) :
    (analyze file.content file.name).Leads s fun _ after =>
      Prints (file.text?.elim s fun text => scan text s) after := by
  cases hText : file.text? with
  | none =>
      by_cases hContent : ∃ text, file.content = .str text
      · obtain ⟨text, hContent⟩ := hContent
        have hName : ¬file.name.Sayable := by
          intro hName
          rw [File.text?_eq_some_iff.2 ⟨hContent, hName⟩] at hText
          cases hText
        rw [hContent]
        exact (analyze_leads text file.name s).imp fun _ _ hAfter => hAfter.2.2 hName
      · exact analyze_prints (not_exists.1 hContent) file.name s
  | some text =>
      obtain ⟨hContent, hName⟩ := File.text?_eq_some_iff.1 hText
      rw [hContent]
      exact (analyze_leads text file.name s).imp fun _ _ hAfter => hAfter.2.1 hName

/-- What a file adds, and the route that is known after it. -/
theorem analyze_file_found (file : File) (s : State) :
    (analyze file.content file.name).Leads s fun _ after =>
      after.analysis.flows = s.analysis.flows ++ file.found s.route ∧
        after.route = file.routeNames.getLast?.or s.route := by
  apply (analyze_file file s).imp
  intro _ after hAfter
  rw [hAfter.flows, hAfter.route, File.found, File.routeNames]
  cases file.text? with
  | none => simp
  | some text =>
      simp only [Option.elim_some, scan_flows, scan_route]
      simp

/-- The flows that files in turn add after the route `known`. -/
def foundFrom : (known : Option Text) → List File → List DataFlow
  | _, [] => []
  | known, file :: files => file.found known ++ foundFrom (file.routeNames.getLast?.or known) files

theorem lastRoute_cons (file : File) (files : List File) :
    lastRoute (file :: files) = (lastRoute files).or file.routeNames.getLast? := by
  rw [lastRoute, List.flatMap_cons, List.getLast?_append, lastRoute]

/-- The flows after files in turn, and the route that is then known. -/
theorem afterFiles_found (files : List File) (s : State) :
    (afterFiles files s).analysis.flows = s.analysis.flows ++ foundFrom s.route files ∧
      (afterFiles files s).route = (lastRoute files).or s.route := by
  induction files generalizing s with
  | nil => simp [afterFiles, after, foundFrom, lastRoute]
  | cons file files ih =>
      have hFirst := analyze_file_found file s
      have hRest := ih ((analyze file.content file.name).perform s).2
      rw [Leads] at hFirst
      rw [hFirst.1, hFirst.2] at hRest
      rw [lastRoute_cons, Option.or_assoc, foundFrom, ← List.append_assoc]
      exact hRest

/-- A new analysis starts without a route. -/
theorem flowsAfter_eq (files : List File) : flowsAfter files = foundFrom none files :=
  (afterFiles_found files {}).1

theorem foundFrom_append (known : Option Text) (files others : List File) :
    foundFrom known (files ++ others) =
      foundFrom known files ++ foundFrom ((lastRoute files).or known) others := by
  induction files generalizing known with
  | nil => rfl
  | cons file files ih =>
      rw [List.cons_append, foundFrom, foundFrom, ih, lastRoute_cons, Option.or_assoc,
        List.append_assoc]

/-- A file finds what it finds alone, and credits the rest to the route that is known. -/
theorem File.found_eq (known : Option Text) (file : File) :
    file.found known = file.found none ++ file.strays known := by
  unfold found strays
  cases file.text? with
  | none => simp
  | some text =>
      cases hNames : file.routeNames.getLast? with
      | none => simp [List.getLast?_eq_none_iff.1 hNames]
      | some name =>
          have hSome : file.routeNames.isEmpty = false := by
            cases hList : file.routeNames with
            | nil => simp [hList] at hNames
            | cons _ _ => rfl
          simp [hSome]

/-- A file has no names of routes exactly if no route stands in it. -/
theorem File.routeNames_eq_nil_iff : file.routeNames = [] ↔ ¬file.Routed := by
  unfold routeNames Routed
  cases file.text? with
  | none => simp
  | some text =>
      simp [← findEach_routePatterns_ne_nil_iff]

/-- No route is known exactly if none stood in any file. -/
theorem lastRoute_eq_none_iff : lastRoute files = none ↔ ∀ file ∈ files, ¬file.Routed := by
  simp only [lastRoute, List.getLast?_eq_none_iff, List.flatMap_eq_nil_iff,
    File.routeNames_eq_nil_iff]

theorem File.Unrouted.not_routed (h : file.Unrouted) : ¬file.Routed := by
  rintro ⟨other, hOther, hRoute⟩
  obtain ⟨text, hText, hNone, -⟩ := h
  rw [hText] at hOther
  cases hOther
  exact hNone hRoute

/-- A file that borrows does so with more files around it. -/
theorem File.Borrows.mono {before : List File} (h : file.Borrows before) (hAll : before ⊆ files) :
    file.Borrows files := by
  obtain ⟨hFile, other, hOther, hRouted⟩ := h
  exact ⟨hFile, other, hAll hOther, hRouted⟩

/-- A file credits nothing to others exactly if it borrows no route. -/
theorem File.strays_eq_nil_iff {before : List File} :
    file.strays (lastRoute before) = [] ↔ ¬file.Borrows before := by
  by_cases hRouted : file.Routed
  · have hSome : file.routeNames.isEmpty = false := by
      rw [List.isEmpty_eq_false_iff, Ne, routeNames_eq_nil_iff, Classical.not_not]
      exact hRouted
    have hNot : ¬file.Unrouted := fun h => h.not_routed hRouted
    simp [strays, Borrows, hSome, hNot]
  · have hNone : file.routeNames = [] := routeNames_eq_nil_iff.2 hRouted
    cases hText : file.text? with
    | none => simp [strays, Borrows, Unrouted, hText]
    | some text =>
        have hRoute : ¬HoldsRoute text := fun h => hRouted ⟨text, hText, h⟩
        cases hLast : lastRoute before with
        | none =>
            have hBefore := lastRoute_eq_none_iff.1 hLast
            simp only [strays, Borrows, hText, Option.elim_some, Option.elim_none, ite_self,
              true_iff, not_and, not_exists]
            exact fun _ => hBefore
        | some route =>
            have hBefore : ∃ other ∈ before, other.Routed := by
              by_contra hNoRoute
              have hUnknown : lastRoute before = none := by
                rw [lastRoute_eq_none_iff]
                exact fun other hOther hHolds => hNoRoute ⟨other, hOther, hHolds⟩
              rw [hLast] at hUnknown
              cases hUnknown
            simp [strays, Borrows, Unrouted, hNone, hText, hRoute, hBefore, dataFlows_eq_nil_iff]

/-- If a file borrows no route, its flows are explained by those of its own routes. -/
theorem File.explained_found {known : Option Text} (h : file.strays known = []) :
    ∀ flow ∈ file.found known, Explained (file.found known) flow := by
  rw [found_eq, h, List.append_nil]
  unfold found
  cases file.text? with
  | none => simp
  | some text =>
      rw [Option.elim_some, Option.or_none]
      intro flow hFlow
      rw [List.mem_append, List.mem_append] at hFlow
      rcases hFlow with (hRoute | hMiddleware) | hData
      · obtain ⟨name, -, rfl⟩ := List.mem_map.1 hRoute
        exact .route name
      · obtain ⟨name, -, rfl⟩ := List.mem_map.1 hMiddleware
        exact .middleware (.str name)
      · cases hLast : file.routeNames.getLast? with
        | none => simp [hLast] at hData
        | some route =>
            have hName : route ∈ file.routeNames := List.mem_of_getLast? hLast
            rw [hLast, Option.elim_some] at hData
            apply explained_dataFlows ?_ text flow hData
            exact List.mem_append_left _ (List.mem_append_left _ (List.mem_map_of_mem hName))

/-- A route is borrowed for flows over the request and the response, by a file without routes. -/
theorem File.of_mem_strays {known : Option Text} {flow : DataFlow} (h : flow ∈ file.strays known) :
    file.routeNames = [] ∧ (LeadsOver "request" flow ∨ LeadsOver "response" flow) := by
  unfold strays at h
  split at h
  · next hNone =>
      refine ⟨List.isEmpty_iff.1 hNone, ?_⟩
      cases hText : file.text? with
      | none => simp [hText] at h
      | some text =>
          cases known with
          | none => simp [hText] at h
          | some route =>
              simp only [hText, Option.elim_some, dataFlows, List.mem_append, List.mem_map] at h
              rcases h with ⟨part, -, rfl⟩ | ⟨kind, -, rfl⟩
              · simp
              · simp
  · simp at h

/-- The flows of a file name routes of its own if and only if it borrows none. -/
theorem File.namesOwnRoutes_found_iff {known : Option Text} :
    NamesOwnRoutes (file.found known) ↔ file.strays known = [] := by
  constructor
  · intro hNames
    by_contra hSome
    obtain ⟨flow, hFlow⟩ := List.exists_mem_of_ne_nil _ hSome
    obtain ⟨hNone, hOver⟩ := of_mem_strays hFlow
    have hMember : flow ∈ file.found known := by
      rw [found_eq]
      exact List.mem_append_right _ hFlow
    have hRouter : ∀ other ∈ file.found known, ¬LeadsOver "router" other := by
      unfold found
      cases file.text? with
      | none => simp
      | some text =>
          rw [Option.elim_some, hNone, List.map_nil, List.nil_append]
          exact List.forall_mem_append.2 ⟨not_leadsOver_middleware (by decide) _,
            not_leadsOver_dataFlows (by decide) (by decide) _ text⟩
    rcases hOver with hOver | hOver
    · obtain ⟨other, hOther, hRoute, -⟩ := (hNames flow hMember).1 hOver
      exact hRouter other hOther hRoute
    · obtain ⟨other, hOther, hRoute, -⟩ := (hNames flow hMember).2 hOver
      exact hRouter other hOther hRoute
  · intro hNone
    exact namesOwnRoutes_of_explained (explained_found hNone)

/-- What the last of some files adds is what it finds alone and what it borrows a route for. -/
theorem flowsAfter_append_singleton (before : List File) (file : File) :
    flowsAfter (before ++ [file]) = flowsAfter before ++ file.found (lastRoute before) := by
  rw [flowsAfter_eq, foundFrom_append, Option.or_none, flowsAfter_eq]
  simp [foundFrom]

theorem flowsAfter_singleton (file : File) : flowsAfter [file] = file.found none := by
  rw [flowsAfter_eq]
  simp [foundFrom]

/-- Files none of which can borrow a route add what each finds alone. -/
theorem flowsAfter_eq_flatMap (h : ∀ file ∈ files, ¬file.Borrows files) :
    flowsAfter files = files.flatMap fun file => flowsAfter [file] := by
  induction files using List.reverseRecOn with
  | nil => rfl
  | append_singleton before file ih =>
      have hAll : before ⊆ before ++ [file] := List.subset_append_left before [file]
      have hBefore := ih fun earlier hEarlier hBorrows =>
        h earlier (hAll hEarlier) (hBorrows.mono hAll)
      have hNone : file.strays (lastRoute before) = [] := by
        rw [File.strays_eq_nil_iff]
        exact fun hBorrows => h file (by simp) (hBorrows.mono hAll)
      rw [flowsAfter_append_singleton, File.found_eq, hNone, hBefore, List.flatMap_append]
      simp [flowsAfter_singleton]

/-- Two files of different kinds add more if the one with routes comes first. Both orders leave the
same route known, so the other files add the same. -/
theorem length_flowsAfter_lt {file other : File} (hFile : file.Unrouted) (hOther : other.Routed)
    (rest : List File) :
    (flowsAfter (file :: other :: rest)).length < (flowsAfter (other :: file :: rest)).length := by
  have hNone : file.routeNames = [] := File.routeNames_eq_nil_iff.2 hFile.not_routed
  have hLast : lastRoute [other] = other.routeNames.getLast? := by simp [lastRoute]
  have hStrays : 0 < (file.strays other.routeNames.getLast?).length := by
    rw [List.length_pos_iff, ← hLast, Ne, File.strays_eq_nil_iff, Classical.not_not]
    exact ⟨hFile, other, List.mem_singleton.2 rfl, hOther⟩
  simp only [flowsAfter_eq, foundFrom, hNone, List.getLast?_nil, Option.none_or, Option.or_none,
    file.found_eq other.routeNames.getLast?, List.length_append]
  omega

/-- Reordering files permutes their flows unless one of them can borrow a route. -/
theorem flowsAfter_perm_iff :
    (∀ order : List File, order.Perm files → (flowsAfter order).Perm (flowsAfter files)) ↔
      ∀ file ∈ files, ¬file.Borrows files := by
  constructor
  · rintro hPerm file hFile ⟨hUnrouted, other, hOther, hRouted⟩
    have hDiffer : file ≠ other := by
      rintro rfl
      exact hUnrouted.not_routed hRouted
    obtain ⟨rest, hOrder⟩ := exists_perm_cons_cons hFile hOther hDiffer
    have hSwapped := (List.Perm.swap file other rest).trans hOrder
    have hSame := ((hPerm _ hOrder).trans (hPerm _ hSwapped).symm).length_eq
    have hMore := length_flowsAfter_lt hUnrouted hRouted rest
    omega
  · intro hNone order hOrder
    have hAlso : ∀ file ∈ order, ¬file.Borrows order := by
      intro file hFile hBorrows
      exact hNone file (hOrder.mem_iff.1 hFile) (hBorrows.mono hOrder.subset)
    rw [flowsAfter_eq_flatMap hNone, flowsAfter_eq_flatMap hAlso]
    exact hOrder.flatMap_right _

/-- After any files, a file adds what it adds to a new analysis, and then what it credits to the
last route before it. It adds just what it adds to a new analysis, and names no routes but its own,
if and only if it borrows none. Reordering files permutes their flows if and only if none of them
can borrow a route from another. -/
theorem files_isolated_iff (before files : List File) (file : File) :
    (∃ added, flowsAfter (before ++ [file]) = flowsAfter before ++ added ∧
      added = flowsAfter [file] ++ file.strays (lastRoute before) ∧
      (added = flowsAfter [file] ↔ ¬file.Borrows before) ∧
      (NamesOwnRoutes added ↔ ¬file.Borrows before)) ∧
    ((∀ order : List File, order.Perm files → (flowsAfter order).Perm (flowsAfter files)) ↔
      ∀ file ∈ files, ¬file.Borrows files) := by
  have hAdded := flowsAfter_append_singleton before file
  have hFound := file.found_eq (lastRoute before)
  rw [← flowsAfter_singleton] at hFound
  refine ⟨⟨_, hAdded, hFound, ?_, ?_⟩, flowsAfter_perm_iff⟩
  · rw [hFound, List.append_right_eq_self, File.strays_eq_nil_iff]
  · rw [File.namesOwnRoutes_found_iff, File.strays_eq_nil_iff]

end Files

def routedFile : File := ⟨.str "app.get('/a', h)", "a.js"⟩

/-- A file that answers with request data, but for no route. -/
def strayFile : File := ⟨.str "res.send(req.body)", "b.js"⟩

/-- A file that has no flows alone credits its data to the route of another. -/
theorem files_isolated_iff_stray :
    flowsAfter [strayFile] = [] ∧
    flowsAfter [routedFile, strayFile] =
      [routeFlow "GET /a", requestFlow "GET /a" "body", responseFlow "GET /a" "send"] ∧
    strayFile.Borrows [routedFile] := by
  have hAlone : flowsAfter [strayFile] = [] := rfl
  have hBoth : flowsAfter [routedFile, strayFile] =
      [routeFlow "GET /a", requestFlow "GET /a" "body", responseFlow "GET /a" "send"] := rfl
  refine ⟨hAlone, hBoth, ?_⟩
  obtain ⟨added, hAdded, -, hIsolated, -⟩ := (files_isolated_iff [routedFile] [] strayFile).1
  by_contra hNot
  rw [hIsolated.2 hNot, hAlone, List.append_nil] at hAdded
  have hLength : (flowsAfter [routedFile]).length = 1 := rfl
  rw [← hAdded] at hLength
  cases hBoth ▸ hLength

end RepoAudit.Express
