import Mathlib.Data.List.Forall2
import RepoAudit.Proofs.Entries
import RepoAudit.Proofs.Json.Keys
import RepoAudit.Proofs.Json.Shape
import RepoAudit.Proofs.Step
import RepoAudit.Triage.Sarif

/-!
The summaries of the results of a document whose parts are of the types of SARIF. Main statement:
there is one summary for each result, in the order of the document, unless a result has an empty
array of locations. One such result is enough for there to be no summaries at all.
-/
namespace RepoAudit.Triage

open Json

/-- Whether a value is a rule. It has a text for its id, and its properties may be missing. -/
def isRule (v : Json) : Bool := (v.member? "id").any isText && v.allows ["properties", "tags"]

/-- Whether a value is a location. Each of its parts may be missing. -/
def isLocation (v : Json) : Bool := v.allows ["physicalLocation", "artifactLocation", "uri"]

/-- Whether a value is a result. Each of its parts may be missing. -/
def isResult (v : Json) : Bool :=
  v.allows ["message", "text"] && v.hasOptional "ruleId" isText
    && v.hasOptional "locations" (isArrayOf isLocation)

/-- Whether a value is a run. Its rules and its results may be missing. -/
def isRun (v : Json) : Bool :=
  v.allows ["tool", "driver", "rules"]
    && (v.follow? ["tool", "driver", "rules"]).all (isArrayOf isRule)
    && v.hasOptional "results" (isArrayOf isResult)

/-- Whether a value is a document. -/
def isSarif (v : Json) : Bool := v.isObject && v.hasOptional "runs" (isArrayOf isRun)

/-- The results of a document, run by run. -/
def resultsOf (sarif : Json) : List Json :=
  (sarif.itemsOf "runs").flatMap fun run => run.itemsOf "results"

def hasEmptyLocations (result : Json) : Bool :=
  match result.member? "locations" with
  | some (.arr []) => true
  | _ => false

/-- The file that a result names by its first location, or a word if it names none. -/
def locationName (result : Json) : Json :=
  match result.itemsOf "locations" with
  | [] => .str "unknown"
  | location :: _ =>
    (location.follow? ["physicalLocation", "artifactLocation", "uri"]).getD (.str "unknown")

def rulesIn (run : Json) : List (Json × Json) :=
  match run.follow? ["tool", "driver", "rules"] with
  | some (.arr rules) => rules.map fun rule => ((rule.member? "id").getD .null, rule)
  | _ => []

/-- The rule of a result among rules with their ids. Of those with its id the last one counts, and
without one it is empty. -/
def ruleFor (rules : List (Json × Json)) (result : Json) : Json :=
  (rules.reverse.lookup ((result.member? "ruleId").getD (.str "unknown"))).getD (.obj [])

/-- What a summary has to say on a result. -/
def findingOn (rules : List (Json × Json)) (result : Json) : Json :=
  .obj [("rule_id", (result.member? "ruleId").getD (.str "unknown")),
    ("description", (result.follow? ["message", "text"]).getD (.str [])),
    ("category", ((ruleFor rules result).follow? ["properties", "tags"]).getD (.arr [])),
    ("location", locationName result),
    ("rule_metadata", ((ruleFor rules result).member? "properties").getD (.obj []))]

/-- What the summaries of a document have to say, run by run. -/
def findingsOn (sarif : Json) : List Json :=
  (sarif.itemsOf "runs").flatMap fun run => (run.itemsOf "results").map (findingOn (rulesIn run))

variable {v result rule run sarif : Json} {rules : List (Json × Json)}

section Rules

theorem exists_id (h : isRule rule = true) :
    ∃ members t, rule = .obj members ∧ members.lookup (Text.ofString "id") = some (.str t) := by
  rw [isRule, Bool.and_eq_true, Option.any_eq_true] at h
  obtain ⟨⟨id, hId, hText⟩, hAllows⟩ := h
  obtain ⟨members, rfl⟩ := isObject_iff.1 (isObject_of_allows hAllows)
  obtain ⟨t, rfl⟩ := isText_iff.1 hText
  exact ⟨members, t, rfl, hId⟩

/-- Taking up rules sets an entry for each. -/
theorem foldlM_rules {items : List Json} (hRules : ∀ rule ∈ items, isRule rule = true)
    (entries : List (Json × Json)) :
    items.foldlM (fun rules rule => do
      let id ← (← rule.field "id").asKey
      return setEntry id rule rules) entries =
      .ok (setEntries (items.map fun rule => ((rule.member? "id").getD .null, rule)) entries) := by
  induction items generalizing entries with
  | nil => rfl
  | cons rule items ih =>
      obtain ⟨hRule, hRest⟩ := List.forall_mem_cons.1 hRules
      obtain ⟨members, t, rfl, hId⟩ := exists_id hRule
      rw [List.foldlM_cons, List.map_cons, setEntries_cons, member?, hId, ← ih hRest, field, hId]
      rfl

theorem rulesOf_eq (run : Json) : rulesOf run = (do
    (← (← getAlong (.arr []) ["tool", "driver", "rules"] run).elements).foldlM (fun rules rule => do
      let id ← (← rule.field "id").asKey
      return setEntry id rule rules) []) := by
  simp only [rulesOf, getAlong, bind_assoc]

/-- The rules of a run are kept by their ids, the last of each id. -/
theorem rulesOf_of_isRun (h : isRun run = true) : rulesOf run = .ok (setEntries (rulesIn run) []) ∧
    ∀ entry ∈ rulesIn run, entry.1.isText = true ∧ isRule entry.2 = true := by
  rw [isRun, Bool.and_eq_true, Bool.and_eq_true] at h
  obtain ⟨⟨hAllows, hRules⟩, -⟩ := h
  rw [rulesOf_eq, getAlong_of_allows (List.cons_ne_nil _ _) hAllows, rulesIn]
  cases hFound : run.follow? ["tool", "driver", "rules"] with
  | none => exact ⟨rfl, nofun⟩
  | some found =>
      rw [hFound, Option.all_some] at hRules
      obtain ⟨items, rfl, hItems⟩ := isArrayOf_iff.1 hRules
      have hEntries : ∀ rule ∈ items, ((rule.member? "id").getD .null).isText = true := by
        intro rule hRule
        obtain ⟨members, t, rfl, hId⟩ := exists_id (hItems rule hRule)
        rw [member?, hId]
        rfl
      exact ⟨foldlM_rules hItems [],
        List.forall_mem_map.2 fun rule hRule => ⟨hEntries rule hRule, hItems rule hRule⟩⟩

theorem isKey_of_isText (h : v.isText = true) : v.IsKey := by
  obtain ⟨t, rfl⟩ := isText_iff.1 h
  rfl

end Rules

/-- The id of a rule is a text. -/
theorem isText_ruleId (h : isResult result = true) :
    ((result.member? "ruleId").getD (.str "unknown")).isText = true := by
  rw [isResult, Bool.and_eq_true, Bool.and_eq_true] at h
  cases hId : result.member? "ruleId" with
  | none => rfl
  | some id => exact hasOptional_iff.1 h.1.2 id hId

theorem locationOf_eq (result : Json) : locationOf result = (do
    let location ← (← result.getD "locations" (.arr [.obj []])).first
    getAlong (.str "unknown") ["physicalLocation", "artifactLocation", "uri"] location) := by
  simp only [locationOf, getAlong]

/-- A result has a location or a word for none, unless its locations are an empty array. -/
theorem locationOf_of_isResult (h : isResult result = true) :
    locationOf result =
      if hasEmptyLocations result then .error .listIndexRange else .ok (locationName result) := by
  rw [isResult, Bool.and_eq_true, Bool.and_eq_true] at h
  obtain ⟨⟨hAllows, -⟩, hLocations⟩ := h
  rw [locationOf_eq, getD_of_isObject (isObject_of_allows hAllows), hasEmptyLocations, locationName,
    itemsOf]
  cases hFound : result.member? "locations" with
  | none => rfl
  | some found =>
      obtain ⟨items, rfl, hItems⟩ := isArrayOf_iff.1 (hasOptional_iff.1 hLocations found hFound)
      cases items with
      | nil => rfl
      | cons location items =>
          exact getAlong_of_allows (List.cons_ne_nil _ _) (hItems location List.mem_cons_self) _

/-- The rule of a result is one of the rules, or empty, so it can be asked for its tags. -/
theorem ruleFor_allows (hRules : ∀ entry ∈ rules, entry.1.isText = true ∧ isRule entry.2 = true)
    (result : Json) : (ruleFor rules result).allows ["properties", "tags"] = true := by
  rw [ruleFor]
  cases hFound : rules.reverse.lookup ((result.member? "ruleId").getD (.str "unknown")) with
  | none => rfl
  | some rule =>
      obtain ⟨id, hMember, -⟩ := exists_of_lookup hFound
      have hRule := (hRules _ (List.mem_reverse.1 hMember)).2
      rw [isRule, Bool.and_eq_true] at hRule
      exact hRule.2

/-- The rules that were taken up have for a result the last rule with its id. -/
theorem lookup_rules (hRules : ∀ entry ∈ rules, entry.1.isText = true ∧ isRule entry.2 = true)
    (hResult : isResult result = true) :
    ((setEntries rules []).lookup ((result.member? "ruleId").getD (.str "unknown"))).getD
      (.obj []) = ruleFor rules result := by
  have hKeys : ∀ entry ∈ rules, entry.1.IsKey := fun entry hEntry =>
    isKey_of_isText (hRules entry hEntry).1
  rw [lookup_setEntries_nil beq_iff_keyForm (isKey_of_isText (isText_ruleId hResult)) hKeys,
    ruleFor]

theorem summarize_eq (entries : List (Json × Json)) (result : Json) :
    summarize entries result = (do
      let ruleId ← result.getD "ruleId" (.str "unknown")
      let rule := (entries.lookup (← ruleId.asKey)).getD (.obj [])
      let description ← getAlong (.str []) ["message", "text"] result
      let category ← getAlong (.arr []) ["properties", "tags"] rule
      let location ← locationOf result
      let metadata ← rule.getD "properties" (.obj [])
      return .obj [("rule_id", ruleId), ("description", description), ("category", category),
        ("location", location), ("rule_metadata", metadata)]) := by
  simp only [summarize, getAlong, bind_assoc]

/-- A result is summarized unless its list of locations is empty. -/
theorem summarize_of_isResult
    (hRules : ∀ entry ∈ rules, entry.1.isText = true ∧ isRule entry.2 = true)
    (h : isResult result = true) :
    summarize (setEntries rules []) result =
      if hasEmptyLocations result then .error .listIndexRange
      else .ok (findingOn rules result) := by
  have hParts := h
  rw [isResult, Bool.and_eq_true, Bool.and_eq_true] at hParts
  have hMessage := hParts.1.1
  have hKey : ((result.member? "ruleId").getD (.str "unknown")).asKey = .ok _ :=
    isKey_of_isText (isText_ruleId h)
  have hRule := ruleFor_allows hRules result
  rw [summarize_eq, getD_of_isObject (isObject_of_allows hMessage)]
  simp only [bind, Except.bind, hKey, lookup_rules hRules h,
    getAlong_of_allows (List.cons_ne_nil _ _) hMessage,
    getAlong_of_allows (List.cons_ne_nil _ _) hRule, locationOf_of_isResult h,
    getD_of_isObject (isObject_of_allows hRule)]
  cases hasEmptyLocations result <;> rfl

/-- The results of a run are summarized in order, unless one has an empty list of locations. -/
theorem summariesOfRun_of_isRun (h : isRun run = true) :
    summariesOfRun run =
      if (run.itemsOf "results").any hasEmptyLocations then .error .listIndexRange
      else .ok ((run.itemsOf "results").map (findingOn (rulesIn run))) := by
  have hParts := h
  rw [isRun, Bool.and_eq_true, Bool.and_eq_true] at hParts
  have hObject := isObject_of_allows hParts.1.1
  obtain ⟨hRules, hEach⟩ := rulesOf_of_isRun h
  obtain ⟨hElements, hResults⟩ := elements_of_hasOptional hObject hParts.2
  rw [getD_of_isObject hObject] at hElements
  have hLoop := mapM_eq_ite fun result hResult =>
    summarize_of_isResult hEach (hResults result hResult)
  rw [← hLoop, summariesOfRun, getD_of_isObject hObject, hRules]
  simp only [bind, Except.bind] at hElements ⊢
  rw [hElements]

/-- There are summaries of a document, one for each result, unless a result has an empty array of
locations. -/
theorem summaries_of_isSarif (h : isSarif sarif = true) :
    summaries sarif =
      if (resultsOf sarif).any hasEmptyLocations then .error .listIndexRange
      else .ok (findingsOn sarif) := by
  rw [isSarif, Bool.and_eq_true] at h
  obtain ⟨hElements, hRuns⟩ := elements_of_hasOptional h.1 h.2
  have hLoop := mapM_eq_ite fun run hRun => summariesOfRun_of_isRun (hRuns run hRun)
  rw [summaries, ← bind_assoc, hElements, resultsOf, List.any_flatMap]
  simp only [bind, Except.bind] at hLoop ⊢
  rw [hLoop]
  cases (sarif.itemsOf "runs").any fun run => (run.itemsOf "results").any hasEmptyLocations <;> rfl

/-- A summary tells of a result which rule it is of, what it says and in which file. -/
structure Describes (result finding : Json) : Prop where
  ruleId : finding.member? "rule_id" = some ((result.member? "ruleId").getD (.str "unknown"))
  description : finding.member? "description" =
    some ((result.follow? ["message", "text"]).getD (.str []))
  location : finding.member? "location" = some (locationName result)

/-- There is one finding for each result, in the same order. -/
theorem findingsOn_describes (sarif : Json) :
    (resultsOf sarif).Forall₂ Describes (findingsOn sarif) := by
  rw [resultsOf, findingsOn]
  induction sarif.itemsOf "runs" with
  | nil => exact .nil
  | cons run runs ih =>
      rw [List.flatMap_cons, List.flatMap_cons]
      refine List.rel_append ?_ ih
      rw [List.forall₂_map_right_iff, List.forall₂_same]
      exact fun result _ => ⟨rfl, rfl, rfl⟩

end RepoAudit.Triage
