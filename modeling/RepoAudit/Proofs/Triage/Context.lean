import RepoAudit.Proofs.Json.Documents
import RepoAudit.Proofs.Triage.Review

/-!
The context that is given to a model. Main statement: for a document whose parts are of the types of
SARIF, the context is a list with one finding for each result, and what a finding says on its rule
comes from the last rule with its id in the run of the result.
-/
namespace RepoAudit.Triage

open Json

/-- The results of a document with their runs, in the order of the document. -/
def resultsInRuns (sarif : Json) : List (Json × Json) :=
  (sarif.itemsOf "runs").flatMap fun run => (run.itemsOf "results").map fun result => (run, result)

def rulesOfRun (run : Json) : List Json :=
  match run.follow? ["tool", "driver", "rules"] with
  | some (.arr rules) => rules
  | _ => []

def ruleIdOf (result : Json) : Json := (result.member? "ruleId").getD (.str "unknown")

/-- What a finding says on the rule with an id comes from the last rule of a run with this id, or it
is nothing if there is none. -/
inductive OfLastRule (run id finding : Json) : Prop
  | rule {before after : List Json} {rule : Json}
      (hRules : rulesOfRun run = before ++ rule :: after) (hId : rule.member? "id" = some id)
      (hLast : ∀ later ∈ after, later.member? "id" ≠ some id)
      (hCategory : finding.member? "category" =
        some ((rule.follow? ["properties", "tags"]).getD (.arr [])))
      (hMetadata : finding.member? "rule_metadata" =
        some ((rule.member? "properties").getD (.obj [])))
  | none (hNone : ∀ rule ∈ rulesOfRun run, rule.member? "id" ≠ some id)
      (hCategory : finding.member? "category" = some (.arr []))
      (hMetadata : finding.member? "rule_metadata" = some (.obj []))

/-- A finding summarizes a result of a run. -/
structure Summarizes (run result finding : Json) : Prop where
  describes : Describes result finding
  rule : OfLastRule run (ruleIdOf result) finding

variable {sarif run result rule : Json}

theorem lookup_map_key {κ α : Type} [BEq κ] (key : α → κ) (as : List α) (asked : κ) :
    (as.map fun a => (key a, a)).lookup asked = as.find? fun a => asked == key a := by
  induction as with
  | nil => rfl
  | cons a as ih => rw [List.map_cons, List.lookup_cons, List.find?_cons, ih]

theorem rulesIn_eq (run : Json) :
    rulesIn run = (rulesOfRun run).map fun rule => ((rule.member? "id").getD .null, rule) := by
  unfold rulesIn rulesOfRun
  cases run.follow? ["tool", "driver", "rules"] with
  | none => rfl
  | some found => cases found <;> rfl

/-- The rule of a result is the last one that has its id. -/
theorem ruleFor_rulesIn (run result : Json) : ruleFor (rulesIn run) result =
    ((rulesOfRun run).reverse.find? fun rule =>
      ruleIdOf result == (rule.member? "id").getD .null).getD (.obj []) := by
  rw [ruleFor, rulesIn_eq, ← List.map_reverse, lookup_map_key, ruleIdOf]

theorem isRule_of_mem (hRun : isRun run = true) (h : rule ∈ rulesOfRun run) :
    isRule rule = true := by
  have hEntry : ((rule.member? "id").getD .null, rule) ∈ rulesIn run := by
    rw [rulesIn_eq]
    exact List.mem_map.2 ⟨rule, h, rfl⟩
  exact ((rulesOf_of_isRun hRun).2 _ hEntry).2

/-- Ids are compared as texts. -/
theorem beq_id_iff (hResult : isResult result = true) (hRule : isRule rule = true) :
    (ruleIdOf result == (rule.member? "id").getD .null) = true ↔
      rule.member? "id" = some (ruleIdOf result) := by
  obtain ⟨asked, hAsked⟩ := isText_iff.1 (isText_ruleId hResult)
  obtain ⟨members, t, rfl, hId⟩ := exists_id hRule
  have hMember : (Json.obj members).member? "id" = some (.str t) := hId
  rw [ruleIdOf, hAsked, hMember, Option.getD_some, Option.some.injEq]
  constructor
  · exact fun hSame => eq_of_str_beq hSame
  · rintro ⟨⟩
    exact beq_self rfl

theorem category_findingOn (rules : List (Json × Json)) (result : Json) :
    (findingOn rules result).member? "category" =
      some (((ruleFor rules result).follow? ["properties", "tags"]).getD (.arr [])) := rfl

theorem metadata_findingOn (rules : List (Json × Json)) (result : Json) :
    (findingOn rules result).member? "rule_metadata" =
      some (((ruleFor rules result).member? "properties").getD (.obj [])) := rfl

/-- What a finding says on its rule comes from the last one with its id. The first match from the
end has no match behind it. -/
theorem ofLastRule_findingOn (hRun : isRun run = true) (hResult : isResult result = true) :
    OfLastRule run (ruleIdOf result) (findingOn (rulesIn run) result) := by
  have hIff {rule : Json} (hRule : rule ∈ rulesOfRun run) :=
    beq_id_iff hResult (isRule_of_mem hRun hRule)
  have hFor := ruleFor_rulesIn run result
  cases hFound : (rulesOfRun run).reverse.find? fun rule =>
      ruleIdOf result == (rule.member? "id").getD .null with
  | none =>
      rw [hFound, Option.getD_none] at hFor
      refine .none (fun rule hRule hId => ?_) ?_ ?_
      · exact List.find?_eq_none.1 hFound rule (List.mem_reverse.2 hRule) ((hIff hRule).2 hId)
      · rw [category_findingOn, hFor]
        rfl
      · rw [metadata_findingOn, hFor]
        rfl
  | some rule =>
      rw [hFound, Option.getD_some] at hFor
      obtain ⟨hId, front, back, hSplit, hFront⟩ := List.find?_eq_some_iff_append.1 hFound
      have hRules : rulesOfRun run = back.reverse ++ rule :: front.reverse := by
        rw [← List.reverse_reverse (rulesOfRun run), hSplit]
        simp
      refine .rule hRules ((hIff (by simp [hRules])).1 hId) (fun later hLater hSame => ?_) ?_ ?_
      · have hOther := hFront later (List.mem_reverse.1 hLater)
        rw [(hIff (by simp [hRules, List.mem_reverse.1 hLater])).2 hSame] at hOther
        cases hOther
      · rw [category_findingOn, hFor]
      · rw [metadata_findingOn, hFor]

/-- The findings on a document are one for each result, in the order of the document. -/
theorem forall₂_findingsOn (h : isSarif sarif = true) :
    (resultsInRuns sarif).Forall₂ (fun (run, result) finding => Summarizes run result finding)
      (findingsOn sarif) := by
  rw [isSarif, Bool.and_eq_true] at h
  obtain ⟨-, hRuns⟩ := elements_of_hasOptional h.1 h.2
  rw [resultsInRuns, findingsOn]
  generalize sarif.itemsOf "runs" = runs at hRuns
  induction runs with
  | nil => exact .nil
  | cons run runs ih =>
      obtain ⟨hRun, hLater⟩ := List.forall_mem_cons.1 hRuns
      have hParts := hRun
      rw [isRun, Bool.and_eq_true, Bool.and_eq_true] at hParts
      obtain ⟨-, hResults⟩ := elements_of_hasOptional (isObject_of_allows hParts.1.1) hParts.2
      rw [List.flatMap_cons, List.flatMap_cons]
      refine List.rel_append ?_ (ih hLater)
      rw [List.forall₂_map_left_iff, List.forall₂_map_right_iff, List.forall₂_same]
      exact fun result hResult =>
        ⟨⟨rfl, rfl, rfl⟩, ofLastRule_findingOn hRun (hResults result hResult)⟩

section Legible

/-- The rule of a result is legible if the run is. -/
theorem legible_ruleFor (h : run.Legible) (result : Json) :
    (ruleFor (rulesIn run) result).Legible := by
  rw [ruleFor_rulesIn]
  refine .getD (fun rule hFound => ?_) (by simp)
  have hRule := List.mem_reverse.1 (List.mem_of_find?_eq_some hFound)
  unfold rulesOfRun at hRule
  split at hRule
  · next hRules => exact legible_arr_iff.1 (h.follow? hRules) rule hRule
  · cases hRule

theorem legible_locationName (h : result.Legible) : (locationName result).Legible := by
  have hUnknown : (Json.str "unknown").Legible := by simp
  unfold locationName
  split
  · exact hUnknown
  · next location others hLocations =>
      have hLocation : location.Legible := h.itemsOf (hLocations ▸ List.mem_cons_self)
      exact .getD (fun part => hLocation.follow?) hUnknown

/-- The summary of a result is legible if the run and the result are. -/
theorem legible_findingOn (hRun : run.Legible) (hResult : result.Legible) :
    (findingOn (rulesIn run) result).Legible := by
  have hRule := legible_ruleFor hRun result
  refine legible_obj_iff.2 ⟨?_, ?_⟩
  · simp only [List.map_cons, List.map_nil]
    decide
  · simp only [List.forall_mem_cons, unpaired_ofString, true_and]
    exact ⟨.getD (fun part => hResult.member?) (by simp),
      .getD (fun part => hResult.follow?) (.str (unpaired_ofChars [])),
      .getD (fun part => hRule.follow?) (by simp), legible_locationName hResult,
      .getD (fun part => hRule.member?) (by simp), by simp⟩

/-- The findings on a legible document are legible. -/
theorem legible_findingsOn (h : sarif.Legible) : (Json.arr (findingsOn sarif)).Legible := by
  refine .arr fun finding hFinding => ?_
  obtain ⟨run, hRun, hResults⟩ := List.mem_flatMap.1 hFinding
  obtain ⟨result, hResult, rfl⟩ := List.mem_map.1 hResults
  exact legible_findingOn (h.itemsOf hRun) ((h.itemsOf hRun).itemsOf hResult)

end Legible

/-- For a document whose parts are of the types of SARIF and that has no empty array of locations,
the context is a list with one finding for each result, in the order of the document. Each finding
tells of its result which rule it is of, what it says and in which file, and of the last rule with
this id in the same run its tags and its properties. The context of a legible document can be read,
and the list comes back. -/
theorem vulnerabilityContext_summarizes (sarif : Json) (hSarif : isSarif sarif = true)
    (hLocations : ∀ result ∈ resultsOf sarif, hasEmptyLocations result = false) :
    ∃ findings, vulnerabilityContext sarif = .ok (Json.arr findings).pretty ∧
      (sarif.Legible → Json.read (Json.arr findings).pretty = .ok (.arr findings)) ∧
      (resultsInRuns sarif).Forall₂ (fun (run, result) finding => Summarizes run result finding)
        findings := by
  have hNone : (resultsOf sarif).any hasEmptyLocations = false := by
    rw [List.any_eq_false]
    exact fun result hResult => by simp [hLocations result hResult]
  refine ⟨findingsOn sarif, ?_, fun hLegible => (legible_findingsOn hLegible).read_pretty,
    forall₂_findingsOn hSarif⟩
  rw [vulnerabilityContext_of_isSarif hSarif, hNone]
  rfl

/-- A run with two rules of the id that stands for a missing one, and a result without an id. -/
def repeatedRule : Json := .obj [
  ("tool", .obj [("driver", .obj [("rules", .arr [
    .obj [("id", .str "unknown"), ("properties", .obj [("tags", .arr [.str "old"])])],
    .obj [("id", .str "unknown"), ("properties", .obj [("tags", .arr [.str "new"])])]])])]),
  ("results", .arr [.obj []])]

def twoRuns : Json := .obj [("runs", .arr [repeatedRule,
  .obj [("results", .arr [.obj [("message", .obj [("text", .str "text")])]])]])]

theorem legible_twoRuns : twoRuns.Legible := by
  have hNames : [Text.ofString "tool", "results"].Nodup ∧
      [Text.ofString "id", "properties"].Nodup := by decide
  simpa [twoRuns, repeatedRule] using hNames

/-- The context of the two runs comes back as two findings, and the first has the tags of the later
rule. -/
theorem vulnerabilityContext_summarizes_twoRuns :
    ∃ first second, vulnerabilityContext twoRuns = .ok (Json.arr [first, second]).pretty ∧
      Json.read (Json.arr [first, second]).pretty = .ok (.arr [first, second]) ∧
      first.member? "category" = some (.arr [.str "new"]) := by
  obtain ⟨findings, hContext, hRead, hEach⟩ :=
    vulnerabilityContext_summarizes twoRuns (by decide) (by decide)
  have hResults : resultsInRuns twoRuns = [(repeatedRule, .obj []), _] := rfl
  rw [hResults] at hEach
  obtain ⟨first, rest, hFirst, hRest, rfl⟩ := List.forall₂_cons_left_iff.1 hEach
  obtain ⟨second, rest, -, hNil, rfl⟩ := List.forall₂_cons_left_iff.1 hRest
  cases List.forall₂_nil_left_iff.1 hNil
  refine ⟨first, second, hContext, hRead legible_twoRuns, ?_⟩
  cases hFirst.rule with
  | none hNone => exact absurd rfl (hNone _ List.mem_cons_self)
  | @rule before after rule hRules hId hLast hCategory =>
      have hSplit : _ :: [_] = before ++ rule :: after := hRules
      rcases List.cons_eq_append_iff.1 hSplit with ⟨rfl, hSame⟩ | ⟨front, rfl, hSame⟩
      · cases hSame
        exact absurd rfl (hLast _ List.mem_cons_self)
      · rcases List.cons_eq_append_iff.1 hSame with ⟨rfl, hNew⟩ | ⟨more, rfl, hNew⟩
        · cases hNew
          exact hCategory
        · simp at hNew

end RepoAudit.Triage
