import RepoAudit.Proofs.Json.Arithmetic
import RepoAudit.Proofs.Json.Keys
import RepoAudit.Proofs.Json.Shape
import RepoAudit.Proofs.Slice
import RepoAudit.Proofs.Step
import RepoAudit.Triage.FalsePositive

/-!
Scores for false alarms. Main statements: findings are scored exactly if a search found similar code
for each of them and each has a rule to be scored under, and one finding that lacks either keeps all
others from their scores. The code around a finding has its region in it, five lines behind the
region and no more than four in front of it.
-/
namespace RepoAudit.Triage.FalsePositive

open Json

/-- Which patterns stand in a node. -/
structure Patterns where
  inputValidation : Bool
  sanitizerCalls : Bool
  frameworkProtection : Bool
  directUse : Bool
  missingValidation : Bool
  weakSanitization : Bool

def Patterns.json (p : Patterns) : Json := .obj [
  ("validation_patterns", .obj [("input_validation", .bool p.inputValidation),
    ("sanitizer_calls", .bool p.sanitizerCalls),
    ("framework_protection", .bool p.frameworkProtection)]),
  ("unsafe_patterns", .obj [("direct_use", .bool p.directUse),
    ("missing_validation", .bool p.missingValidation),
    ("weak_sanitization", .bool p.weakSanitization)])]

/-- Code that a search found, and whether it is safe. -/
structure SimilarCode where
  code : Json
  safe : Bool

def SimilarCode.json (s : SimilarCode) : Json :=
  .obj [("code", s.code), ("safety_analysis", .obj [("is_safe", .bool s.safe)])]

/-- What an analysis finds out about a result. A search may find any number of pieces of code. -/
structure Assessment where
  result : Json
  patterns : Patterns
  similar : List SimilarCode
  effectiveness : Float

namespace Assessment

def finding (a : Assessment) : Json := .obj [
  ("result", a.result), ("ast_patterns", a.patterns.json),
  ("similar_patterns", .arr (a.similar.map SimilarCode.json)),
  ("sanitizer_analysis", .obj [("framework_sanitizers", .arr []), ("custom_sanitizers", .arr []),
    ("sanitizer_effectiveness", .float a.effectiveness)])]

/-- What keeps a finding from being scored. That there is no similar code is noticed before its rule
is asked for. -/
def obstacle (a : Assessment) : Option Fault :=
  if a.similar.isEmpty then some .divisionByZero
  else match a.result.field "ruleId" >>= asKey with
    | .ok _ => none
    | .error fault => some fault

variable {a : Assessment}

/-- An assessment goes through if there is similar code and the id of a rule. -/
theorem obstacle_eq_none_iff : a.obstacle = none ↔
    a.similar ≠ [] ∧ ∃ rule, a.result.member? "ruleId" = some rule ∧ rule.IsKey := by
  have hRule : (∃ key, a.result.field "ruleId" >>= asKey = .ok key) ↔
      ∃ rule, a.result.member? "ruleId" = some rule ∧ rule.IsKey := by
    simp [exists_bind_eq_ok_iff, field_eq_ok_iff, asKey_eq_ok_iff]
  rw [obstacle, ← hRule]
  cases a.similar <;> cases a.result.field "ruleId" >>= asKey <;> simp

theorem likelihood_of_nil (h : a.similar = []) :
    likelihood a.finding = .error .divisionByZero := by
  have hFinding : a.finding = finding { a with similar := [] } := by rw [finding, h]; rfl
  rw [hFinding]
  rfl

/-- With similar code there is always a likelihood. Every mark is where it is looked for, so nothing
but the division could fail. -/
theorem exists_likelihood (h : a.similar ≠ []) : ∃ score, likelihood a.finding = .ok score := by
  have hSafe : (a.similar.map SimilarCode.json).mapM
      (fun p => deepFlag p "safety_analysis" "is_safe") = .ok (a.similar.map SimilarCode.safe) := by
    rw [mapM_eq_ok_iff, List.forall₂_map_left_iff, List.forall₂_map_right_iff, List.forall₂_same]
    exact fun pattern _ => rfl
  have hSome : ¬((a.similar.map SimilarCode.json).isEmpty = true) := by simpa using h
  unfold likelihood
  refine exists_bind_ok (a := a.patterns.inputValidation) rfl ?_
  refine exists_bind_ok (a := a.patterns.sanitizerCalls) rfl ?_
  refine exists_bind_ok (a := a.patterns.frameworkProtection) rfl ?_
  refine exists_bind_ok (a := a.patterns.directUse) rfl ?_
  refine exists_bind_ok (a := a.patterns.missingValidation) rfl ?_
  refine exists_bind_ok rfl (exists_bind_ok rfl (exists_bind_ok hSafe ?_))
  rw [if_neg hSome]
  exact exists_bind_ok rfl (exists_bind_ok rfl (exists_bind_ok rfl ⟨_, rfl⟩))

/-- A score is added unless there is an obstacle, which is then the fault. -/
theorem endsBy_addScore (scores : List (Json × Float)) (a : Assessment) :
    EndsBy (addScore scores a.finding) a.obstacle := by
  have hResult : a.finding.field "result" = .ok a.result := rfl
  unfold addScore obstacle
  by_cases hNone : a.similar = []
  · rw [likelihood_of_nil hNone, hNone]
    rfl
  · obtain ⟨score, hScore⟩ := exists_likelihood hNone
    have hSome : ¬(a.similar.isEmpty = true) := by simpa using hNone
    rw [hScore, if_neg hSome]
    simp only [bind, Except.bind, hResult]
    cases a.result.field "ruleId" with
    | error fault => rfl
    | ok rule => cases hKey : rule.asKey <;> simp [hKey, EndsBy, pure_eq_ok_iff]

/-- The first finding that cannot be scored keeps all others from their scores. -/
theorem endsBy_scoreAll (assessments : List Assessment) :
    EndsBy (scoreAll (.arr (assessments.map finding))) (assessments.findSome? obstacle) := by
  have hLoop : scoreAll (.arr (assessments.map finding)) =
      assessments.foldlM (fun scores a => addScore scores a.finding) [] := List.foldlM_map
  rw [hLoop]
  exact endsBy_foldlM endsBy_addScore [] assessments

end Assessment

/-- What is found in a node has the members of patterns. -/
theorem exists_patterns {search : CallSearch} {node patterns : Json}
    (h : nodePatterns search node = .ok patterns) : ∃ p : Patterns, p.json = patterns := by
  obtain ⟨validation, -, h⟩ := bind_eq_ok_iff.1 h
  obtain ⟨sanitizers, -, h⟩ := bind_eq_ok_iff.1 h
  rw [← pure_eq_ok_iff.1 h]
  exact ⟨⟨validation, sanitizers, frameworkProtection node, directUse node,
    missingValidation node, weakSanitization node⟩, rfl⟩

/-- A finding that an analysis makes is written down as an assessment is, with the similar code that
was found. -/
theorem analyze_assesses (c : Codebase) (result : Json) (asked : List Question) :
    (analyze c result).Leads asked fun outcome _ => ∀ finding, outcome = .ok finding →
      ∃ a : Assessment, a.finding = finding ∧ a.result = result ∧
        a.similar = (c.similar.take similarLimit).map fun code => ⟨code, true⟩ := by
  unfold analyze
  refine Step.leads_attempt_ok fun location _ => ?_
  refine Step.leads_attempt_ok fun file _ => ?_
  refine Step.leads_attempt_ok fun region _ => ?_
  refine Step.leads_attempt_ok fun lines _ => ?_
  refine Step.leads_attempt_ok fun line _ => Step.leads_modify ?_
  refine Step.leads_attempt_ok fun patterns hPatterns => ?_
  refine Step.leads_attempt_ok fun text _ => Step.leads_modify ?_
  refine Step.leads_modify ?_
  obtain ⟨p, rfl⟩ := exists_patterns hPatterns
  intro finding hFinding
  obtain rfl := Except.ok.inj hFinding
  refine ⟨⟨result, p, _, 0.5⟩, ?_, rfl, rfl⟩
  rw [Assessment.finding, List.map_map]
  rfl

/-- Findings are scored if and only if a search found similar code for each of them and each result
has a rule that can be a key. The first finding that lacks either is the fault of all, and it is a
division by zero if there is no similar code. Findings as an analysis makes them are such findings,
with whatever a search found. -/
theorem scoreAll_needs_similar (assessments : List Assessment) :
    ((∃ scores, scoreAll (.arr (assessments.map Assessment.finding)) = .ok scores) ↔
      ∀ a ∈ assessments, a.similar ≠ [] ∧
        ∃ rule, a.result.member? "ruleId" = some rule ∧ rule.IsKey) ∧
    (∀ fault, scoreAll (.arr (assessments.map Assessment.finding)) = .error fault ↔
      assessments.findSome? Assessment.obstacle = some fault) ∧
    ∀ (c : Codebase) (result finding : Json) (asked after : List Question),
      (analyze c result).perform asked = (.ok finding, after) →
      ∃ a : Assessment, a.finding = finding ∧ a.result = result ∧
        a.similar = (c.similar.take similarLimit).map fun code => ⟨code, true⟩ := by
  have hEnd := Assessment.endsBy_scoreAll assessments
  refine ⟨?_, fun fault => hEnd.eq_error_iff, fun c result finding asked after hMade => ?_⟩
  · rw [hEnd.exists_ok_iff, List.findSome?_eq_none_iff]
    simp only [Assessment.obstacle_eq_none_iff]
  · have hAnalyzed := analyze_assesses c result asked
    rw [Step.Leads, hMade] at hAnalyzed
    exact hAnalyzed finding rfl

/-- A code base with a file of one line, in which a search finds nothing. -/
def lonelyCode : Codebase where
  files := [("a.py", [.str "eval(x)"])]
  node := .obj []
  calls := some fun _ names => .ok (names.map fun _ => false)
  similar := []

/-- A result about the line. -/
def lonelyResult : Json := .obj [("ruleId", .str "eval"), ("locations", .arr [.obj [
  ("physicalLocation", .obj [("artifactLocation", .obj [("uri", .str "a.py")]),
    ("region", .obj [("startLine", .int 1), ("endLine", .int 1)])])]])]

/-- An assessment for which similar code was found. -/
def scoredAssessment : Assessment :=
  ⟨.obj [("ruleId", .str "query")], ⟨true, false, false, false, false, false⟩,
    [⟨.str "query(x)", true⟩], 0.5⟩

/-- The finding on the line cannot be scored, and the score of another finding is lost with it. -/
theorem scoreAll_needs_similar_lonely :
    ∃ finding after, (analyze lonelyCode lonelyResult).perform [] = (.ok finding, after) ∧
      (∃ scores, scoreAll (.arr [scoredAssessment.finding]) = .ok scores) ∧
      scoreAll (.arr [scoredAssessment.finding, finding]) = .error .divisionByZero := by
  obtain ⟨finding, after, hMade⟩ : ∃ finding after,
      (analyze lonelyCode lonelyResult).perform [] = (.ok finding, after) := ⟨_, _, rfl⟩
  obtain ⟨hScored, -, hAssessed⟩ := scoreAll_needs_similar [scoredAssessment]
  obtain ⟨a, rfl, -, hNone⟩ := hAssessed lonelyCode lonelyResult finding [] after hMade
  have hObstacle : a.obstacle = some .divisionByZero := by
    rw [Assessment.obstacle, hNone]
    rfl
  refine ⟨a.finding, after, hMade, hScored.2 ?_, ?_⟩
  · simp only [List.forall_mem_singleton]
    exact ⟨List.cons_ne_nil _ _, .str "query", rfl, rfl⟩
  · have hFirst : scoredAssessment.obstacle = none := rfl
    refine ((scoreAll_needs_similar [scoredAssessment, a]).2.1 _).2 ?_
    simp [List.findSome?, hFirst, hObstacle]

section ContextLines

/-- A block of lines of a file stands around the lines from `first` to `last`, which are counted
from one. There are `before` lines in front of them and `after` lines behind them. -/
inductive Surrounds (first last before after : Nat) : List Json → List Json → Prop
  | around {skipped front inside back rest : List Json}
    (hFirst : skipped.length + front.length + 1 = first)
    (hLast : skipped.length + front.length + inside.length = last)
    (hBefore : front.length = before) (hAfter : back.length = after) :
    Surrounds first last before after (skipped ++ (front ++ inside ++ back) ++ rest)
      (front ++ inside ++ back)

variable {lines block : List Json} {region : Json} {first last before after : Nat}

/-- How many lines stand around a finding. -/
theorem Surrounds.length_block (h : Surrounds first last before after lines block) :
    block.length + first = before + after + last + 1 := by
  cases h with
  | around hFirst hLast hBefore hAfter =>
      simp only [List.length_append]
      omega

theorem exists_cut (items : List Json) {count : Nat} (h : count ≤ items.length) :
    ∃ front back, items = front ++ back ∧ front.length = count :=
  ⟨items.take count, items.drop count, (List.take_append_drop count items).symm,
    List.length_take_of_le h⟩

/-- The part of a file that reaches from some lines in front of a region to some lines behind it.
The file is cut at the ends of the part and at the ends of the region. -/
theorem surrounds_slice (hFirst : before < first) (hOrder : first ≤ last)
    (hLast : last + after ≤ lines.length) :
    Surrounds first last before after lines
      (slice lines ((first - 1 - before : Nat) : Int) ((last + after : Nat) : Int)) := by
  obtain ⟨skipped, lines, rfl, hSkipped⟩ := exists_cut lines
    (show first - 1 - before ≤ lines.length by omega)
  rw [List.length_append] at hLast
  obtain ⟨front, lines, rfl, hFront⟩ := exists_cut lines
    (show before ≤ lines.length by omega)
  rw [List.length_append] at hLast
  obtain ⟨inside, lines, rfl, hInside⟩ := exists_cut lines
    (show last + 1 - first ≤ lines.length by omega)
  rw [List.length_append] at hLast
  obtain ⟨back, rest, rfl, hBack⟩ := exists_cut lines
    (show after ≤ lines.length by omega)
  have hParts : skipped ++ (front ++ (inside ++ (back ++ rest))) =
      skipped ++ (front ++ inside ++ back) ++ rest := by simp
  have hLength : skipped.length + (front ++ inside ++ back).length = last + after := by
    simp only [List.length_append]
    omega
  rw [hParts, slice_append hSkipped hLength]
  exact .around (by omega) (by omega) hFront hBack

/-- The lines around a region as they are cut out of a file. -/
theorem contextLines_eq_slice (hStart : region.member? "startLine" = some (.int first))
    (hStop : region.member? "endLine" = some (.int last)) (lines : List Json) :
    contextLines lines region =
      .ok (slice lines ((first - 5 : Nat) : Int) ((min lines.length (last + 5) : Nat) : Int)) := by
  have hFirst : (Json.int first).subtract margin = .ok (.int (first - 5)) := rfl
  have hLast : (Json.int last).add margin = .ok (.int (last + 5)) := rfl
  have hLow : (if (0 : Int) < first - 5 then Json.int (first - 5) else .int 0) =
      .int ((first - 5 : Nat) : Int) := by
    split
    · congr 1
      omega
    · congr 1
      omega
  have hHigh : (if (last : Int) + 5 < lines.length then Json.int (last + 5)
      else .int lines.length) = .int ((min lines.length (last + 5) : Nat) : Int) := by
    split
    · congr 1
      omega
    · congr 1
      omega
  simp only [contextLines, field_eq_ok_iff.2 hStart, field_eq_ok_iff.2 hStop, bind, Except.bind,
    hFirst, hLast, exceeds_int, decide_eq_true_eq, hLow, hHigh]
  rfl

/-- The context of a region is the part of the file with the region in it, five lines behind it and
no more than four lines in front of it. So one line is missing in front of every region that begins
after the fifth line. -/
theorem contextLines_four_before (lines : List Json) (region : Json) (first last : Nat)
    (hStart : region.member? "startLine" = some (.int first))
    (hStop : region.member? "endLine" = some (.int last)) (hFirst : 1 ≤ first)
    (hOrder : first ≤ last) (hLast : last ≤ lines.length) :
    ∃ block, contextLines lines region = .ok block ∧
      Surrounds first last (min 4 (first - 1)) (min 5 (lines.length - last)) lines block ∧
      (Surrounds first last (min 5 (first - 1)) (min 5 (lines.length - last)) lines block ↔
        first ≤ 5) := by
  have hBlock : Surrounds first last (min 4 (first - 1)) (min 5 (lines.length - last)) lines
      (slice lines ((first - 5 : Nat) : Int) ((min lines.length (last + 5) : Nat) : Int)) := by
    have hLow : first - 1 - min 4 (first - 1) = first - 5 := by omega
    have hHigh : last + min 5 (lines.length - last) = min lines.length (last + 5) := by omega
    rw [← hLow, ← hHigh]
    exact surrounds_slice (by omega) hOrder (by omega)
  refine ⟨_, contextLines_eq_slice hStart hStop lines, hBlock, fun hFive => ?_, fun hEarly => ?_⟩
  · have hFour := hBlock.length_block
    rw [hFive.length_block] at hFour
    omega
  · have hSame : min 5 (first - 1) = min 4 (first - 1) := by omega
    rw [hSame]
    exact hBlock

/-- Seven lines, and a region that is the sixth of them. -/
def sevenLines : List Json := (List.range 7).map fun n => .int n

def sixthLine : Json := .obj [("startLine", .int 6), ("endLine", .int 6)]

/-- The first of seven lines is missing in the context of the sixth. -/
theorem contextLines_four_before_sixth :
    ∃ block, contextLines sevenLines sixthLine = .ok block ∧
      Surrounds 6 6 4 1 sevenLines block ∧ ¬Surrounds 6 6 5 1 sevenLines block := by
  obtain ⟨block, hBlock, hFour, hFive⟩ := contextLines_four_before sevenLines sixthLine 6 6 rfl rfl
    (by decide) (by decide) (by decide)
  exact ⟨block, hBlock, hFour, mt hFive.1 (by decide)⟩

end ContextLines

end RepoAudit.Triage.FalsePositive
