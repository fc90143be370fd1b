import RepoAudit.Proofs.Json.Arithmetic
import RepoAudit.Proofs.Json.Shape
import RepoAudit.Proofs.Step
import RepoAudit.Triage.Confidence

/-!
Which analyses have a confidence. Each part of an analysis is asked in its own way: the parts with
marks have to be objects, the effectiveness of sanitizers has to be a number if it is there, and the
similar code only has to be something to loop over. Main statement: exactly the values that meet
this are scored.
-/
namespace RepoAudit.Triage

open Json

/-- Whether a value tells of sanitizers. Their effectiveness may be missing. -/
def isSanitizerAnalysis (v : Json) : Bool := v.isObject && v.hasOptional "effectiveness" isNumber

/-- Whether a value is an analysis. Similar code is an array of objects, or a text or an object with
nothing in it. -/
def isAnalysis (v : Json) : Bool :=
  v.isObject && (v.member? "data_flow").any isObject && (v.member? "ast_patterns").any isObject
    && (v.member? "sanitizer_analysis").any isSanitizerAnalysis
    && (v.member? "similar_patterns").any (isLoopOver isObject)

/-- Every object has or lacks a mark. -/
theorem exists_flag_iff (v : Json) (name : Text) :
    (∃ b, flag v name = .ok b) ↔ v.isObject = true := by
  rw [flag, exists_bind_eq_ok_iff, getD_eq]
  cases v.isObject <;> simp [pure_eq_ok_iff]

/-- A missing effectiveness is zero, so it is a number, too. -/
theorem exists_effectiveness_iff (v : Json) :
    (∃ effectiveness, v.getD "effectiveness" (.int 0) = .ok effectiveness ∧
      effectiveness.isNumber = true) ↔ isSanitizerAnalysis v = true := by
  rw [getD_eq, isSanitizerAnalysis, hasOptional]
  cases v.isObject with
  | false => simp
  | true => cases hFound : v.member? "effectiveness" <;> simp [isNumber]

/-- A value has a confidence if and only if it is an analysis. -/
theorem confidence_returned_iff (analysis : Json) :
    (∃ score, confidence analysis = .ok score) ↔ isAnalysis analysis = true := by
  have hTexts (t : Text) : (Json.str t).isObject = false := rfl
  have hParts : (∃ score, confidence analysis = .ok score) ↔
      ∃ flow, analysis.member? "data_flow" = some flow ∧ flow.isObject = true ∧
      ∃ flow, analysis.member? "data_flow" = some flow ∧ flow.isObject = true ∧
      ∃ patterns, analysis.member? "ast_patterns" = some patterns ∧ patterns.isObject = true ∧
      ∃ sanitizers, analysis.member? "sanitizer_analysis" = some sanitizers ∧
        isSanitizerAnalysis sanitizers = true ∧
      ∃ similar, analysis.member? "similar_patterns" = some similar ∧
        similar.isLoopOver isObject = true := by
    simp only [confidence, exists_bind_eq_ok_iff, field_eq_ok_iff, pure_eq_ok_iff, exists_eq',
      and_true, exists_and_right, exists_flag_iff, exists_exceeds_iff, exists_effectiveness_iff,
      exists_mapM_eq_ok_iff, exists_elements_iff hTexts, ← and_assoc]
  simp only [isAnalysis, Bool.and_eq_true, Option.any_eq_true]
  constructor
  · intro h
    obtain ⟨flow, hFlow, hFlowObject, -, -, -, patterns, hPatterns, hPatternsObject, sanitizers,
      hSanitizers, hEffective, similar, hSimilar, hLoop⟩ := hParts.1 h
    exact ⟨⟨⟨⟨isObject_of_member? hFlow, flow, hFlow, hFlowObject⟩,
      patterns, hPatterns, hPatternsObject⟩, sanitizers, hSanitizers, hEffective⟩,
      similar, hSimilar, hLoop⟩
  · rintro ⟨⟨⟨⟨-, flow, hFlow, hFlowObject⟩, patterns, hPatterns, hPatternsObject⟩, sanitizers,
      hSanitizers, hEffective⟩, similar, hSimilar, hLoop⟩
    exact hParts.2 ⟨flow, hFlow, hFlowObject, flow, hFlow, hFlowObject, patterns, hPatterns,
      hPatternsObject, sanitizers, hSanitizers, hEffective, similar, hSimilar, hLoop⟩

end RepoAudit.Triage
