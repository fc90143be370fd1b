import RepoAudit.Proofs.Json.Shape
import RepoAudit.Proofs.Step
import RepoAudit.Report.Finding

/-!
Findings from the results of a tool, for a report and for storage. Main statement: a list of results
is reported if each of them can be stored, the reported findings agree with the stored ones, and
what keeps them from being reported is what keeps the first of them from being stored.
-/
namespace RepoAudit

/-- A finding in a report and its stored form tell the same. -/
structure Finding.Agrees (finding : Finding) (stored : StoredFinding) : Prop where
  vulnerabilityType : finding.vulnerabilityType = stored.vulnerabilityType
  severity : finding.severity = .rated stored.severity
  affectedPackage : finding.affectedPackage = stored.affectedPackage
  codeSnippet : finding.codeSnippet = stored.codeSnippet
  filePath : finding.filePath = stored.filePath
  lineNumber : finding.lineNumber = stored.lineNumber
  description : finding.description = stored.description

/-- A stored finding tells what a result of a tool tells. A word for the severity counts in any case
of letters, and without one the severity is medium. -/
structure StoredFinding.Records (stored : StoredFinding) (tool result : Json) : Prop where
  vulnerabilityType : stored.vulnerabilityType = (result.member? "type").getD .null
  severity : ∃ word, (result.member? "severity").getD (.str "MEDIUM") = .str word ∧
    word.upper = stored.severity.word
  affectedPackage : stored.affectedPackage = (result.member? "package").getD .null
  codeSnippet : stored.codeSnippet = (result.member? "code").getD .null
  filePath : stored.filePath = (result.member? "file").getD .null
  lineNumber : stored.lineNumber = (result.member? "line").getD .null
  description : stored.description = (result.member? "description").getD .null
  sourceTool : stored.sourceTool = tool
  fingerprint : stored.fingerprint = none

variable {tool result : Json} {results : List Json}

/-- A word stands for the severity that it names. -/
theorem Severity.ofWord_eq_ok_iff {w : Text} {s : Severity} : ofWord w = .ok s ↔ w = s.word := by
  constructor
  · intro h
    unfold ofWord at h
    split at h
    · next found hFound =>
        cases h
        have hWord := List.find?_some hFound
        exact (beq_iff_eq.1 hWord).symm
    · cases h
  · rintro rfl
    cases s <;> rfl

/-- The severity of a result is read in any case, and is medium by default. -/
theorem Severity.ofResult_eq_ok_iff (h : result.isObject = true) {s : Severity} :
    ofResult result = .ok s ↔ ∃ word,
      (result.member? "severity").getD (.str "MEDIUM") = .str word ∧ word.upper = s.word := by
  have hText {v : Json} {word : Text} : v.text "upper" = .ok word ↔ v = .str word := by
    cases v <;> simp [Json.text]
  rw [ofResult, Json.getD_of_isObject h]
  simp only [bind_eq_ok_iff, Except.ok.injEq, exists_eq_left', hText, ofWord_eq_ok_iff]

namespace StoredFinding

/-- The finding in a report of which a stored finding is the stored form. -/
def reported (stored : StoredFinding) : Finding :=
  ⟨stored.vulnerabilityType, .rated stored.severity, stored.affectedPackage, stored.codeSnippet,
    stored.filePath, stored.lineNumber, stored.description⟩

/-- A stored finding and its report agree. -/
theorem agrees_reported (stored : StoredFinding) : stored.reported.Agrees stored :=
  ⟨rfl, rfl, rfl, rfl, rfl, rfl, rfl⟩

/-- What is stored of an object depends on its severity alone. -/
theorem ofResult_of_isObject (tool : Json) (h : result.isObject = true) :
    ofResult tool result = (Severity.ofResult result).map fun severity =>
      ⟨(result.member? "type").getD .null, severity, (result.member? "package").getD .null,
        (result.member? "code").getD .null, (result.member? "file").getD .null,
        (result.member? "line").getD .null, (result.member? "description").getD .null, tool,
        none⟩ := by
  simp only [ofResult, Json.get, Json.getD_of_isObject h]
  cases Severity.ofResult result <;> rfl

/-- A result is stored exactly if it can be recorded. -/
theorem ofResult_eq_ok_iff (h : result.isObject = true) {stored : StoredFinding} :
    ofResult tool result = .ok stored ↔ stored.Records tool result := by
  rw [ofResult_of_isObject tool h]
  constructor
  · intro hStored
    cases hSeverity : Severity.ofResult result with
    | error fault =>
        rw [hSeverity] at hStored
        cases hStored
    | ok severity =>
        rw [hSeverity] at hStored
        cases hStored
        exact ⟨rfl, (Severity.ofResult_eq_ok_iff h).1 hSeverity, rfl, rfl, rfl, rfl, rfl, rfl, rfl⟩
  · intro hRecords
    rw [(Severity.ofResult_eq_ok_iff h).2 hRecords.severity]
    obtain ⟨hType, -, hPackage, hCode, hFile, hLine, hDescription, hTool, hPrint⟩ := hRecords
    simp only [Except.map, ← hType, ← hPackage, ← hCode, ← hFile, ← hLine, ← hDescription, ← hTool,
      ← hPrint]

end StoredFinding

/-- A result is reported as it is stored, and it is not reported for the reason for which it is not
stored. -/
theorem Finding.ofResult_eq_map (tool result : Json) :
    Finding.ofResult result = (StoredFinding.ofResult tool result).map StoredFinding.reported := by
  by_cases hObject : result.isObject = true
  · rw [StoredFinding.ofResult_of_isObject tool hObject]
    simp only [Finding.ofResult, Json.get, Json.getD_of_isObject hObject]
    cases Severity.ofResult result <;> rfl
  · simp only [Finding.ofResult, StoredFinding.ofResult, Json.get, Json.getD_eq, if_neg hObject]
    rfl

/-- A result is reported exactly if it can be stored. -/
theorem Finding.ofResult_eq_ok_iff (tool : Json) {finding : Finding} :
    Finding.ofResult result = .ok finding ↔
      ∃ stored, StoredFinding.ofResult tool result = .ok stored ∧ stored.reported = finding := by
  rw [Finding.ofResult_eq_map tool]
  cases StoredFinding.ofResult tool result <;> simp [Except.map]

/-- Both forms of a result fail alike. -/
theorem Finding.ofResult_eq_error_iff (tool : Json) {fault : Fault} :
    Finding.ofResult result = .error fault ↔ StoredFinding.ofResult tool result = .error fault := by
  rw [Finding.ofResult_eq_map tool]
  cases StoredFinding.ofResult tool result <;> simp [Except.map]

/-- The results of a tool are reported if and only if each of them can be stored. Then there is one
finding for each result, in their order, which agrees with the stored one. Otherwise the fault is
that of the first result that cannot be stored. A result is stored with what it tells, if its
severity is missing or one of the four words in any case of letters. -/
theorem Finding.ofResults_agree_with_stored (tool : Json) (results : List Json)
    (hObjects : ∀ result ∈ results, result.isObject = true) :
    ((∃ findings, Finding.ofResults (.arr results) = .ok findings) ↔
      ∀ result ∈ results, ∃ stored, StoredFinding.ofResult tool result = .ok stored) ∧
    (∀ findings, Finding.ofResults (.arr results) = .ok findings →
      results.Forall₂ (fun result finding => ∃ stored,
        StoredFinding.ofResult tool result = .ok stored ∧ finding.Agrees stored) findings) ∧
    (∀ fault, Finding.ofResults (.arr results) = .error fault →
      ∃ before result after, results = before ++ result :: after ∧
        (∀ earlier ∈ before, ∃ stored, StoredFinding.ofResult tool earlier = .ok stored) ∧
        StoredFinding.ofResult tool result = .error fault) ∧
    (∀ result ∈ results, ∀ stored : StoredFinding,
      StoredFinding.ofResult tool result = .ok stored ↔ stored.Records tool result) := by
  have hLoop : Finding.ofResults (.arr results) = results.mapM Finding.ofResult := rfl
  have hEach (result : Json) : (∃ finding, Finding.ofResult result = .ok finding) ↔
      ∃ stored, StoredFinding.ofResult tool result = .ok stored := by
    simp [Finding.ofResult_eq_ok_iff tool]
  refine ⟨?_, fun findings hFindings => ?_, fun fault hFault => ?_,
    fun result hResult stored => StoredFinding.ofResult_eq_ok_iff (hObjects result hResult)⟩
  · simp only [hLoop, exists_mapM_eq_ok_iff, hEach]
  · rw [hLoop, mapM_eq_ok_iff] at hFindings
    refine hFindings.imp fun result finding hFinding => ?_
    obtain ⟨stored, hStored, rfl⟩ := (Finding.ofResult_eq_ok_iff tool).1 hFinding
    exact ⟨stored, hStored, stored.agrees_reported⟩
  · rw [hLoop, mapM_eq_error_iff] at hFault
    simpa only [hEach, Finding.ofResult_eq_error_iff tool] using hFault

/-- A result whose severity is in mixed letters and one without a severity. -/
def ratedResults : List Json :=
  [.obj [("severity", .str "CriTical"), ("line", .int 7)], .obj [("file", .str "a.py")]]

/-- Two results are reported, and a third one whose severity is null keeps all three from it. -/
theorem Finding.ofResults_agree_with_stored_null :
    (∃ findings, Finding.ofResults (.arr ratedResults) = .ok findings) ∧
    ∀ fault, Finding.ofResults (.arr (ratedResults ++ [.obj [("severity", .null)]])) =
      .error fault → fault = .noAttribute "NoneType" "upper" := by
  have hObjects : ∀ result ∈ ratedResults ++ [.obj [("severity", .null)]],
      result.isObject = true := by decide
  have hStored : ∀ result ∈ ratedResults,
      ∃ stored, StoredFinding.ofResult .null result = .ok stored := by
    simp only [ratedResults, List.forall_mem_cons]
    exact ⟨⟨_, rfl⟩, ⟨_, rfl⟩, by simp⟩
  constructor
  · obtain ⟨hReported, -⟩ := Finding.ofResults_agree_with_stored .null ratedResults
      fun result hResult => hObjects result (List.mem_append_left _ hResult)
    exact hReported.2 hStored
  · intro fault hFault
    obtain ⟨-, -, hFirst, -⟩ := Finding.ofResults_agree_with_stored .null _ hObjects
    obtain ⟨before, result, after, hSplit, -, hError⟩ := hFirst fault hFault
    have hMember : result ∈ ratedResults ++ [.obj [("severity", .null)]] := by simp [hSplit]
    rcases List.mem_append.1 hMember with hRated | hNull
    · obtain ⟨stored, hOk⟩ := hStored result hRated
      rw [hOk] at hError
      cases hError
    · rw [List.mem_singleton.1 hNull] at hError
      cases hError
      rfl

end RepoAudit
