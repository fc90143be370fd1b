import RepoAudit.Proofs.Json.Agreement
import RepoAudit.Proofs.Text.Writable
import RepoAudit.Proofs.Triage.Sarif
import RepoAudit.Triage.Review

/-!
The review of a document by a model that answers. Main statement: the model is shown one finding for
each result of the document, and its answers are the review, unless a result has an empty array of
locations. One such result leaves no review, and nothing is asked.
-/
namespace RepoAudit.Triage

open Json

variable {disk : Disk} {path : Text} {sarif : Json}

def startLine : Text := "\n=== Starting LLM-based Vulnerability Triage ==="

/-- The line about a result without a first location. -/
def emptyLine : Text :=
  Text.ofString "Unexpected error during triage: " ++ "list index out of range"

/-- A document of the right shape gives a context unless a result has no locations in its list. -/
theorem vulnerabilityContext_of_isSarif (h : isSarif sarif = true) :
    vulnerabilityContext sarif =
      if (resultsOf sarif).any hasEmptyLocations then .error .listIndexRange
      else .ok (Json.arr (findingsOn sarif)).pretty := by
  rw [vulnerabilityContext, summaries_of_isSarif h]
  cases (resultsOf sarif).any hasEmptyLocations <;> rfl

/-- With a context and a model that answers, a review asks three questions. -/
theorem perform_reviewFile (hRead : readDocument disk path = .ok sarif) {context : Text}
    (hContext : vulnerabilityContext sarif = .ok context) (severity patterns remediation : Json)
    (replies : List (Except Fault Json)) (prompts : List Text) :
    (reviewFile disk path).perform
        ⟨.ok severity :: .ok patterns :: .ok remediation :: replies, prompts⟩ =
      (.ok ⟨severity, patterns, remediation⟩, ⟨replies, prompts ++ [severityPrompt context,
        patternPrompt context, remediationPrompt severity patterns]⟩) := by
  have hAsk (reply : Json) (replies : List (Except Fault Json)) (prompt : Text)
      (prompts : List Text) : (ask prompt).perform ⟨.ok reply :: replies, prompts⟩ =
        (.ok reply, ⟨replies, prompts ++ [prompt]⟩) := rfl
  simp only [reviewFile, review, Step.perform_bind, Step.perform_attempt, hRead, hContext, hAsk,
    Step.perform_pure, List.append_assoc, List.cons_append, List.nil_append]

/-- A context that cannot be made leaves a dialogue as it is. -/
theorem perform_reviewFile_of_fault (hRead : readDocument disk path = .ok sarif) {fault : Fault}
    (hContext : vulnerabilityContext sarif = .error fault) (d : Dialogue) :
    (reviewFile disk path).perform d = (.error fault, d) := by
  simp only [reviewFile, review, Step.perform_bind, Step.perform_attempt, hRead, hContext]

/-- If a model answers, the review of a document whose parts are of the types of SARIF has its
answers, and the model was shown one finding for each result, with a word for the file if there are
no locations. But if there is an array of locations with nothing in it, the whole document has no
review and the model is not asked. -/
theorem analyzeResults_unless_empty_locations [Output] (disk : Disk) (path : Text) (sarif : Json)
    (hRead : readDocument disk path = .ok sarif) (hSarif : isSarif sarif = true)
    (severity patterns remediation : Json) (replies : List (Except Fault Json))
    (prompts : List Text) :
    (resultsOf sarif).Forall₂ Describes (findingsOn sarif) ∧
    analyzeResults disk path ⟨.ok severity :: .ok patterns :: .ok remediation :: replies, prompts⟩ =
      .ok (if (resultsOf sarif).any hasEmptyLocations then
          (none, [startLine, emptyLine],
            ⟨.ok severity :: .ok patterns :: .ok remediation :: replies, prompts⟩)
        else (some ⟨severity, patterns, remediation⟩, [startLine],
          ⟨replies, prompts ++ [severityPrompt (Json.arr (findingsOn sarif)).pretty,
            patternPrompt (Json.arr (findingsOn sarif)).pretty,
            remediationPrompt severity patterns]⟩)) := by
  refine ⟨findingsOn_describes sarif, ?_⟩
  have hContext := vulnerabilityContext_of_isSarif hSarif
  rw [analyzeResults]
  cases hEmpty : (resultsOf sarif).any hasEmptyLocations with
  | true =>
      rw [hEmpty, if_pos rfl] at hContext
      rw [perform_reviewFile_of_fault hRead hContext]
      have hReport : faultReport path .listIndexRange = emptyLine := rfl
      have hPrinted : emptyLine.printed = .ok emptyLine :=
        (Text.sayable_append.2 ⟨Text.sayable_ofString _, Text.sayable_ofString _⟩).printed
      simp only [hReport, hPrinted]
      rfl
  | false =>
      rw [hEmpty, if_neg Bool.false_ne_true] at hContext
      rw [perform_reviewFile hRead hContext]
      rfl

/-- A document with a result without locations next to one whose array of locations is empty. -/
def emptyText : String :=
  "\x7b\"runs\":[\x7b\"results\":[\x7b\x7d,\x7b\"locations\":[]\x7d]\x7d]\x7d"

def emptyDisk : Disk := ⟨.directory [("results.sarif", .file emptyText.toUTF8.toList)], []⟩

def emptyDocument : Json :=
  .obj [("runs", .arr [.obj [("results", .arr [.obj [], .obj [("locations", .arr [])]])]])]

/-- The second result leaves no review of either, although the model would answer. -/
theorem analyzeResults_unless_empty_locations_second :
    readDocument emptyDisk "results.sarif" = .ok emptyDocument ∧ isSarif emptyDocument = true ∧
    (resultsOf emptyDocument).length = 2 ∧
    analyzeResults emptyDisk "results.sarif"
        ⟨[.ok (.str "low"), .ok (.str "none"), .ok (.str "wait")], []⟩ =
      .ok (none, [startLine, emptyLine],
        ⟨[.ok (.str "low"), .ok (.str "none"), .ok (.str "wait")], []⟩) := by
  have hText : emptyDisk.readText "results.sarif" = .ok emptyText := by decide +kernel
  have hRead : readDocument emptyDisk "results.sarif" = .ok emptyDocument := by
    have hValue : Json.read emptyText = .ok emptyDocument :=
      Json.read_eq_of_agrees (by decide +kernel)
    simp [readDocument, hText, hValue, bind, Except.bind, pure, Except.pure]
  have hSarif : isSarif emptyDocument = true := by decide
  have hAll := analyzeResults_unless_empty_locations emptyDisk "results.sarif" emptyDocument hRead
    hSarif (.str "low") (.str "none") (.str "wait") [] []
  have hEmpty : (resultsOf emptyDocument).any hasEmptyLocations = true := by decide
  rw [if_pos hEmpty] at hAll
  exact ⟨hRead, hSarif, rfl, hAll.2⟩

end RepoAudit.Triage
