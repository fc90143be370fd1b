import RepoAudit.Proofs.Record
import RepoAudit.Proofs.Report.Finding
import RepoAudit.Proofs.Text.Search
import RepoAudit.Report.SecurityReport

/-!
Findings that can be put before a language model. Main statement: every finding from the results of
a tool can, and no finding from a judgement can, whatever the judgement gives as its severity.
-/
namespace RepoAudit

open Json

namespace Finding

def lineFeed : CodePoint := .char '\n'

/-- The line of a prompt that follows the type of a finding. The type begins on the first line, and
each line feed in it makes one line more. -/
def severityLine? (f : Finding) (prompt : Text) : Option Text :=
  (splitAll lineFeed prompt)[f.vulnerabilityType.display.count lineFeed + 1]?

/-- Whether a value is listed as a finding: an object with the fields of findings and no others. -/
def isListing : Json → Bool
  | .obj members => recordType.accepts members
  | _ => false

/-- The finding that is made of a listed value. Its severity is taken over as it is. -/
def listed (v : Json) : Finding :=
  let field (name : Text) : Json := (v.member? name).getD .null
  ⟨field "vulnerability_type", .unrated (field "severity"), field "affected_package",
    field "code_snippet", field "file_path", field "line_number", field "description"⟩

variable {f : Finding} {v : Json}

theorem word_mem (s : Severity) :
    s.word ∈ (["CRITICAL", "HIGH", "MEDIUM", "LOW"] : List Text) := by
  cases s <;> decide

theorem lineFeed_not_mem_word (s : Severity) :
    lineFeed ∉ Text.ofString "Severity: " ++ s.word := by
  cases s <;> decide

/-- A finding with one of the four severities can be put before a model, and says it in the line
after its type. No severity has a line feed in it, so its line ends where that of the package
begins. -/
theorem prompt_of_rated {s : Severity} (h : f.severity = .rated s) : ∃ prompt,
    f.prompt = .ok prompt ∧ f.severityLine? prompt = some ("Severity: " ++ s.word) := by
  have hWord : f.severity.word = .ok s.word := by rw [h]; rfl
  have hFront : f.vulnerabilityType.display.count lineFeed =
      (Text.ofString "Type: " ++ f.vulnerabilityType.display).count lineFeed := by
    rw [List.count_append]
    exact (Nat.zero_add _).symm
  have hBreak : Text.ofString "\nSeverity: " = lineFeed :: Text.ofString "Severity: " := rfl
  have hNext : Text.ofString "\nPackage: " = lineFeed :: Text.ofString "Package: " := rfl
  rw [prompt, hWord]
  refine ⟨_, rfl, ?_⟩
  rw [severityLine?, hFront, hBreak, hNext]
  simpa only [List.append_assoc, List.cons_append] using getElem?_splitAll
    (lineFeed_not_mem_word s) (Text.ofString "Type: " ++ f.vulnerabilityType.display) _

theorem filled_recordType (members : List (Text × Json)) : recordType.filled members =
    (recordType.fields.map Prod.fst).map fun name => (name, (members.lookup name).getD .null) := by
  simp [RecordType.filled, recordType]

/-- A judgement is taken as a finding if it has the members of one. -/
theorem ofJudgement_eq_ok_iff : ofJudgement v = .ok f ↔ isListing v = true ∧ listed v = f := by
  rw [ofJudgement, bind_eq_ok_iff]
  cases v with
  | obj members =>
      simp only [RecordType.makeFrom, RecordType.make_eq_ok_iff, pure_eq_ok_iff]
      constructor
      · rintro ⟨made, ⟨hAccepts, rfl⟩, rfl⟩
        rw [filled_recordType]
        exact ⟨hAccepts, rfl⟩
      · rintro ⟨hAccepts, rfl⟩
        refine ⟨_, ⟨hAccepts, rfl⟩, ?_⟩
        rw [filled_recordType]
        rfl
  | _ => simp [RecordType.makeFrom, isListing]

/-- A listed finding cannot be put before a model. It has a severity, and the fault names the type
of the value that stands for it. -/
theorem prompt_listed (h : isListing v = true) : ∃ severity,
    v.member? "severity" = some severity ∧
      (listed v).prompt = .error (.noAttribute severity.typeName "value") := by
  cases v with
  | obj members =>
      have hFields := (Bool.and_eq_true_iff.1 h).2
      rw [List.all_eq_true] at hFields
      have hGiven := hFields (Text.ofString "severity", none) (by simp [recordType])
      obtain ⟨severity, hSeverity⟩ := Option.isSome_iff_exists.1 hGiven
      have hMember : (Json.obj members).member? "severity" = some severity := hSeverity
      have hTaken : (listed (.obj members)).severity =
          .unrated (((Json.obj members).member? "severity").getD .null) := rfl
      refine ⟨severity, hMember, ?_⟩
      rw [prompt, hTaken, hMember]
      rfl
  | _ => cases h

end Finding

namespace SecurityReport

def groupNames : List Text := ["critical", "high", "medium", "low"]

/-- Whether a value is a judgement. Each of its groups may be missing, and has nothing but listed
findings in it. -/
def isJudgement (v : Json) : Bool :=
  v.isObject && groupNames.all fun name => v.hasOptional name (isLoopOver Finding.isListing)

def listings (judgement : Json) : List Json := groupNames.flatMap judgement.itemsOf

def ofListings (judgement : Json) : SecurityReport :=
  let group (name : Text) : List Finding := (judgement.itemsOf name).map Finding.listed
  ⟨group "critical", group "high", group "medium", group "low",
    (judgement.member? "summary").getD (.str [])⟩

variable {judgement : Json} {name : Text} {report : SecurityReport}

/-- Judgements are taken as findings one by one. -/
theorem mapM_ofJudgement_eq_ok_iff {items : List Json} {found : List Finding} :
    items.mapM Finding.ofJudgement = .ok found ↔
      (∀ item ∈ items, Finding.isListing item = true) ∧ items.map Finding.listed = found := by
  have hMap : items.map Finding.listed = found ↔
      items.Forall₂ (fun item finding => Finding.listed item = finding) found := by
    rw [← List.forall₂_eq_eq_eq, List.forall₂_map_left_iff]
  simp only [mapM_eq_ok_iff, Finding.ofJudgement_eq_ok_iff, List.forall₂_and_left, hMap]

/-- A group may be missing, and otherwise all in it has to be findings. -/
theorem group_eq_ok_iff (hObject : judgement.isObject = true) {found : List Finding} :
    group judgement name = .ok found ↔
      judgement.hasOptional name (isLoopOver Finding.isListing) = true ∧
        (judgement.itemsOf name).map Finding.listed = found := by
  have hTexts (t : Text) : Finding.isListing (.str t) = false := rfl
  rw [group, ← bind_assoc, bind_eq_ok_iff]
  simp only [mapM_ofJudgement_eq_ok_iff, ← and_assoc, elements_getD_iff hTexts hObject]
  simp

/-- A report is made of a judgement and of nothing else. Its groups have the findings that the
judgement lists. -/
theorem ofJudgement_eq_ok_iff : ofJudgement judgement = .ok report ↔
    isJudgement judgement = true ∧ ofListings judgement = report := by
  rw [isJudgement, Bool.and_eq_true]
  cases hObject : judgement.isObject with
  | true =>
      simp [ofJudgement, bind_eq_ok_iff, group_eq_ok_iff hObject, getD_of_isObject hObject,
        groupNames, ofListings, and_assoc]
  | false => simp [ofJudgement, group, getD_eq, hObject, bind, Except.bind]

/-- The findings of a report are those of the judgement, in its order. -/
theorem findings_ofListings (judgement : Json) :
    (ofListings judgement).findings = (listings judgement).map Finding.listed := by
  simp [ofListings, findings, listings, groupNames]

theorem isListing_of_mem (h : isJudgement judgement = true) :
    ∀ item ∈ listings judgement, Finding.isListing item = true := by
  have hTexts (t : Text) : Finding.isListing (.str t) = false := rfl
  rw [isJudgement, Bool.and_eq_true, List.all_eq_true] at h
  intro item hItem
  obtain ⟨name, hName, hItem⟩ := List.mem_flatMap.1 hItem
  exact ((elements_getD_iff hTexts h.1).2 ⟨h.2 name hName, rfl⟩).2 item hItem

end SecurityReport

/-- Findings of a tool have a severity that is known. -/
theorem Finding.exists_rated {results : Json} {findings : List Finding}
    (h : Finding.ofResults results = .ok findings) :
    ∀ finding ∈ findings, ∃ s, finding.severity = .rated s := by
  obtain ⟨items, -, hItems⟩ := bind_eq_ok_iff.1 h
  have hEach : findings.Forall₂ (fun finding item =>
      (∃ s, finding.severity = .rated s) ∧ Finding.ofResult item = .ok finding) items := by
    refine (mapM_eq_ok_iff.1 hItems).flip.imp fun finding item hMade => ⟨?_, hMade⟩
    obtain ⟨stored, -, rfl⟩ := (Finding.ofResult_eq_ok_iff .null).1 hMade
    exact ⟨stored.severity, rfl⟩
  exact ((List.forall₂_and_left _ _).1 hEach).1

/-- Every finding from the results of a tool can be put before a model, and the line after its type
says which of the four severities it has. Reports are made of judgements of the right shape alone,
and then no finding that is listed can be put before a model, whatever its severity is. So all
findings of a report can be if and only if there are none. -/
theorem findings_prompted_unless_judged (results judgement : Json) :
    (∀ findings, Finding.ofResults results = .ok findings → ∀ finding ∈ findings,
      ∃ (severity : Severity) (prompt : Text), finding.severity = .rated severity ∧
        severity.word ∈ (["CRITICAL", "HIGH", "MEDIUM", "LOW"] : List Text) ∧
        finding.prompt = .ok prompt ∧
        finding.severityLine? prompt = some ("Severity: " ++ severity.word)) ∧
    ((∃ report, SecurityReport.ofJudgement judgement = .ok report) ↔
      SecurityReport.isJudgement judgement = true) ∧
    (∀ report, SecurityReport.ofJudgement judgement = .ok report →
      (SecurityReport.listings judgement).Forall₂ (fun item finding => ∃ severity,
        item.member? "severity" = some severity ∧
          finding.prompt = .error (.noAttribute severity.typeName "value")) report.findings ∧
      ((∀ finding ∈ report.findings, ∃ prompt, finding.prompt = .ok prompt) ↔
        SecurityReport.listings judgement = [])) := by
  refine ⟨fun findings hFindings finding hFinding => ?_, ?_, fun report hReport => ?_⟩
  · obtain ⟨severity, hRated⟩ := Finding.exists_rated hFindings finding hFinding
    obtain ⟨prompt, hPrompt, hLine⟩ := Finding.prompt_of_rated hRated
    exact ⟨severity, prompt, hRated, Finding.word_mem severity, hPrompt, hLine⟩
  · simp [SecurityReport.ofJudgement_eq_ok_iff]
  · obtain ⟨hJudgement, rfl⟩ := SecurityReport.ofJudgement_eq_ok_iff.1 hReport
    have hListings := SecurityReport.isListing_of_mem hJudgement
    rw [SecurityReport.findings_ofListings, List.forall₂_map_right_iff, List.forall₂_same]
    refine ⟨fun item hItem => Finding.prompt_listed (hListings item hItem), fun hAll => ?_,
      fun hNone => ?_⟩
    · refine List.eq_nil_iff_forall_not_mem.2 fun item hItem => ?_
      obtain ⟨severity, -, hFault⟩ := Finding.prompt_listed (hListings item hItem)
      obtain ⟨prompt, hPrompt⟩ := hAll _ (List.mem_map_of_mem hItem)
      rw [hFault] at hPrompt
      cases hPrompt
    · rw [hNone]
      simp

/-- A judgement that lists one finding of a high severity. -/
def highJudgement : Json := .obj [("critical", .arr [.obj [("vulnerability_type", .str "xss"),
  ("severity", .str "HIGH"), ("affected_package", .null), ("code_snippet", .str "x"),
  ("file_path", .str "a.py"), ("line_number", .int 1), ("description", .str "d")]])]

/-- The finding of a high severity is in the report, and it cannot be put before a model, while the
same finding from the results of a tool can. -/
theorem findings_prompted_unless_judged_high :
    (∃ report finding, SecurityReport.ofJudgement highJudgement = .ok report ∧
      report.findings = [finding] ∧ finding.prompt = .error (.noAttribute "str" "value")) ∧
    ∃ finding prompt, Finding.ofResults (.arr [.obj [("type", .str "xss"),
      ("severity", .str "HIGH")]]) = .ok [finding] ∧ finding.prompt = .ok prompt := by
  obtain ⟨hTool, hMade, hJudged⟩ := findings_prompted_unless_judged
    (.arr [.obj [("type", .str "xss"), ("severity", .str "HIGH")]]) highJudgement
  constructor
  · obtain ⟨report, hReport⟩ := hMade.2 (by decide)
    have hFails := (hJudged report hReport).1
    have hListings : SecurityReport.listings highJudgement = [_] := rfl
    rw [hListings] at hFails
    obtain ⟨finding, rest, ⟨severity, hSeverity, hPrompt⟩, hRest, hFindings⟩ :=
      List.forall₂_cons_left_iff.1 hFails
    cases List.forall₂_nil_left_iff.1 hRest
    cases hSeverity
    exact ⟨report, finding, hReport, hFindings, hPrompt⟩
  · obtain ⟨severity, prompt, -, -, hPrompt, -⟩ := hTool _ rfl _ List.mem_cons_self
    exact ⟨_, prompt, rfl, hPrompt⟩

end RepoAudit
