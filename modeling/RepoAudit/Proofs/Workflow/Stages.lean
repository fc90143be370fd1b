import RepoAudit.Proofs.Directory
import RepoAudit.Proofs.Workflow

/-!
The stages of a scan, in their order: the copy, the discovery, the database and its analysis. Main
statement: a command is run only if the stages before it succeeded, the scan has a result if all of
them do, and otherwise it ends with the failure of the first that does not. A failure whose report
cannot be printed is not told: what was wrong with the report takes its place.
-/
namespace RepoAudit

open Step CodeQL

variable {σ α β : Type} {host : Host σ} {s t u : σ × List (List Text)}

/-- A work on a machine, after commands, ends with a result on a machine and after commands,
whatever was reported before. -/
def Ends (work : Work σ α) (s : σ × List (List Text)) (result : Except Fault α)
    (t : σ × List (List Text)) : Prop :=
  ∀ lines, ∃ report, work.perform ⟨s.1, lines, s.2⟩ = (result, ⟨t.1, report, t.2⟩)

section Ends

variable {work : Work σ α} {next : α → Work σ β} {a : α} {result : Except Fault β} {fault : Fault}

/-- Works in turn end where the last one does. -/
theorem Ends.bind (h : Ends work s (.ok a) t) (hNext : Ends (next a) t result u) :
    Ends (work >>= next) s result u := by
  intro lines
  obtain ⟨middle, hFirst⟩ := h lines
  obtain ⟨report, hSecond⟩ := hNext middle
  refine ⟨report, ?_⟩
  rw [perform_bind, hFirst]
  exact hSecond

/-- A fault ends the works behind it. -/
theorem Ends.bind_fault (h : Ends work s (.error fault) t) :
    Ends (work >>= next) s (.error fault) t := by
  intro lines
  obtain ⟨report, hFirst⟩ := h lines
  refine ⟨report, ?_⟩
  rw [perform_bind, hFirst]

theorem ends_pure (a : α) : Ends (pure a) s (.ok a) s := fun lines => ⟨lines, rfl⟩

theorem ends_attempt (result : Except Fault α) : Ends (attempt result) s result s :=
  fun lines => ⟨lines, perform_attempt result _⟩

/-- A line that can be printed leaves the machine as it is. -/
theorem ends_say [Output] {line : Text} (h : line.Sayable) :
    Ends (Work.say line) s (.ok ()) s := by
  intro lines
  refine ⟨lines ++ [line], ?_⟩
  rw [Work.say, perform_bind, perform_attempt, h.printed]
  rfl

/-- A line that cannot be printed is a fault, and leaves the machine as it is. -/
theorem ends_say_fault [Output] {line : Text} (h : line.unencodable? Output.handler = some fault) :
    Ends (Work.say line) s (.error fault) s := by
  intro lines
  refine ⟨lines, ?_⟩
  rw [Work.say, perform_bind, perform_attempt, Text.printed, h]

theorem ends_execute (command : List Text) : Ends (Work.execute host command) s
    (.ok (host.run command s.1).1) ((host.run command s.1).2, s.2 ++ [command]) :=
  fun lines => ⟨lines, rfl⟩

theorem ends_clone (repository path : Text) : Ends (Work.clone host repository path) s
    (.ok (host.clone repository path s.1).1) ((host.clone repository path s.1).2, s.2) :=
  fun lines => ⟨lines, rfl⟩

theorem ends_disk : Ends (Work.disk host) s (.ok (host.disk s.1)) s := fun lines => ⟨lines, rfl⟩

theorem ends_tryCatch {handle : Fault → Work σ α} (h : Ends work s (.ok a) t) :
    Ends (tryCatch work handle) s (.ok a) t := by
  intro lines
  obtain ⟨report, hFirst⟩ := h lines
  refine ⟨report, ?_⟩
  rw [perform_tryCatch, hFirst]

theorem ends_tryCatch_fault {handle : Fault → Work σ α} {result : Except Fault α}
    (h : Ends work s (.error fault) t) (hHandle : Ends (handle fault) t result u) :
    Ends (tryCatch work handle) s result u := by
  intro lines
  obtain ⟨middle, hFirst⟩ := h lines
  obtain ⟨report, hSecond⟩ := hHandle middle
  refine ⟨report, ?_⟩
  rw [perform_tryCatch, hFirst]
  exact hSecond

end Ends

/-- What comes of a failure that is reported in a line: no path, unless the line cannot be
printed. -/
def missing [Output] (line : Text) : Except Fault (Option Text) :=
  match line.unencodable? Output.handler with
  | some fault => .error fault
  | none => .ok none

/-- The fault that ends a scan after a failure that is reported in a line. -/
def failureAfter [Output] (line failure : Text) : Fault :=
  (line.unencodable? Output.handler).getD (.stepFailed failure)

/-- A command makes the entry at a path: it succeeds, its output can be printed, and the entry is
there. -/
def Makes [Output] (host : Host σ) (command : List Text) (path : Text) (machine : σ) : Prop :=
  ∃ output, (host.run command machine).1 = .finished output ∧ output.Sayable ∧
    (host.disk (host.run command machine).2).has path = true

/-- The line in which the end of a command is reported, where it tells what the command said. -/
def CodeQL.Wording.complaint (wording : Wording) : Outcome → Text
  | .finished _ => []
  | .failed _ errors => "Error output: " ++ errors
  | .faulted fault => wording.unexpected ++ fault.message

/-- Texts of reports that can be printed. -/
structure CodeQL.Wording.IsPlain [Output] (wording : Wording) : Prop where
  output : wording.output.Sayable
  success : wording.success.Sayable
  absent : wording.absent.Sayable
  failure : wording.failure.Sayable
  unexpected : wording.unexpected.Sayable

theorem creation_isPlain [Output] : creation.IsPlain := by
  constructor <;> exact Text.sayable_ofString _

theorem analysis_isPlain [Output] : analysis.IsPlain := by
  constructor <;> exact Text.sayable_ofString _

section Commands

variable [Output] {wording : Wording} {command : List Text} {path : Text} {report failure : Text}
  {next : Text → Work σ β}

theorem ends_report {fault : Fault} (hWording : wording.IsPlain) (h : fault.message.Sayable) :
    Ends (wording.report fault) s (.ok none) s := by
  apply (ends_say ?_).bind (ends_pure none)
  exact Text.sayable_append.2 ⟨hWording.unexpected, h⟩

/-- Without a path only the line that tells so can fail. -/
theorem ends_complaint (line : Text) :
    Ends (do Work.say line; return none) s (missing line) s := by
  unfold missing
  split
  · next fault h => exact (ends_say_fault h).bind_fault
  · next h => exact (ends_say (Text.sayable_iff.2 h)).bind (ends_pure none)

/-- A command that makes its entry gives the path. -/
theorem produce_of_makes (hWording : wording.IsPlain) (hPath : path.Sayable)
    (h : Makes host command path s.1) : Ends (produce host wording command path) s
      (.ok (some path)) ((host.run command s.1).2, s.2 ++ [command]) := by
  obtain ⟨output, hFinished, hOutput, hHas⟩ := h
  apply (ends_execute command).bind
  rw [hFinished]
  apply ends_tryCatch
  apply (ends_say (Text.sayable_append.2 ⟨hWording.output, hOutput⟩)).bind
  apply ends_disk.bind
  rw [if_pos hHas]
  apply (ends_say (Text.sayable_append.2 ⟨hWording.success, hPath⟩)).bind
  exact ends_pure _

/-- A command that does not make its entry gives none, and its complaint has to be printed. -/
theorem produce_of_not_makes (hWording : wording.IsPlain) (h : ¬Makes host command path s.1) :
    Ends (produce host wording command path) s
      (missing (wording.complaint (host.run command s.1).1))
      ((host.run command s.1).2, s.2 ++ [command]) := by
  apply (ends_execute command).bind
  rcases hOutcome : (host.run command s.1).1 with output | ⟨exit, errors⟩ | fault
  · change Ends _ _ (.ok none) _
    by_cases hOutput : output.Sayable
    · have hAbsent : ¬(host.disk (host.run command s.1).2).has path = true := by
        intro hHas
        exact h ⟨output, hOutcome, hOutput, hHas⟩
      apply ends_tryCatch
      apply (ends_say (Text.sayable_append.2 ⟨hWording.output, hOutput⟩)).bind
      apply ends_disk.bind
      rw [if_neg hAbsent]
      exact (ends_say hWording.absent).bind (ends_pure none)
    · have hLine : ¬Text.Sayable (wording.output ++ output) := by simp [hOutput]
      rw [Text.sayable_iff, ← ne_eq, Option.ne_none_iff_exists'] at hLine
      obtain ⟨fault, hFault⟩ := hLine
      apply ends_tryCatch_fault (ends_say_fault hFault).bind_fault
      exact ends_report hWording (writable_message_of_unencodable? hFault).sayable
  · have hFailure := (writable_commandFailed command exit).sayable
    apply (ends_say (Text.sayable_append.2 ⟨hWording.failure, hFailure⟩)).bind
    exact ends_complaint _
  · exact ends_complaint _

/-- Without a path the scan ends: with the failure of the step, or before that if the report on it
cannot be printed. -/
theorem ends_require_missing {work : Work σ (Option Text)} {line : Text}
    (h : Ends work s (missing line) t) (hReport : report.Sayable) :
    Ends (work >>= fun found => require found report failure >>= next) s
      (.error (failureAfter line failure)) t := by
  unfold missing at h
  unfold failureAfter
  split at h
  · next fault hFault =>
      rw [hFault]
      exact h.bind_fault
  · next hNone =>
      rw [hNone]
      apply h.bind
      apply Ends.bind_fault
      exact (ends_say hReport).bind (ends_attempt (.error _))

theorem ends_require {work : Work σ (Option Text)} {result : Except Fault β} {found : Text}
    (h : Ends work s (.ok (some found)) t) (hNext : Ends (next found) t result u) :
    Ends (work >>= fun found => require found report failure >>= next) s result u :=
  h.bind ((ends_pure found).bind hNext)

end Commands

section Sayable

variable [Output] {path language : Text}

theorem databasePath_sayable (h : path.Sayable) : (databasePath path).Sayable := by
  apply h.join
  simp [h.baseName]

theorem resultsPath_sayable (h : path.Sayable) : (resultsPath path).Sayable := by
  apply h.directoryName.join
  simp [h.directoryName.baseName]

/-- The languages come from a fixed table. -/
theorem mainLanguage_sayable {counts : List (Text × Json)}
    (h : mainLanguage counts = .ok (some language)) : language.Sayable := by
  have hAll : ∀ name ∈ extensions.map Prod.snd, name.Writable := by
    unfold Text.Writable
    decide
  exact (hAll language (mainLanguage_mem h)).sayable

theorem createCommand_sayable (hPath : path.Sayable) (hLanguage : language.Sayable) :
    ∀ argument ∈ createCommand path language, argument.Sayable := by
  simp [createCommand, hPath, hLanguage, databasePath_sayable hPath]

theorem analyzeCommand_sayable (hPath : path.Sayable) (hLanguage : language.Sayable) :
    ∀ argument ∈ analyzeCommand path language, argument.Sayable := by
  simp [analyzeCommand, hPath, hLanguage, resultsPath_sayable hPath]

end Sayable

theorem countValues_areWhole (counts : List (Text × Nat)) : AreWhole (countValues counts) := by
  unfold AreWhole countValues
  rw [List.forall_mem_map]
  exact fun entry _ => ⟨entry.2, rfl⟩

section Databases

variable [Output] {path language : Text} {counts : List (Text × Json)}
  {result : Except Fault (Option Text)}

theorem buildDatabase_of_none (h : mainLanguage counts = .ok none) :
    Ends (buildDatabase host path counts) s (.ok none) s := by
  apply (ends_say (Text.sayable_ofString _)).bind
  rw [h]
  apply (ends_attempt _).bind
  exact (ends_say (Text.sayable_ofString _)).bind (ends_pure none)

/-- Before the command that makes a database there are only reports. -/
theorem buildDatabase_of_some (hPath : path.Sayable)
    (hLanguage : mainLanguage counts = .ok (some language))
    (h : Ends (produce host creation (createCommand path language) (databasePath path)) s result
      t) : Ends (buildDatabase host path counts) s result t := by
  have hSayable := mainLanguage_sayable hLanguage
  have hCommand := forall_mem_joinWith (Text.sayable_ofString " ")
    (createCommand_sayable hPath hSayable)
  apply (ends_say (Text.sayable_ofString _)).bind
  rw [hLanguage]
  apply (ends_attempt _).bind
  apply (ends_say (Text.sayable_append.2 ⟨Text.sayable_ofString _, hSayable⟩)).bind
  exact (ends_say (Text.sayable_append.2 ⟨Text.sayable_ofString _, hCommand⟩)).bind h

/-- Before the command that analyses a database there are only reports. -/
theorem ends_analyzeDatabase {database : Text} (hDatabase : database.Sayable)
    (hLanguage : language.Sayable)
    (h : Ends (produce host analysis (analyzeCommand database language) (resultsPath database)) s
      result t) : Ends (analyzeDatabase host database language) s result t := by
  have hCommand := forall_mem_joinWith (Text.sayable_ofString " ")
    (analyzeCommand_sayable hDatabase hLanguage)
  apply (ends_say (Text.sayable_ofString _)).bind
  exact (ends_say (Text.sayable_append.2 ⟨Text.sayable_ofString _, hCommand⟩)).bind h

end Databases

/-- A scan: of a repository that is copied to a path, on a host in some state. -/
structure ScanJob (σ : Type) where
  host : Host σ
  machine : σ
  repository : Text
  path : Text

namespace ScanJob

variable (job : ScanJob σ) (info : Discovery.ProjectInfo) (language : Text)

/-- The result of the scan, and what was reported and run. -/
def run [Output] : Except Fault ScanResult × Console σ :=
  (scanRepository job.host job.repository job.path).perform ⟨job.machine, [], []⟩

/-- The machine with the copy of the repository. -/
def copied : σ := (job.host.clone job.repository job.path job.machine).2

/-- The command that makes the database. -/
def creation : List Text := createCommand job.path language

/-- The machine with the database. -/
def built : σ := (job.host.run (job.creation language) job.copied).2

/-- The command that analyses the database of a project. -/
def analysis : List Text :=
  analyzeCommand (databasePath job.path) (Json.obj (countValues info.languages)).display

/-- The result of a scan in which all stages succeed. -/
def result : ScanResult := ⟨info, databasePath job.path, resultsPath (databasePath job.path)⟩

theorem not_isAnalysis_creation (job : ScanJob σ) (language : Text) :
    ¬IsAnalysis (job.creation language) := by
  have hName : (job.creation language).take 3 = [("codeql" : Text), "database", "create"] := rfl
  rw [IsAnalysis, hName]
  decide

section Stages

variable [Output]

/-- The repository is copied, and it is told from where to where. -/
structure IsCopied : Prop where
  repository_sayable : job.repository.Sayable
  path_sayable : job.path.Sayable
  clone : (job.host.clone job.repository job.path job.machine).1 = none

/-- The project is discovered in the copy. -/
structure IsDiscovered : Prop where
  isCopied : job.IsCopied
  discover : ∃ report,
    Discovery.discover (job.host.disk job.copied) job.path = .ok (info, report)

/-- The database is made, for the main language of the project. -/
structure HasDatabase : Prop where
  isDiscovered : job.IsDiscovered info
  main : mainLanguage (countValues info.languages) = .ok (some language)
  makes : Makes job.host (job.creation language) (databasePath job.path) job.copied

/-- The database is analysed. -/
structure IsAnalysed : Prop where
  hasDatabase : job.HasDatabase info language
  makes : Makes job.host (job.analysis info) (resultsPath (databasePath job.path))
    (job.built language)

/-- The fault with which the first stage that fails ends the scan, and the commands up to it. -/
inductive FirstFailure : Fault → List (List Text) → Prop
  | announcement {fault : Fault}
    (h : Text.unencodable? Output.handler
      ("Starting security scan workflow for repository: " ++ job.repository) = some fault) :
    FirstFailure fault []
  | destination {fault : Fault} (hRepository : job.repository.Sayable)
    (h : Text.unencodable? Output.handler
      ("Starting to clone repository from " ++ job.repository ++ " to " ++ job.path) =
        some fault) : FirstFailure fault []
  | copy {cause : Fault} (hRepository : job.repository.Sayable) (hPath : job.path.Sayable)
    (h : (job.host.clone job.repository job.path job.machine).1 = some cause) :
    FirstFailure (failureAfter ("Error cloning repository: " ++ cause.message)
      "Failed to clone repository") []
  | discovery {fault : Fault} (hCopied : job.IsCopied)
    (h : Discovery.discover (job.host.disk job.copied) job.path = .error fault) :
    FirstFailure fault []
  | language {info : Discovery.ProjectInfo} (hDiscovered : job.IsDiscovered info)
    (h : mainLanguage (countValues info.languages) = .ok none) :
    FirstFailure (.stepFailed "Failed to create CodeQL database") []
  | database {info : Discovery.ProjectInfo} {language : Text} (hDiscovered : job.IsDiscovered info)
    (hMain : mainLanguage (countValues info.languages) = .ok (some language))
    (h : ¬Makes job.host (job.creation language) (databasePath job.path) job.copied) :
    FirstFailure (failureAfter
      (CodeQL.creation.complaint (job.host.run (job.creation language) job.copied).1)
      "Failed to create CodeQL database") [job.creation language]
  | analysis {info : Discovery.ProjectInfo} {language : Text}
    (hDatabase : job.HasDatabase info language)
    (h : ¬Makes job.host (job.analysis info) (resultsPath (databasePath job.path))
      (job.built language)) :
    FirstFailure (failureAfter
      (CodeQL.analysis.complaint (job.host.run (job.analysis info) (job.built language)).1)
      "Failed to run CodeQL analysis") [job.creation language, job.analysis info]

/-- Before the copy there are only reports. -/
theorem ends_announced {job : ScanJob σ} {result : Except Fault ScanResult}
    {t : σ × List (List Text)} (hRepository : job.repository.Sayable)
    (h : Ends (do
      let cloned ← cloneRepository job.host job.repository job.path
      require (if cloned then some () else none) "Repository cloning failed, stopping workflow"
        "Failed to clone repository"
      scanCopy job.host job.path) (job.machine, []) result t) :
    Ends (scanRepository job.host job.repository job.path) (job.machine, []) result t := by
  rw [scanRepository_eq]
  apply (ends_say (Text.sayable_append.2 ⟨Text.sayable_ofString _, hRepository⟩)).bind
  exact (ends_say (Text.sayable_ofString _)).bind h

theorem copying_sayable {job : ScanJob σ} (hRepository : job.repository.Sayable)
    (hPath : job.path.Sayable) : Text.Sayable
      ("Starting to clone repository from " ++ job.repository ++ " to " ++ job.path) := by
  simp [hRepository, hPath]

/-- What follows a copy that succeeds is the scan of the copy. -/
theorem IsCopied.ends {job : ScanJob σ} {result : Except Fault ScanResult}
    {t : σ × List (List Text)} (hCopied : job.IsCopied)
    (h : Ends (scanCopy job.host job.path) (job.copied, []) result t) :
    Ends (scanRepository job.host job.repository job.path) (job.machine, []) result t := by
  have hLine := copying_sayable hCopied.repository_sayable hCopied.path_sayable
  apply ends_announced hCopied.repository_sayable
  have hClone : Ends (cloneRepository job.host job.repository job.path) (job.machine, [])
      (.ok true) (job.copied, []) := by
    apply (ends_say hLine).bind
    apply (ends_clone _ _).bind
    rw [hCopied.clone]
    exact (ends_say (Text.sayable_ofString _)).bind (ends_pure true)
  exact hClone.bind ((ends_pure ()).bind h)

/-- What follows the discovery is the work on the database. -/
theorem IsDiscovered.ends {job : ScanJob σ} {info : Discovery.ProjectInfo}
    {result : Except Fault (Text × Text)} {t : σ × List (List Text)}
    (hDiscovered : job.IsDiscovered info)
    (h : Ends (makeArtefacts job.host job.path (countValues info.languages)) (job.copied, [])
      result t) :
    Ends (scanRepository job.host job.repository job.path) (job.machine, [])
      (result.map fun (database, results) => ⟨info, database, results⟩) t := by
  apply hDiscovered.isCopied.ends
  obtain ⟨report, hInfo⟩ := hDiscovered.discover
  apply (ends_say (Text.sayable_ofString _)).bind
  apply ends_disk.bind
  rw [hInfo]
  apply (ends_attempt _).bind
  have hShown := (Json.writable_shown (projectValue info)).sayable
  apply (ends_say (Text.sayable_append.2 ⟨Text.sayable_ofString _, hShown⟩)).bind
  cases result with
  | error fault => exact h.bind_fault
  | ok artefacts => exact h.bind (ends_pure _)

/-- What follows the making of the database is its analysis. -/
theorem HasDatabase.ends {job : ScanJob σ} {info : Discovery.ProjectInfo} {language : Text}
    {result : Except Fault (Text × Text)} {t : σ × List (List Text)}
    (hDatabase : job.HasDatabase info language)
    (h : Ends (do
      let results ← require (← analyzeDatabase job.host (databasePath job.path)
        (Json.obj (countValues info.languages)).display)
        "CodeQL analysis failed" "Failed to run CodeQL analysis"
      return (databasePath job.path, results))
      (job.built language, [job.creation language]) result t) :
    Ends (scanRepository job.host job.repository job.path) (job.machine, [])
      (result.map fun (database, results) => ⟨info, database, results⟩) t := by
  have hPath := hDatabase.isDiscovered.isCopied.path_sayable
  apply hDatabase.isDiscovered.ends
  apply (ends_say (Text.sayable_ofString _)).bind
  have hBuilt := produce_of_makes (s := (job.copied, [])) creation_isPlain
    (databasePath_sayable hPath) hDatabase.makes
  apply ends_require (buildDatabase_of_some hPath hDatabase.main hBuilt)
  exact (ends_say (Text.sayable_ofString _)).bind h

/-- The copy of a repository that cannot be made ends the scan. -/
theorem ends_uncopied {job : ScanJob σ} {cause : Fault}
    (hRepository : job.repository.Sayable) (hPath : job.path.Sayable)
    (h : (job.host.clone job.repository job.path job.machine).1 = some cause) :
    Ends (scanRepository job.host job.repository job.path) (job.machine, [])
      (.error (failureAfter ("Error cloning repository: " ++ cause.message)
        "Failed to clone repository")) (job.copied, []) := by
  apply ends_announced hRepository
  unfold cloneRepository failureAfter
  simp only [bind_assoc]
  apply (ends_say (copying_sayable hRepository hPath)).bind
  apply (ends_clone _ _).bind
  rw [h]
  simp only [bind_assoc, pure_bind]
  rcases hReport : Text.unencodable? Output.handler
      ("Error cloning repository: " ++ cause.message) with _ | fault
  · apply (ends_say (Text.sayable_iff.2 hReport)).bind
    apply Ends.bind_fault
    exact (ends_say (Text.sayable_ofString _)).bind (ends_attempt (.error _))
  · exact (ends_say_fault hReport).bind_fault

/-- The first stage that fails ends the scan. -/
theorem FirstFailure.ends {job : ScanJob σ} {fault : Fault} {commands : List (List Text)}
    (h : job.FirstFailure fault commands) :
    ∃ last, Ends (scanRepository job.host job.repository job.path) (job.machine, [])
      (.error fault) (last, commands) := by
  cases h with
  | announcement h =>
      refine ⟨job.machine, ?_⟩
      rw [scanRepository_eq]
      exact (ends_say_fault h).bind_fault
  | destination hRepository h =>
      refine ⟨job.machine, ends_announced hRepository ?_⟩
      exact (ends_say_fault h).bind_fault.bind_fault
  | copy hRepository hPath h => exact ⟨job.copied, ends_uncopied hRepository hPath h⟩
  | discovery hCopied h =>
      refine ⟨job.copied, hCopied.ends ?_⟩
      apply (ends_say (Text.sayable_ofString _)).bind
      apply ends_disk.bind
      rw [h]
      exact (ends_attempt _).bind_fault
  | @language info hDiscovered h =>
      have hMade : Ends (makeArtefacts job.host job.path (countValues info.languages))
          (job.copied, []) (.error (failureAfter [] "Failed to create CodeQL database"))
          (job.copied, []) := by
        apply (ends_say (Text.sayable_ofString _)).bind
        exact ends_require_missing (buildDatabase_of_none h) (Text.sayable_ofString _)
      exact ⟨job.copied, hDiscovered.ends hMade⟩
  | @database info language hDiscovered hMain h =>
      have hBuilt := produce_of_not_makes (s := (job.copied, [])) creation_isPlain h
      have hMade : Ends (makeArtefacts job.host job.path (countValues info.languages))
          (job.copied, []) (.error (failureAfter (CodeQL.creation.complaint
            (job.host.run (job.creation language) job.copied).1)
            "Failed to create CodeQL database"))
          (job.built language, [job.creation language]) := by
        apply (ends_say (Text.sayable_ofString _)).bind
        apply ends_require_missing ?_ (Text.sayable_ofString _)
        exact buildDatabase_of_some hDiscovered.isCopied.path_sayable hMain hBuilt
      exact ⟨job.built language, hDiscovered.ends hMade⟩
  | @analysis info language hDatabase h =>
      have hPath := hDatabase.isDiscovered.isCopied.path_sayable
      have hRun := produce_of_not_makes (s := (job.built language, [job.creation language]))
        analysis_isPlain h
      have hAnalysis := ends_analyzeDatabase (databasePath_sayable hPath)
        (Json.writable_shown _).sayable hRun
      exact ⟨_, hDatabase.ends (ends_require_missing hAnalysis (Text.sayable_ofString _))⟩

/-- If all stages succeed, the scan has a result. -/
theorem IsAnalysed.ends {job : ScanJob σ} {info : Discovery.ProjectInfo} {language : Text}
    (h : job.IsAnalysed info language) :
    ∃ last, Ends (scanRepository job.host job.repository job.path) (job.machine, [])
      (.ok (job.result info)) (last, [job.creation language, job.analysis info]) := by
  have hDatabase := databasePath_sayable h.hasDatabase.isDiscovered.isCopied.path_sayable
  have hRun := produce_of_makes (s := (job.built language, [job.creation language]))
    analysis_isPlain (resultsPath_sayable hDatabase) h.makes
  have hAnalysis := ends_analyzeDatabase hDatabase
    (Json.writable_shown _).sayable hRun
  exact ⟨_, h.hasDatabase.ends (ends_require hAnalysis (ends_pure _))⟩

/-- Either a stage fails first, or all succeed. -/
theorem firstFailure_or_isAnalysed (job : ScanJob σ) :
    (∃ fault commands, job.FirstFailure fault commands) ∨
      ∃ info language, job.IsAnalysed info language := by
  rcases hFirst : Text.unencodable? Output.handler
      ("Starting security scan workflow for repository: " ++ job.repository) with _ | fault
  swap
  · exact .inl ⟨fault, [], .announcement hFirst⟩
  have hRepository : job.repository.Sayable :=
    (Text.sayable_append.1 (Text.sayable_iff.2 hFirst)).2
  rcases hSecond : Text.unencodable? Output.handler
      ("Starting to clone repository from " ++ job.repository ++ " to " ++ job.path) with _ | fault
  swap
  · exact .inl ⟨fault, [], .destination hRepository hSecond⟩
  have hPath : job.path.Sayable :=
    (Text.sayable_append.1 (Text.sayable_iff.2 hSecond)).2
  rcases hClone : (job.host.clone job.repository job.path job.machine).1 with _ | cause
  swap
  · exact .inl ⟨_, [], .copy hRepository hPath hClone⟩
  have hCopied : job.IsCopied := ⟨hRepository, hPath, hClone⟩
  rcases hInfo : Discovery.discover (job.host.disk job.copied) job.path with fault | ⟨info, report⟩
  · exact .inl ⟨fault, [], .discovery hCopied hInfo⟩
  have hDiscovered : job.IsDiscovered info := ⟨hCopied, report, hInfo⟩
  obtain ⟨main, hMain⟩ := mainLanguage_of_whole (countValues_areWhole info.languages)
  rcases main with _ | language
  · exact .inl ⟨_, [], .language hDiscovered hMain⟩
  by_cases hBuilt : Makes job.host (job.creation language) (databasePath job.path) job.copied
  swap
  · exact .inl ⟨_, _, .database hDiscovered hMain hBuilt⟩
  have hDatabase : job.HasDatabase info language := ⟨hDiscovered, hMain, hBuilt⟩
  by_cases hAnalysed : Makes job.host (job.analysis info) (resultsPath (databasePath job.path))
    (job.built language)
  · exact .inr ⟨info, language, hDatabase, hAnalysed⟩
  · exact .inl ⟨_, _, .analysis hDatabase hAnalysed⟩

/-- The result of a scan and its commands do not depend on the reports. -/
theorem run_of_ends {job : ScanJob σ} {result : Except Fault ScanResult}
    {t : σ × List (List Text)}
    (h : Ends (scanRepository job.host job.repository job.path) (job.machine, []) result t) :
    job.run.1 = result ∧ job.run.2.commands = t.2 := by
  obtain ⟨report, hRun⟩ := h []
  rw [ScanJob.run, hRun]
  exact ⟨rfl, rfl⟩

/-- The first stage that fails determines the fault and the commands. -/
theorem FirstFailure.run {job : ScanJob σ} {fault : Fault} {commands : List (List Text)}
    (h : job.FirstFailure fault commands) :
    job.run.1 = .error fault ∧ job.run.2.commands = commands := by
  obtain ⟨last, hEnds⟩ := h.ends
  exact run_of_ends hEnds

/-- If all stages succeed, both commands were run and the scan has a result. -/
theorem IsAnalysed.run {job : ScanJob σ} {info : Discovery.ProjectInfo} {language : Text}
    (h : job.IsAnalysed info language) :
    job.run.1 = .ok (job.result info) ∧
      job.run.2.commands = [job.creation language, job.analysis info] := by
  obtain ⟨last, hEnds⟩ := h.ends
  exact run_of_ends hEnds

/-- A scan that fails after it ran a command has discovered a project. -/
theorem FirstFailure.exists_isDiscovered {job : ScanJob σ} {fault : Fault}
    {commands : List (List Text)} (h : job.FirstFailure fault commands) (hSome : commands ≠ []) :
    ∃ info, job.IsDiscovered info := by
  cases h with
  | database hDiscovered _ _ => exact ⟨_, hDiscovered⟩
  | analysis hDatabase _ => exact ⟨_, hDatabase.isDiscovered⟩
  | _ => exact absurd rfl hSome

/-- A scan that fails after it ran the analysis has a database. -/
theorem FirstFailure.exists_hasDatabase {job : ScanJob σ} {fault : Fault}
    {commands : List (List Text)} {command : List Text} (h : job.FirstFailure fault commands)
    (hCommand : command ∈ commands) (hAnalysis : IsAnalysis command) :
    ∃ info language, job.HasDatabase info language := by
  cases h with
  | database _ _ _ =>
      rw [List.mem_singleton.1 hCommand] at hAnalysis
      exact absurd hAnalysis (job.not_isAnalysis_creation _)
  | analysis hDatabase _ => exact ⟨_, _, hDatabase⟩
  | _ => cases hCommand

/-- A scan runs commands only if the repository was copied and the project discovered, and analyses
the database only if it was made. It has a result if and only if all stages succeed, and this is
what was discovered, with the paths of the database and of the results. Otherwise it ends with the
failure of the first stage that does not. -/
theorem scan_goes_by_stages (job : ScanJob σ) :
    (job.run.2.commands ≠ [] → ∃ info, job.IsDiscovered info) ∧
      (∀ command ∈ job.run.2.commands, IsAnalysis command →
        ∃ info language, job.HasDatabase info language) ∧
      (∀ result, job.run.1 = .ok result ↔
        ∃ info language, job.IsAnalysed info language ∧ result = job.result info) ∧
      ∀ fault commands, (job.run.1 = .error fault ∧ job.run.2.commands = commands) ↔
        job.FirstFailure fault commands := by
  rcases job.firstFailure_or_isAnalysed with ⟨fault, commands, hFailure⟩ | ⟨info, language, hAll⟩
  · obtain ⟨hFault, hCommands⟩ := hFailure.run
    rw [hFault, hCommands]
    refine ⟨hFailure.exists_isDiscovered, fun _ => hFailure.exists_hasDatabase, ?_, ?_⟩
    · intro result
      refine ⟨nofun, ?_⟩
      rintro ⟨info, language, hAll, rfl⟩
      cases hFault.symm.trans hAll.run.1
    · intro other others
      constructor
      · rintro ⟨hSame, rfl⟩
        cases hSame
        exact hFailure
      · intro hOther
        exact ⟨hFault.symm.trans hOther.run.1, hCommands.symm.trans hOther.run.2⟩
  · obtain ⟨hResult, hCommands⟩ := hAll.run
    rw [hResult, hCommands]
    refine ⟨fun _ => ⟨info, hAll.hasDatabase.isDiscovered⟩,
      fun _ _ _ => ⟨info, language, hAll.hasDatabase⟩, ?_, ?_⟩
    · intro result
      constructor
      · intro hSame
        cases hSame
        exact ⟨info, language, hAll, rfl⟩
      · rintro ⟨other, otherLanguage, hOther, rfl⟩
        exact hResult.symm.trans hOther.run.1
    · intro fault commands
      refine ⟨nofun, ?_⟩
      intro hFailure
      cases hResult.symm.trans hFailure.run.1

end Stages

/-- A scan on a machine that fails to copy, and tells why in a text with a lone surrogate. -/
def strayJob : ScanJob Disk where
  host := { readyHost with
    clone := fun _ _ disk => (some (.serviceFailed [Utf8.strayByte 0xE9]), disk) }
  machine := readyDisk
  repository := "repository"
  path := "app"

/-- The scan does not end with the failure of the copy, but with that of the report on it. -/
theorem scan_goes_by_stages_stray :
    ∃ fault, strayJob.run.1 = .error fault ∧ strayJob.run.2.commands = [] ∧ fault.message =
      "'utf-8' codec can't encode character '\\udce9' in position 26: surrogates not allowed" := by
  have hFailure : strayJob.FirstFailure _ [] :=
    .copy (Text.sayable_ofString _) (Text.sayable_ofString _) rfl
  obtain ⟨-, -, -, hFails⟩ := scan_goes_by_stages strayJob
  obtain ⟨hFault, hCommands⟩ := (hFails _ _).2 hFailure
  exact ⟨_, hFault, hCommands, by decide +kernel⟩

end ScanJob

end RepoAudit
