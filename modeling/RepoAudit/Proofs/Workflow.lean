import RepoAudit.Proofs.CodeQL.Commands
import RepoAudit.Workflow

/-!
The commands of a scan. The database is made for the main language of the project, but its queries
are named after the counts of all extensions. Main statement: no scan that gets to its analysis
asks for the queries of the language for which its database was made.
-/
namespace RepoAudit

open Step CodeQL

variable {σ : Type}

/-- What follows the discovery of a project with the given counts of extensions. -/
def makeArtefacts [Output] (host : Host σ) (path : Text) (counts : List (Text × Json)) :
    Work σ (Text × Text) := do
  Work.say "Step 3: Building CodeQL database..."
  let database ← require (← buildDatabase host path counts)
    "CodeQL database creation failed" "Failed to create CodeQL database"
  Work.say "Step 4: Running CodeQL analysis..."
  let results ← require (← analyzeDatabase host database (Json.obj counts).display)
    "CodeQL analysis failed" "Failed to run CodeQL analysis"
  return (database, results)

/-- What follows the copy of a repository. -/
def scanCopy [Output] (host : Host σ) (path : Text) : Work σ ScanResult := do
  Work.say "Step 2: Running project discovery..."
  let (info, _) ← Step.attempt (Discovery.discover (← Work.disk host) path)
  Work.say ("Project discovery completed. Found info: " ++ (projectValue info).display)
  let (database, results) ← makeArtefacts host path (countValues info.languages)
  return ⟨info, database, results⟩

/-- A scan is a copy and then the scan of the copy. -/
theorem scanRepository_eq [Output] (host : Host σ) (repository path : Text) :
    scanRepository host repository path = (do
      Work.say ("Starting security scan workflow for repository: " ++ repository)
      Work.say "Step 1: Cloning repository..."
      let cloned ← cloneRepository host repository path
      require (if cloned then some () else none) "Repository cloning failed, stopping workflow"
        "Failed to clone repository"
      scanCopy host path) := by
  simp only [scanRepository, scanCopy, makeArtefacts, bind_assoc, pure_bind]

/-- The commands that are run for the artefacts of a project: none, the one that makes its database
for the main language, or this one and then the analysis. -/
inductive ArtefactCommands (path : Text) (counts : List (Text × Json))
    (before after : List (List Text)) : Prop
  | nothing (h : after = before)
  | database (language : Text) (hMain : mainLanguage counts = .ok (some language))
    (h : after = before ++ [createCommand path language])
  | analysis (language : Text) (hMain : mainLanguage counts = .ok (some language))
    (h : after = before ++ [createCommand path language,
      analyzeCommand (databasePath path) (Json.obj counts).display])

/-- A step that needs a result only reports if there is none. -/
theorem leads_require [Output] {α β : Type} {result : Option α} {line failure : Text}
    {next : α → Work σ β} {c : Console σ} {q : Except Fault β → Console σ → Prop}
    (hNone : ∀ fault d, Reports c d → q (.error fault) d)
    (hSome : ∀ a, result = some a → (next a).Leads c q) :
    (require result line failure >>= next).Leads c q := by
  rcases result with _ | a
  · unfold require
    simp only [bind_assoc]
    exact leads_say hNone fun d hLine => hNone _ d hLine
  · exact hSome a rfl

/-- The commands for artefacts, whether or not they succeed. -/
theorem makeArtefacts_commands [Output] (host : Host σ) (path : Text) (counts : List (Text × Json))
    (c : Console σ) : (makeArtefacts host path counts).Leads c fun _ d =>
      ArtefactCommands path counts c.commands d.commands := by
  refine leads_say (fun _ _ hLine => .nothing hLine.commands) fun d hFirst => ?_
  refine leads_bind_of (buildDatabase_built host path counts d) fun result e hBuilt => ?_
  rw [← hFirst.commands]
  cases hBuilt with
  | nothing hCommands hNone =>
      rcases result with fault | built
      · exact .nothing hCommands
      · refine leads_require (fun _ _ hLine => .nothing (hLine.commands.trans hCommands)) ?_
        intro found hFound
        exact absurd (congrArg Except.ok hFound) (hNone found)
  | command language hMain hCommands hFound =>
      rcases result with fault | built
      · exact .database language hMain hCommands
      · refine leads_require
          (fun _ _ hLine => .database language hMain (hLine.commands.trans hCommands))
          fun database hDatabase => ?_
        obtain rfl := hFound database (congrArg Except.ok hDatabase)
        refine leads_say
          (fun _ _ hLine => .database language hMain (hLine.commands.trans hCommands))
          fun f hSecond => ?_
        refine leads_bind_of (analyzeDatabase_commands host _ _ f) fun result g hRun => ?_
        have hAfter : ArtefactCommands path counts d.commands g.commands := by
          rw [hSecond.commands, hCommands] at hRun
          rcases hRun with hNone | hAnalysis
          · exact .database language hMain hNone
          · exact .analysis language hMain (by rw [hAnalysis, List.append_assoc]; rfl)
        rcases result with fault | results
        · exact hAfter
        · exact leads_require (fun _ _ hLine => hLine.commands ▸ hAfter) fun _ _ => hAfter

/-- Copying a repository runs no command, and leaves the machine as the copy does. -/
theorem cloneRepository_commands [Output] (host : Host σ) (repository path : Text) (c : Console σ) :
    (cloneRepository host repository path).Leads c fun result d => d.commands = c.commands ∧
      ∀ cloned, result = .ok cloned → d.machine = (host.clone repository path c.machine).2 := by
  refine leads_say (fun _ _ hLine => ⟨hLine.commands, nofun⟩) fun d hFirst => ?_
  obtain ⟨lines, rfl⟩ := hFirst
  refine leads_clone ?_
  split
  all_goals
    exact leads_say (fun _ _ hLine => ⟨hLine.commands, nofun⟩)
      fun e hSecond => ⟨hSecond.commands, fun _ _ => hSecond.machine⟩

/-- The commands of a scan: none, or those for the project that is discovered on a disk. -/
def ScanCommands [Output] (disk : Disk) (path : Text) (before after : List (List Text)) : Prop :=
  after = before ∨ ∃ info report, Discovery.discover disk path = .ok (info, report) ∧
    ArtefactCommands path (countValues info.languages) before after

/-- Of the commands on a copy, none is run before the project is discovered. -/
theorem scanCopy_commands [Output] (host : Host σ) (path : Text) (c : Console σ) :
    (scanCopy host path).Leads c fun _ d =>
      ScanCommands (host.disk c.machine) path c.commands d.commands := by
  refine leads_say (fun _ _ hLine => .inl hLine.commands) fun d hFirst => ?_
  obtain ⟨lines, rfl⟩ := hFirst
  refine leads_get ?_
  refine leads_attempt (fun found hFound => ?_) fun _ _ => .inl rfl
  refine leads_say (fun _ _ hLine => .inl hLine.commands) fun d hSecond => ?_
  refine leads_bind_of (makeArtefacts_commands host path _ d) fun result e hCommands => ?_
  rw [hSecond.commands] at hCommands
  have hAll : ScanCommands (host.disk c.machine) path c.commands e.commands :=
    .inr ⟨found.1, found.2, hFound, hCommands⟩
  rcases result with fault | artefacts
  · exact hAll
  · exact hAll

/-- A scan runs commands only for the project that is discovered in the copy of its repository. -/
theorem scanRepository_commands [Output] (host : Host σ) (repository path : Text) (c : Console σ) :
    (scanRepository host repository path).Leads c fun _ d =>
      ScanCommands (host.disk (host.clone repository path c.machine).2) path c.commands
        d.commands := by
  rw [scanRepository_eq]
  refine leads_say (fun _ _ hLine => .inl hLine.commands) fun d hFirst => ?_
  refine leads_say (fun _ _ hLine => .inl (hFirst.trans hLine).commands) fun e hSecond => ?_
  have hStart := hFirst.trans hSecond
  refine leads_bind_of (cloneRepository_commands host repository path e) fun result f hClone => ?_
  have hNothing : f.commands = c.commands := hClone.1.trans hStart.commands
  rcases result with fault | cloned
  · exact .inl hNothing
  refine leads_require (fun _ _ hLine => .inl (hLine.commands.trans hNothing)) fun _ _ => ?_
  have hCopy := scanCopy_commands host path f
  rwa [hClone.2 cloned rfl, hStart.machine, hNothing] at hCopy

def queryPack (language : Text) : Text := "codeql/" ++ language ++ "-queries"

/-- The queries tell the language. -/
theorem queryPack_injective : Function.Injective queryPack := by
  intro first second h
  exact List.append_cancel_left (List.append_cancel_right h)

def IsAnalysis (command : List Text) : Prop :=
  command.take 3 = [("codeql" : Text), "database", "analyze"]
deriving Decidable

/-- No main language is shown like counts, which begin with a brace. -/
theorem mainLanguage_ne_counts {counts : List (Text × Json)} {language : Text}
    (h : mainLanguage counts = .ok (some language)) (other : List (Text × Json)) :
    (Json.obj other).display ≠ language := by
  have hNames : ∀ name ∈ extensions.map Prod.snd, name.head? ≠ some (.char '\x7b') := by decide
  rintro rfl
  exact hNames _ (mainLanguage_mem h) rfl

/-- Whenever a scan runs the command that analyses a database, the only other command was to make
that database for the main language of the project that was discovered in the copy. The pack of
queries is named after the counts of all extensions of the project, and is never that of the main
language. -/
theorem scan_queries_not_for_main_language [Output] (host : Host σ) (repository path : Text)
    (machine : σ) (command : List Text)
    (hCommand : command ∈
      ((scanRepository host repository path).perform ⟨machine, [], []⟩).2.commands)
    (hAnalysis : IsAnalysis command) :
    ∃ info report language,
      Discovery.discover (host.disk (host.clone repository path machine).2) path =
        .ok (info, report) ∧
      mainLanguage (countValues info.languages) = .ok (some language) ∧
      ((scanRepository host repository path).perform ⟨machine, [], []⟩).2.commands =
        [createCommand path language, command] ∧
      command.getLast? = some (queryPack (Json.obj (countValues info.languages)).display) ∧
      command.getLast? ≠ some (queryPack language) := by
  have hCreate (language : Text) : ¬IsAnalysis (createCommand path language) := by
    have hName : (createCommand path language).take 3 =
      [("codeql" : Text), "database", "create"] := rfl
    rw [IsAnalysis, hName]
    decide
  have hCommands := scanRepository_commands host repository path ⟨machine, [], []⟩
  rw [Leads] at hCommands
  rcases hCommands with hNone | ⟨info, report, hInfo, hArtefacts⟩
  · rw [hNone] at hCommand
    cases hCommand
  cases hArtefacts with
  | nothing h =>
      rw [h] at hCommand
      cases hCommand
  | database language _ h =>
      rw [h, List.nil_append, List.mem_singleton] at hCommand
      exact absurd (hCommand ▸ hAnalysis) (hCreate language)
  | analysis language hMain h =>
      rw [h, List.nil_append] at hCommand
      rcases List.mem_cons.1 hCommand with rfl | hLast
      · exact absurd hAnalysis (hCreate language)
      rw [List.mem_singleton] at hLast
      subst hLast
      refine ⟨info, report, language, hInfo, hMain, h, rfl, fun hPack => ?_⟩
      have hSame := queryPack_injective (Option.some.inj hPack)
      exact mainLanguage_ne_counts hMain _ hSame

/-- A machine on which everything is there already and nothing changes. -/
def readyHost : Host Disk where
  run _ disk := (.finished [], disk)
  clone _ _ disk := (none, disk)
  disk := id

/-- A project with one source, next to its artefacts. -/
def readyDisk : Disk := ⟨.directory [("app", .directory [
  ("app-analysis.sarif", .file []), ("app_db", .directory []), ("main.py", .file [])])], []⟩

/-- The counts of the extensions of that project, as they are shown. -/
def readyCounts : Text := "\x7b'.sarif': 1, '.py': 1\x7d"

/-- The database is made for Python, and the queries are those of its counts. -/
theorem scan_queries_not_for_main_language_python :
    ((scanRepository readyHost "repository" "app").perform ⟨readyDisk, [], []⟩).2.commands =
      [createCommand "app" "python", analyzeCommand "app/app_db" readyCounts] ∧
    IsAnalysis (analyzeCommand "app/app_db" readyCounts) ∧
    (analyzeCommand "app/app_db" readyCounts).getLast? ≠ some (queryPack "python") := by
  have hCommands :
      ((scanRepository readyHost "repository" "app").perform ⟨readyDisk, [], []⟩).2.commands =
        [createCommand "app" "python", analyzeCommand "app/app_db" readyCounts] := by
    decide +kernel
  have hAnalysis : IsAnalysis (analyzeCommand "app/app_db" readyCounts) := rfl
  obtain ⟨-, -, language, -, -, hRun, -, hPack⟩ := scan_queries_not_for_main_language readyHost
    "repository" "app" readyDisk _ (hCommands ▸ by simp) hAnalysis
  have hCreate : createCommand "app" language = createCommand "app" "python" :=
    (List.cons.inj (hRun.symm.trans hCommands)).1
  have hLanguage : Text.ofString "--language=" ++ language = "--language=" ++ "python" :=
    congrArg (fun command => command.getD 3 []) hCreate
  rw [List.append_cancel_left hLanguage] at hPack
  exact ⟨hCommands, hAnalysis, hPack⟩

end RepoAudit
