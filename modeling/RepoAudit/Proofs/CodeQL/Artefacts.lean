import RepoAudit.Proofs.CodeQL.Commands
import RepoAudit.Proofs.Path

/-!
Where the artefacts of a project lie. The analysis knows only the path of the database, and finds
the directory of the project from there. Main statement: it finds the right one, however the path
of the project is written, so the results lie in the project and carry its name.
-/
namespace RepoAudit.CodeQL

open RepoAudit.Path Step

variable {σ : Type} {project : Text}

/-- A file that is named after a path has no slash in its name. -/
theorem slash_not_mem_file (path : Text) {ending : Text} (h : slash ∉ ending) :
    slash ∉ baseName path ++ ending := by
  obtain ⟨-, -, -, hName⟩ := exists_front path
  rw [List.mem_append, not_or]
  exact ⟨hName, h⟩

/-- The database of a project stands in its directory and is named after it. -/
theorem databasePath_of_getLast? (hProject : project ≠ [])
    (hLast : project.getLast? ≠ some slash) :
    databasePath project = project ++ slash :: (baseName project ++ "_db") :=
  join_of_not_mem hProject hLast (slash_not_mem_file project (by decide))

/-- After a slash at the end of its path, the name of a project is empty. -/
theorem databasePath_concat (path : Text) :
    databasePath (path ++ [slash]) = path ++ slash :: Text.ofString "_db" := by
  have hName : baseName (path ++ [slash]) = [] := by
    have hFront := @baseName_append (path ++ [slash]) [] (.inr ⟨path, rfl⟩) List.not_mem_nil
    rwa [List.append_nil] at hFront
  rw [databasePath, hName, List.nil_append, join_concat (by decide)]

/-- The database lies in the project. -/
theorem directoryName_databasePath (hNamed : ∃ p ∈ project, p ≠ slash) :
    directoryName (databasePath project) = trimmed project := by
  by_cases hLast : project.getLast? = some slash
  · obtain ⟨path, rfl⟩ := List.getLast?_eq_some_iff.1 hLast
    have hPath : ∃ p ∈ path, p ≠ slash := by
      obtain ⟨p, hMember, hOther⟩ := hNamed
      exact ⟨p, by simpa [hOther] using hMember, hOther⟩
    rw [databasePath_concat, directoryName_append hPath (by decide), trimmed_concat]
  · have hProject : project ≠ [] := by
      rintro rfl
      simp at hNamed
    rw [databasePath_of_getLast? hProject hLast,
      directoryName_append hNamed (slash_not_mem_file project (by decide))]

def resultsIn (directory : Text) : Text :=
  directory ++ slash :: (baseName directory ++ "-analysis.sarif")

/-- Slashes at the end of a project's path do not change where the results lie. -/
theorem resultsPath_databasePath (hNamed : ∃ p ∈ project, p ≠ slash) :
    resultsPath (databasePath project) = resultsIn (trimmed project) := by
  rw [resultsPath, directoryName_databasePath hNamed]
  exact join_of_not_mem (trimmed_ne_nil hNamed) (getLast?_trimmed project)
    (slash_not_mem_file (trimmed project) (by decide))

/-- The results lie in the project as well. -/
theorem directoryName_resultsIn (hNamed : ∃ p ∈ project, p ≠ slash) :
    directoryName (resultsIn (trimmed project)) = trimmed project := by
  have hFile : slash ∉ baseName (trimmed project) ++ Text.ofString "-analysis.sarif" :=
    slash_not_mem_file (trimmed project) (by decide)
  rw [resultsIn, directoryName_append (exists_mem_trimmed hNamed) hFile, trimmed_trimmed]

/-- The directory of a project and its name, as its path is made of them. -/
theorem exists_parent (hNamed : ∃ p ∈ project, p ≠ slash) :
    ∃ parent slashes, project = parent ++ baseName (trimmed project) ++ slashes ∧
      trimmed project = parent ++ baseName (trimmed project) ∧ IsFront parent ∧
      baseName (trimmed project) ≠ [] ∧ slash ∉ baseName (trimmed project) ∧
      ∀ p ∈ slashes, p = slash := by
  obtain ⟨parent, hParent, hDirectory, hName⟩ := exists_front (trimmed project)
  have hWhole : project = trimmed project ++ project.rtakeWhile (· == slash) :=
    List.rdropWhile_append_rtakeWhile.symm
  rw [hDirectory] at hWhole
  refine ⟨parent, _, hWhole, hDirectory, hParent, ?_, hName, ?_⟩
  · intro hEmpty
    rw [hEmpty, List.append_nil] at hDirectory
    rcases hParent with rfl | ⟨path, rfl⟩
    · exact trimmed_ne_nil hNamed hDirectory
    · exact getLast?_trimmed project (by rw [hDirectory]; simp)
  · intro p hMember
    have hSlash := List.mem_rtakeWhile_imp hMember
    exact eq_of_beq hSlash

/-- Every command that was run from one console to the next names a path. -/
def NewCommands (names : List Text → Prop) (c d : Console σ) : Prop :=
  ∀ command ∈ d.commands, command ∈ c.commands ∨ names command

theorem newCommands_of_eq {names : List Text → Prop} {c d : Console σ}
    (h : d.commands = c.commands) : NewCommands names c d := by
  intro command hMember
  rw [h] at hMember
  exact .inl hMember

theorem newCommands_of_append {names : List Text → Prop} {c d : Console σ} {command : List Text}
    (h : d.commands = c.commands ++ [command]) (hNames : names command) :
    NewCommands names c d := by
  intro other hMember
  rw [h, List.mem_append, List.mem_singleton] at hMember
  rcases hMember with hOld | rfl
  · exact .inl hOld
  · exact .inr hNames

/-- Making a database names its path. -/
theorem buildDatabase_names [Output] (host : Host σ) (project : Text) (counts : List (Text × Json))
    (c : Console σ) : (buildDatabase host project counts).Leads c fun result d =>
      NewCommands (fun command => command.getLast? = some (databasePath project)) c d ∧
        ∀ database, result = .ok (some database) → database = databasePath project := by
  refine (buildDatabase_built host project counts c).imp fun result d hBuilt => ?_
  cases hBuilt with
  | nothing hCommands hNone =>
      exact ⟨newCommands_of_eq hCommands, fun database hFound => absurd hFound (hNone database)⟩
  | command language hMain hCommands hFound => exact ⟨newCommands_of_append hCommands rfl, hFound⟩

/-- Analysing a database names the path of its results. -/
theorem analyzeDatabase_names [Output] (host : Host σ) (database language : Text) (c : Console σ) :
    (analyzeDatabase host database language).Leads c fun result d =>
      NewCommands ("--output=" ++ resultsPath database ∈ ·) c d ∧
        ∀ results, result = .ok (some results) → results = resultsPath database := by
  refine (analyzeDatabase_analysed host database language c).imp fun result d hAnalysed => ?_
  refine ⟨?_, hAnalysed.2⟩
  rcases hAnalysed.1 with hSame | hRun
  · exact newCommands_of_eq hSame
  · exact newCommands_of_append hRun (by simp [analyzeCommand])

/-- The artefacts of a project whose path is not made of slashes alone. Its directory is the path
without the slashes at the end, and its name is the last part of that. The results lie in the
directory and carry the name. So does the database, but its name is cut where slashes follow. These
are the paths that the commands get and that are returned, whatever the machine answers. -/
theorem artefacts_lie_in_project [Output] (host : Host σ) {project : Text}
    (hNamed : ∃ p ∈ project, p ≠ slash) :
    (∃ parent slashes, project = parent ++ baseName (trimmed project) ++ slashes ∧
      trimmed project = parent ++ baseName (trimmed project) ∧ IsFront parent ∧
      baseName (trimmed project) ≠ [] ∧ slash ∉ baseName (trimmed project) ∧
      ∀ p ∈ slashes, p = slash) ∧
    resultsPath (databasePath project) =
      trimmed project ++ slash :: (baseName (trimmed project) ++ "-analysis.sarif") ∧
    (project.getLast? ≠ some slash →
      databasePath project = project ++ slash :: (baseName project ++ "_db")) ∧
    directoryName (databasePath project) = trimmed project ∧
    directoryName (resultsPath (databasePath project)) = trimmed project ∧
    ∀ counts c, (buildDatabase host project counts).Leads c fun built d =>
      NewCommands (fun command => command.getLast? = some (databasePath project)) c d ∧
      ∀ database, built = .ok (some database) → database = databasePath project ∧
        ∀ language e, (analyzeDatabase host database language).Leads e fun analysed f =>
          NewCommands ("--output=" ++ resultsPath (databasePath project) ∈ ·) e f ∧
          ∀ results, analysed = .ok (some results) →
            results = resultsPath (databasePath project) := by
  have hProject : project ≠ [] := by
    rintro rfl
    simp at hNamed
  refine ⟨exists_parent hNamed, resultsPath_databasePath hNamed,
    databasePath_of_getLast? hProject, directoryName_databasePath hNamed, ?_, fun counts c => ?_⟩
  · rw [resultsPath_databasePath hNamed, directoryName_resultsIn hNamed]
  · refine (buildDatabase_names host project counts c).imp fun built d hBuilt => ?_
    refine ⟨hBuilt.1, fun database hDatabase => ?_⟩
    obtain rfl := hBuilt.2 database hDatabase
    exact ⟨rfl, analyzeDatabase_names host (databasePath project)⟩

/-- A machine on which commands do nothing. -/
def idleHost : Host Unit where
  run _ _ := (.finished [], ())
  clone _ _ _ := (none, ())
  disk _ := ⟨.directory [], []⟩

/-- Slashes at the end of its path leave the name of a project to its results, but not to its
database. -/
theorem artefacts_lie_in_project_slashes :
    ((∃ p ∈ Text.ofString "srv//app//", p ≠ slash) ∧
      databasePath "srv//app//" = "srv//app//_db" ∧
      resultsPath (databasePath "srv//app//") = "srv//app/app-analysis.sarif") ∧
    (∃ p ∈ Text.ofString "/app", p ≠ slash) ∧
      (Text.ofString "/app").getLast? ≠ some slash ∧ databasePath "/app" = "/app/app_db" := by
  have hSlashes : ∃ p ∈ Text.ofString "srv//app//", p ≠ slash := by decide
  have hPlain : ∃ p ∈ Text.ofString "/app", p ≠ slash := by decide
  have hLast : (Text.ofString "/app").getLast? ≠ some slash := by decide
  refine ⟨⟨hSlashes, by decide, ?_⟩, hPlain, hLast, ?_⟩
  · rw [(artefacts_lie_in_project idleHost hSlashes).2.1]
    decide
  · rw [(artefacts_lie_in_project idleHost hPlain).2.2.1 hLast]
    decide

end RepoAudit.CodeQL
