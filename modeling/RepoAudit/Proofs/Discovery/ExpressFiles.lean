import RepoAudit.Proofs.Discovery.Project
import RepoAudit.Proofs.Path

/-!
The files that are analysed for Express. A directory counts by its name between slashes, so the
first directory on a path does not count. Main statement: which files are handed over, told by the
directories on their paths, and that the report announces them one after the other.
-/
namespace RepoAudit.Discovery

open Step

/-- What makes a file one of those that are analysed for Express. -/
structure IsSelected (file : Text) : Prop where
  script : Text.ofString ".js" <:+ file ∨ Text.ofString ".ts" <:+ file
  noTest : ¬Text.ofString "test" <+: file
  noSpec : ¬Text.ofString "spec." <:+: file
  outsideTests : Text.ofString "tests" ∉ Path.directories file
  outsideFrontend : Text.ofString "frontend" ∉ (Path.directories file).tail
  place : Text.ofString "routes" ∈ (Path.directories file).tail ∨
    Text.ofString "app.ts" <:+: file ∨ Text.ofString "server.ts" <:+: file

/-- The search for names between slashes is a condition on the directories of a path. -/
theorem isExpressFile_iff {file : Text} : isExpressFile file = true ↔ IsSelected file := by
  have hTests : Text.ofString "/tests/" <:+: file ↔
      Text.ofString "tests" ∈ (Path.directories file).tail :=
    @Path.between_slashes_iff file "tests" (by decide)
  have hFrontend : Text.ofString "/frontend/" <:+: file ↔
      Text.ofString "frontend" ∈ (Path.directories file).tail :=
    @Path.between_slashes_iff file "frontend" (by decide)
  have hRoutes : Text.ofString "/routes/" <:+: file ↔
      Text.ofString "routes" ∈ (Path.directories file).tail :=
    @Path.between_slashes_iff file "routes" (by decide)
  simp only [isExpressFile, endsWith, holdsAny, List.any_cons, List.any_nil, Bool.or_false,
    Bool.and_eq_true, Bool.or_eq_true, Bool.not_eq_true', ← Bool.not_eq_true,
    List.isSuffixOf_iff_suffix, List.isPrefixOf_iff_prefix, occursIn_iff, hTests, hFrontend,
    hRoutes, not_or]
  constructor
  · rintro ⟨⟨⟨hScript, hTest⟩, hNotTests, hNotFrontend, hSpec⟩, hPlace⟩
    refine ⟨hScript, hTest, hSpec, fun hMember => ?_, hNotFrontend, hPlace⟩
    rcases Path.prefix_of_mem_directories hMember with hInner | hFirst
    · exact hNotTests hInner
    · have hTest' : Text.ofString "test" <+: Text.ofString "tests" := by decide
      exact hTest (hTest'.trans hFirst)
  · intro h
    exact ⟨⟨⟨h.script, h.noTest⟩, fun hInner => h.outsideTests (List.mem_of_mem_tail hInner),
      h.outsideFrontend, h.noSpec⟩, h.place⟩

/-- A script below a directory for routes that is no test and not part of a frontend. -/
structure IsRouteScript (file : Text) : Prop where
  script : Text.ofString ".js" <:+ file ∨ Text.ofString ".ts" <:+ file
  noTest : ¬Text.ofString "test" <+: file
  noSpec : ¬Text.ofString "spec." <:+: file
  outsideTests : Text.ofString "tests" ∉ Path.directories file
  outsideFrontend : Text.ofString "frontend" ∉ Path.directories file
  belowRoutes : Text.ofString "routes" ∈ Path.directories file

/-- A script below routes is left out if these are its first directory only, unless its path names
one of the scripts that start an application. -/
theorem IsRouteScript.isSelected_iff {file : Text} (h : IsRouteScript file) : IsSelected file ↔
    Text.ofString "routes" ∈ (Path.directories file).tail ∨ Text.ofString "app.ts" <:+: file ∨
      Text.ofString "server.ts" <:+: file := by
  refine ⟨IsSelected.place, fun hPlace => ?_⟩
  exact ⟨h.script, h.noTest, h.noSpec, h.outsideTests,
    fun hInner => h.outsideFrontend (List.mem_of_mem_tail hInner), hPlace⟩

/-- The files whose analysis is announced in a report, in their order. -/
def announced (lines : List Text) : List Text := lines.filterMap (dropLead? "\nAnalyzing file: ")

theorem announced_append (lines more : List Text) :
    announced (lines ++ more) = announced lines ++ announced more := List.filterMap_append

theorem announced_singleton (file : Text) :
    announced [Text.ofString "\nAnalyzing file: " ++ file] = [file] := by
  rw [announced, List.filterMap_cons_some (dropLead?_eq_some.2 rfl), List.filterMap_nil]

/-- A line with text at its start announces nothing: announcements are set off by an empty line. -/
theorem announced_quiet {line : Text} {first : Char} (hHead : line.head? = some (.char first))
    (hFirst : first ≠ '\n') : announced [line] = [] := by
  rw [announced, List.filterMap_cons_none, List.filterMap_nil]
  refine Option.eq_none_iff_forall_ne_some.2 fun file hFile => hFirst ?_
  rw [dropLead?_eq_some.1 hFile] at hHead
  cases hHead
  rfl

section Report

open Express

theorem foldl_noteRoute_lines (names : List Text) (s : Express.State) :
    (names.foldl noteRoute s).analysis.lines = s.analysis.lines := by
  induction names generalizing s with
  | nil => rfl
  | cons name names ih => exact ih (noteRoute s name)

/-- The search of a source prints nothing. -/
theorem scan_lines (source : Text) (s : Express.State) :
    (scan source s).analysis.lines = s.analysis.lines := by
  rw [scan_eq]
  exact foldl_noteRoute_lines _ s

variable [Output]

/-- Lines are announcements or not, and only those that can be printed count. -/
theorem say_announces (line : Text) (s : Express.State) :
    (Express.say line).Leads s fun _ after => announced after.analysis.lines =
      announced s.analysis.lines ++ if line.Sayable then announced [line] else [] := by
  rcases say_cases line s with ⟨hLine, hSay⟩ | ⟨hLine, fault, hSay⟩
  · rw [Leads, hSay, if_pos hLine]
    exact announced_append _ _
  · rw [Leads, hSay, if_neg hLine, List.append_nil]

/-- The files that were announced so far. -/
def HasAnnounced (files : List Text) (s : Express.State) : Prop :=
  announced s.analysis.lines = files

variable {files : List Text} {s : Express.State}

/-- A line that starts with no line feed announces nothing. -/
theorem say_quiet {line : Text} {first : Char} (hHead : line.head? = some (.char first))
    (hFirst : first ≠ '\n') (h : HasAnnounced files s) :
    (Express.say line).Leads s fun _ => HasAnnounced files := by
  refine (say_announces line s).imp fun _ after hSaid => ?_
  rw [HasAnnounced, hSaid, announced_quiet hHead hFirst, ite_self, List.append_nil, h]

/-- The analysis of a source announces nothing. -/
theorem analyze_quiet (source path : Text) (h : HasAnnounced files s) :
    (Express.analyze (.str source) path).Leads s fun _ => HasAnnounced files := by
  refine leads_bind_keep (say_quiet rfl (by decide) h) fun _ middle hMiddle => leads_modify ?_
  refine say_quiet rfl (by decide) ?_
  rwa [HasAnnounced, scan_lines]

/-- The analysis of a file is announced, and nothing else is, whether it can be read or not. -/
theorem analyzeExpressFile_announces (disk : Disk) (start file : Text) (h : HasAnnounced files s) :
    (analyzeExpressFile disk start file).Leads s fun _ =>
      HasAnnounced (files ++ if file.Sayable then [file] else []) := by
  have hSaid : (Express.say ("\nAnalyzing file: " ++ file)).Leads s fun _ =>
      HasAnnounced (files ++ if file.Sayable then [file] else []) := by
    refine (say_announces _ s).imp fun _ after hAfter => ?_
    rw [HasAnnounced, hAfter, h, announced_singleton]
    simp
  refine leads_bind_keep hSaid fun _ middle hMiddle => leads_tryCatch ?_
  refine (leads_attempt (q := fun _ => HasAnnounced _)
    (fun source _ => analyze_quiet source _ hMiddle) fun _ _ => hMiddle).imp
    fun result after hAfter => ?_
  cases result with
  | ok _ => exact hAfter
  | error fault => exact say_quiet rfl (by decide) hAfter

/-- The files are announced up to the first whose name cannot be printed. -/
theorem analyzeExpressFiles_announces (disk : Disk) {start : Text} (hStart : start.Sayable)
    (selected : List Text) (h : HasAnnounced files s) :
    (selected.forM (analyzeExpressFile disk start)).Leads s fun _ =>
      HasAnnounced (files ++ selected.takeWhile fun file => file.Sayable) := by
  induction selected generalizing files s with
  | nil => exact h.trans (List.append_nil _).symm
  | cons file selected ih =>
      have hPass := analyzeExpressFile_passes disk hStart file s
      have hFirst := analyzeExpressFile_announces disk start file h
      refine leads_bind ?_
      unfold Leads at hPass hFirst ⊢
      generalize (analyzeExpressFile disk start file).perform s = outcome at hPass hFirst ⊢
      rcases outcome with ⟨fault | _, middle⟩
      · have hUnfit : ¬file.Sayable := fun hFile => by cases hPass.1.2 hFile
        simpa [hUnfit] using hFirst
      · have hFile : file.Sayable := hPass.1.1 rfl
        have hRest := ih hFirst
        simpa [hFile, Leads] using hRest

end Report

/-- Only the analysis for Express announces files, and it stops at the first name that cannot be
printed. -/
theorem analyzeFramework_announces [Output] (disk : Disk) {start : Text} (hStart : start.Sayable)
    (files : List Text) (framework : Text) :
    announced (analyzeFramework disk start files framework).2 = if framework = "express" then
      (files.filter isExpressFile).takeWhile fun file => file.Sayable else [] := by
  by_cases hExpress : framework = "express"
  · subst hExpress
    have hKind : Analyzer.forFramework? "express" = some .express := by decide
    have hFiles := analyzeExpressFiles_announces disk hStart (files.filter isExpressFile)
      (rfl : HasAnnounced [] {})
    simp only [analyzeFramework, hKind, if_pos]
    generalize files.filter isExpressFile = selected at hFiles ⊢
    unfold Leads at hFiles
    generalize Step.perform _ ({} : Express.State) = outcome at hFiles ⊢
    rcases outcome with ⟨fault | _, s⟩
    · dsimp only
      rw [announced_append, announced_quiet rfl (by decide), List.append_nil]
      exact hFiles
    · exact hFiles
  · rw [analyzeFramework_of_ne disk start files hExpress, if_neg hExpress]
    rfl

variable {disk : Disk} {path : Text} {info : ProjectInfo} {report : List Text}

/-- The report of a discovery is made of the reports of the frameworks it found. -/
theorem discover_fileTree_report [Output] (h : discover disk path = .ok (info, report)) :
    info.fileTree = fileTree disk path ∧
      report = (info.frameworks.map (analyzeFramework disk path (fileTree disk path))).flatMap
        (·.2) := by
  rw [discover_of_nameable (nameable_of_discover h)] at h
  generalize Step.perform _ _ = outcome at h
  rcases outcome with ⟨fault | _, detection⟩
  · cases h
  · cases h
    exact ⟨rfl, rfl⟩

/-- The report announces the files for Express, up to the first whose name cannot be printed. -/
theorem mem_announced_iff [Output] (h : discover disk path = .ok (info, report)) (file : Text) :
    file ∈ announced report ↔ Text.ofString "express" ∈ info.frameworks ∧
      file ∈ (expressFiles disk path).takeWhile fun file => file.Sayable := by
  have hEach (framework : Text) := analyzeFramework_announces disk (nameable_of_discover h).1
    (fileTree disk path) framework
  have hReport : announced report = info.frameworks.flatMap fun framework =>
      announced (analyzeFramework disk path (fileTree disk path) framework).2 := by
    rw [(discover_fileTree_report h).2, announced, List.flatMap_map, List.filterMap_flatMap]
    rfl
  rw [hReport, List.mem_flatMap]
  constructor
  · rintro ⟨framework, hFramework, hFile⟩
    rw [hEach] at hFile
    split at hFile
    · next hExpress => exact ⟨hExpress ▸ hFramework, hFile⟩
    · cases hFile
  · rintro ⟨hExpress, hFile⟩
    refine ⟨_, hExpress, ?_⟩
    rwa [hEach, if_pos rfl]

/-- The files of a project that are analysed for Express. A script below a directory for routes is
one of them if that directory is not the first on its path, and otherwise only if its path holds the
name of a main file. None lies below tests, and none below a frontend unless that is the first
directory on its path. If the project uses Express they are announced, up to the first whose name
cannot be printed. -/
theorem discover_hands_over [Output] (h : discover disk path = .ok (info, report)) :
    (∀ file, file ∈ expressFiles disk path ↔ file ∈ info.fileTree ∧ IsSelected file) ∧
    (∀ file ∈ info.fileTree, IsRouteScript file → (file ∈ expressFiles disk path ↔
      Text.ofString "routes" ∈ (Path.directories file).tail ∨ Text.ofString "app.ts" <:+: file ∨
        Text.ofString "server.ts" <:+: file)) ∧
    (∀ file ∈ expressFiles disk path, Text.ofString "tests" ∉ Path.directories file ∧
      Text.ofString "frontend" ∉ (Path.directories file).tail) ∧
    ∀ file, file ∈ announced report ↔ Text.ofString "express" ∈ info.frameworks ∧
      file ∈ (expressFiles disk path).takeWhile fun file => file.Sayable := by
  have hSelected (file : Text) :
      file ∈ expressFiles disk path ↔ file ∈ info.fileTree ∧ IsSelected file := by
    rw [expressFiles, List.mem_filter, isExpressFile_iff, (discover_fileTree_report h).1]
  refine ⟨hSelected, fun file hFile hRoute => ?_, fun file hFile => ?_, mem_announced_iff h⟩
  · rw [hSelected, ← hRoute.isSelected_iff]
    exact and_iff_right hFile
  · have hParts := ((hSelected file).1 hFile).2
    exact ⟨hParts.outsideTests, hParts.outsideFrontend⟩

/-- Discovery succeeds if the manifest can be used. -/
theorem exists_discover [Output] {content : Text} {manifest : Json} {found : List Text}
    (hPath : path.Nameable) (hContent : manifestText disk path = .ok content)
    (hRead : Json.read content = .ok manifest) (hFound : manifestFrameworks manifest = .ok found) :
    ∃ info report, discover disk path = .ok (info, report) ∧
      (Text.ofString "express" ∈ info.frameworks ↔ dependsOn manifest "express" = true) := by
  have hUsable : ∀ text, manifestText disk path = .ok text → ¬Unusable text := by
    intro text hText
    rw [hContent] at hText
    cases hText
    rintro (⟨count, hDigits⟩ | ⟨other, hOther, hShape⟩)
    · rw [hRead] at hDigits
      cases hDigits
    · rw [hRead] at hOther
      cases hOther
      obtain ⟨fault, hFault⟩ := manifestFrameworks_fails_iff.2 hShape
      rw [hFound] at hFault
      cases hFault
  cases hOut : discover disk path with
  | error fault =>
      rcases discover_fails_iff.1 ⟨fault, hOut⟩ with hNot | ⟨text, hText, hUnusable⟩
      · exact absurd hPath hNot
      · exact absurd hUnusable (hUsable text hText)
  | ok result =>
      refine ⟨result.1, result.2, rfl, ?_⟩
      rw [discover_indicated hOut, indicated_express_iff _ hUsable]
      simp [hContent, hRead]

/-- A project that uses Express and has directories for routes at its top and in its frontend. -/
def routesDisk : Disk := ⟨.directory [
  ("frontend", .directory [("routes", .directory [("a.js", .file [])])]),
  ("package.json", .file "\x7b\"dependencies\":\x7b\"express\":\"4\"\x7d\x7d".toUTF8.toList),
  ("routes", .directory [("users.js", .file [])])], []⟩

/-- The script at the top is left out, although it lies below a directory for routes, and the one in
the frontend is analysed. -/
theorem discover_hands_over_first : ∃ info report,
    discover routesDisk "/" = .ok (info, report) ∧
    Text.ofString "express" ∈ info.frameworks ∧
    Text.ofString "routes/users.js" ∈ info.fileTree ∧ IsRouteScript "routes/users.js" ∧
    Text.ofString "routes/users.js" ∉ expressFiles routesDisk "/" ∧
    Text.ofString "frontend" ∈ Path.directories "frontend/routes/a.js" ∧
    Text.ofString "frontend/routes/a.js" ∈ expressFiles routesDisk "/" ∧
    ∀ file, file ∈ announced report ↔ file = "frontend/routes/a.js" := by
  have hContent : manifestText routesDisk "/" =
    .ok "\x7b\"dependencies\":\x7b\"express\":\"4\"\x7d\x7d" := by decide +kernel
  have hRead : Json.read "\x7b\"dependencies\":\x7b\"express\":\"4\"\x7d\x7d" =
    .ok (.obj [("dependencies", .obj [("express", .str "4")])]) :=
    Json.read_eq_of_agrees (by decide +kernel)
  have hTree : fileTree routesDisk "/" = [Text.ofString "package.json", "frontend/routes/a.js",
    "routes/users.js"] := by decide +kernel
  have hPath : (Text.ofString "/").Nameable := ⟨Text.sayable_ofString "/", by decide⟩
  obtain ⟨info, report, hFound, hFramework⟩ := exists_discover hPath hContent hRead rfl
  have hExpress := hFramework.2 (by decide)
  obtain ⟨hSelected, hRoutes, -, hAnnounced⟩ := discover_hands_over hFound
  have hFiles : info.fileTree = fileTree routesDisk "/" := (discover_fileTree_report hFound).1
  rw [hTree] at hFiles
  have hScript : IsRouteScript "routes/users.js" :=
    ⟨by decide, by decide, by decide, by decide, by decide, by decide⟩
  have hFrontend : IsSelected "frontend/routes/a.js" :=
    ⟨by decide, by decide, by decide, by decide, by decide, by decide⟩
  have hMember : Text.ofString "routes/users.js" ∈ info.fileTree := by simp [hFiles]
  have hMember' : Text.ofString "frontend/routes/a.js" ∈ info.fileTree := by simp [hFiles]
  refine ⟨info, report, hFound, hExpress, hMember, hScript, ?_, by decide,
    (hSelected _).2 ⟨hMember', hFrontend⟩, ?_⟩
  · rw [hRoutes _ hMember hScript]
    decide
  · intro file
    have hChosen : expressFiles routesDisk "/" = [Text.ofString "frontend/routes/a.js"] := by
      rw [expressFiles, hTree]
      decide
    rw [hAnnounced, hChosen]
    simp [hExpress]

end RepoAudit.Discovery
