import RepoAudit.Discovery.Project
import RepoAudit.Proofs.Discovery.Inventory
import RepoAudit.Proofs.Express.Document
import RepoAudit.Proofs.Json.Agreement

/-!
The discovery of a project. Main statements: which projects cannot be discovered, and for which of
them there is an analysis of Express.
-/
namespace RepoAudit.Discovery

open Step

variable {disk : Disk} {path : Text}

section Analysis

open Express

variable [Output] {start : Text}

/-- A line passes if it can be printed, and gains nothing. -/
theorem say_passes (line : Text) : (Express.say line).Passes line.Sayable (Gains False) := by
  intro s
  apply (say_leads line s).imp
  intro result after hSaid
  have hPrints := hSaid.2
  refine ⟨hSaid.1, fun _ => ⟨fun hSome => ?_, fun _ hNew => ?_⟩⟩
  · rw [hPrints.flows]
    exact hSome.resolve_left id
  · exact ⟨hPrints.entryPoints.trans hNew.entryPoints, hPrints.flows.trans hNew.flows,
      hPrints.route.trans hNew.route⟩

/-- The analysis of a source gains something exactly if a route or middleware stands in it. -/
theorem analyze_passes (source : Text) {file : Text} (hFile : file.Sayable) :
    (Express.analyze (.str source) file).Passes True
      (Gains (HoldsRoute source ∨ HoldsMiddleware source)) := by
  have hScan := passes_bind (passes_modify (scan_gains source)) (fun _ => say_passes
    ("[DEBUG] Completed Express analysis of " ++ file)) Gains.trans
  have hWhole := passes_bind (say_passes ("[DEBUG] Starting Express analysis of " ++ file))
    (fun _ => hScan) Gains.trans
  exact hWhole.imp (by simp [hFile]) fun s after h => h.congr (by simp)

/-- A file that can be read and in which a route stands, or middleware that is not blank. -/
def Yields (disk : Disk) (start file : Text) : Prop :=
  ∃ source, disk.readText (Path.join start file) = .ok source ∧
    (HoldsRoute source ∨ HoldsMiddleware source)

/-- The analysis of a file goes through if its name can be printed. -/
theorem analyzeExpressFile_passes (disk : Disk) (hStart : start.Sayable) (file : Text) :
    (analyzeExpressFile disk start file).Passes file.Sayable (Gains (Yields disk start file)) := by
  have hRead (hFile : file.Sayable) (source : Text)
      (hSource : disk.readText (Path.join start file) = .ok source) :
      (Express.analyze (.str source) (Path.join start file)).Passes True
        (Gains (Yields disk start file)) := by
    refine (analyze_passes source (hStart.join hFile)).imp Iff.rfl fun s after h => h.congr ?_
    simp [Yields, hSource]
  have hSkip (hFile : file.Sayable) (fault : Fault)
      (hFault : disk.readText (Path.join start file) = .error fault) :
      (Express.say ("Error analyzing file " ++ file ++ ": " ++ fault.message)).Passes True
        (Gains (Yields disk start file)) := by
    have hMessage := (Disk.readText_fault_writable hFault).sayable
    refine (say_passes _).imp (by simp [hFile, hMessage]) fun s after h => h.congr ?_
    simp [Yields, hFault]
  have hRest (hFile : file.Sayable) := passes_attempt (hRead hFile) (hSkip hFile)
  have hWhole := passes_bind (say_passes ("\nAnalyzing file: " ++ file))
    (fun hLine => hRest (Text.sayable_append.1 hLine).2) Gains.trans
  exact hWhole.imp (by simp) fun s after h => h.congr (by simp)

/-- Files in turn pass if all their names can be printed, and gain what one of them yields. -/
theorem analyzeExpressFiles_passes (disk : Disk) (hStart : start.Sayable) (files : List Text) :
    (files.forM (analyzeExpressFile disk start)).Passes (∀ file ∈ files, file.Sayable)
      (Gains (∃ file ∈ files, Yields disk start file)) := by
  refine passes_forM (fun files => Gains (∃ file ∈ files, Yields disk start file))
    (analyzeExpressFile_passes disk hStart) (fun s => (gains_self s).congr (by simp))
    (fun hFirst hRest => ?_) files
  exact (hFirst.trans hRest).congr (by simp)

/-- Only for Express is anything done. -/
theorem analyzeFramework_of_ne (disk : Disk) (start : Text) (files : List Text) {framework : Text}
    (h : framework ≠ "express") : analyzeFramework disk start files framework = (none, []) := by
  have hKind : Analyzer.forFramework? framework ≠ some .express := by
    unfold Analyzer.forFramework?
    grind
  unfold analyzeFramework
  split
  · contradiction
  · rfl

/-- An analysis is kept under Express if it went through and met something. An entry point comes
with a flow, so the flows alone tell whether something was met. -/
theorem analyzeFramework_iff (disk : Disk) (hStart : start.Sayable) (files : List Text)
    (framework key : Text) :
    (∃ a, (analyzeFramework disk start files framework).1 = some (key, a)) ↔
      key = "express" ∧ framework = "express" ∧
        (∀ file ∈ files.filter isExpressFile, file.Sayable) ∧
        ∃ file ∈ files.filter isExpressFile, Yields disk start file := by
  by_cases hExpress : framework = "express"
  · subst hExpress
    have hKind : Analyzer.forFramework? "express" = some .express := by decide
    have hPass := analyzeExpressFiles_passes disk hStart (files.filter isExpressFile) {}
    simp only [analyzeFramework, hKind, true_and]
    generalize files.filter isExpressFile = selected at hPass ⊢
    unfold Leads at hPass
    generalize Step.perform _ ({} : Express.State) = outcome at hPass ⊢
    rcases outcome with ⟨fault | _, s⟩
    · have hUnfit : ¬∀ file ∈ selected, file.Sayable := fun h => nomatch hPass.1.2 h
      simp [hUnfit]
    · have hFit := hPass.1.1 rfl
      have hGains := hPass.2 hFit
      by_cases hMet : ∃ file ∈ selected, Yields disk start file
      · have hFlows : s.analysis.flows ≠ [] := hGains.flows (.inl hMet)
        have hKept : (s.analysis.entryPoints.isEmpty && s.analysis.flows.isEmpty) = false := by
          simp [hFlows]
        simp only [hKept]
        constructor
        · rintro ⟨a, hSome⟩
          cases hSome
          exact ⟨rfl, hFit, hMet⟩
        · rintro ⟨rfl, -, -⟩
          exact ⟨s.analysis, rfl⟩
      · have hNew : s.IsNew := hGains.isNew hMet ⟨rfl, rfl, rfl⟩
        simp [hMet, hNew.entryPoints, hNew.flows]
  · rw [analyzeFramework_of_ne disk start files hExpress]
    simp [hExpress]

end Analysis

/-- At a path that can be named, only the detection of frameworks can fail. -/
theorem discover_of_nameable [Output] (h : path.Nameable) : discover disk path =
    match (detectFrameworks (fileTree disk path) (packageFiles disk path).found).perform {} with
    | (.error fault, _) => .error fault
    | (.ok _, detection) =>
      let results := detection.frameworks.map (analyzeFramework disk path (fileTree disk path))
      .ok (⟨path, fileTree disk path, (packageFiles disk path).found, detection.frameworks,
        results.filterMap (·.1)⟩, results.flatMap (·.2)) := by
  have hLine : (Text.ofString "Analyzing path: " ++ path).Sayable := by simp [h.1]
  have hFiles : listFiles disk path = .ok (fileTree disk path) := by
    rw [listFiles, (Disk.checkStart_eq_ok_iff h.1).2 h.2]
    rfl
  unfold discover
  rw [hLine.printed, hFiles]
  have hDone : (discard (.ok (Text.ofString "Analyzing path: " ++ path)) : Except Fault Unit) =
    .ok () := rfl
  simp only [bind, Except.bind, hDone]
  generalize Step.perform _ _ = outcome
  rcases outcome with ⟨fault | _, detection⟩
  · rfl
  · rfl

/-- A discovery that succeeds was at a path that can be named. -/
theorem nameable_of_discover [Output] {result : ProjectInfo × List Text}
    (h : discover disk path = .ok result) : path.Nameable := by
  obtain ⟨_, hPrinted, h⟩ := bind_eq_ok_iff.1 h
  obtain ⟨files, hFiles, -⟩ := bind_eq_ok_iff.1 h
  obtain ⟨_, hStart, -⟩ := bind_eq_ok_iff.1 hFiles
  have hSayable : path.Sayable := by
    by_contra hNot
    have hLine : ¬(Text.ofString "Analyzing path: " ++ path).Sayable := by simp [hNot]
    obtain ⟨fault, hFault⟩ := Text.printed_fails_iff.2 hLine
    rw [hFault] at hPrinted
    cases hPrinted
  exact ⟨hSayable, (Disk.checkStart_eq_ok_iff hSayable).1 hStart⟩

/-- Discovery fails on a path that has no name, and on a manifest that cannot be used. -/
theorem discover_fails_iff [Output] : (∃ fault, discover disk path = .error fault) ↔
    ¬path.Nameable ∨ ∃ content, manifestText disk path = .ok content ∧ Unusable content := by
  by_cases hPath : path.Nameable
  · have hDetects := detectFrameworks_detects (fileTree disk path) (packageFiles disk path).found {}
    rw [packageFiles_fit_iff] at hDetects
    rw [discover_of_nameable hPath]
    unfold Leads at hDetects
    generalize Step.perform _ _ = outcome at hDetects ⊢
    rcases outcome with ⟨fault | _, detection⟩
    · have hUnfit : ¬∀ content, manifestText disk path = .ok content → ¬Unusable content :=
        fun h => nomatch hDetects.1.2 h
      simp only [not_forall, Classical.not_not, exists_prop] at hUnfit
      exact iff_of_true ⟨fault, rfl⟩ (.inr hUnfit)
    · have hFit := hDetects.1.1 rfl
      refine iff_of_false nofun ?_
      rintro (hNot | ⟨content, hContent, hUnusable⟩)
      · exact hNot hPath
      · exact hFit content hContent hUnusable
  · refine iff_of_true ?_ (.inl hPath)
    cases hOut : discover disk path with
    | error fault => exact ⟨fault, rfl⟩
    | ok result => exact absurd (nameable_of_discover hOut) hPath

/-- Discovery raises a fault on misshapen manifests, and on no other project whose path has a name
and whose manifest keeps to the limit of digits. Without one of these it fails in any case. -/
theorem discover_fails_iff_misshapen [Output] (disk : Disk) (path : Text) :
    (path.Nameable → (∀ content count, manifestText disk path = .ok content →
        Json.read content ≠ .error (.tooManyDigits count)) →
      ((∃ fault, discover disk path = .error fault) ↔
        ∃ content manifest, manifestText disk path = .ok content ∧
          Json.read content = .ok manifest ∧ Misshapen manifest)) ∧
    ((¬path.Nameable ∨ ∃ content count, manifestText disk path = .ok content ∧
        Json.read content = .error (.tooManyDigits count)) →
      ∃ fault, discover disk path = .error fault) := by
  rw [discover_fails_iff]
  constructor
  · intro hPath hDigits
    constructor
    · rintro (hNot | ⟨content, hContent, ⟨count, hRead⟩ | ⟨manifest, hRead, hShape⟩⟩)
      · exact absurd hPath hNot
      · exact absurd hRead (hDigits content count hContent)
      · exact ⟨content, manifest, hContent, hRead, hShape⟩
    · rintro ⟨content, manifest, hContent, hRead, hShape⟩
      exact .inr ⟨content, hContent, .inr ⟨manifest, hRead, hShape⟩⟩
  · rintro (hNot | ⟨content, count, hContent, hRead⟩)
    · exact .inl hNot
    · exact .inr ⟨content, hContent, .inl ⟨count, hRead⟩⟩

def manifestDisk (manifest : String) : Disk :=
  ⟨.directory [("package.json", .file manifest.toUTF8.toList)], []⟩

/-- A manifest with null before the script that calls Angular. -/
def nullFirst : String := "\x7b\"scripts\":\x7b\"a\":null,\"b\":\"ng s\"\x7d\x7d"

/-- The same with null after it. -/
def nullLast : String := "\x7b\"scripts\":\x7b\"b\":\"ng s\",\"a\":null\x7d\x7d"

/-- The order of scripts decides whether the project is discovered. -/
theorem discover_fails_iff_misshapen_null :
    (∃ fault, discover (manifestDisk nullFirst) "/" = .error fault) ∧
      ¬∃ fault, discover (manifestDisk nullLast) "/" = .error fault := by
  have hPath : (Text.ofString "/").Nameable := ⟨Text.sayable_ofString _, by decide⟩
  have hFirst : manifestText (manifestDisk nullFirst) "/" = .ok nullFirst := by decide +kernel
  have hLast : manifestText (manifestDisk nullLast) "/" = .ok nullLast := by decide +kernel
  have hFirstRead : Json.read nullFirst =
    .ok (.obj [("scripts", .obj [("a", .null), ("b", .str "ng s")])]) :=
    Json.read_eq_of_agrees (by decide +kernel)
  have hLastRead : Json.read nullLast =
    .ok (.obj [("scripts", .obj [("b", .str "ng s"), ("a", .null)])]) :=
    Json.read_eq_of_agrees (by decide +kernel)
  constructor
  · refine ((discover_fails_iff_misshapen _ _).1 hPath ?_).2 ⟨_, _, hFirst, hFirstRead, ?_⟩
    · intro content count hContent
      rw [hFirst] at hContent
      cases hContent
      rw [hFirstRead]
      simp
    · exact .command rfl rfl ⟨[], .null, [.str "ng s"], rfl, rfl, by simp⟩
  · rw [(discover_fails_iff_misshapen _ _).1 hPath ?_]
    · rintro ⟨content, manifest, hContent, hRead, hShape⟩
      rw [hLast] at hContent
      cases hContent
      rw [hLastRead] at hRead
      cases hRead
      obtain ⟨fault, hFault⟩ := manifestFrameworks_fails_iff.2 hShape
      cases hFault
    · intro content count hContent
      rw [hLast] at hContent
      cases hContent
      rw [hLastRead]
      simp

/-- The files of a project that are analysed for Express. -/
def expressFiles (disk : Disk) (path : Text) : List Text :=
  (fileTree disk path).filter isExpressFile

section Found

variable [Output] {info : ProjectInfo} {report : List Text}

/-- The frameworks of a project are those that its files tell of. -/
theorem discover_indicated (h : discover disk path = .ok (info, report)) (framework : Text) :
    framework ∈ info.frameworks ↔
      Indicated (fileTree disk path) (packageFiles disk path).found framework := by
  have hPath := nameable_of_discover h
  have hDetects := detectFrameworks_detects (fileTree disk path) (packageFiles disk path).found {}
  rw [discover_of_nameable hPath] at h
  unfold Leads at hDetects
  generalize Step.perform _ _ = outcome at hDetects h
  rcases outcome with ⟨fault | _, detection⟩
  · cases h
  · cases h
    rw [hDetects.2 (hDetects.1.1 rfl) framework]
    simp

/-- The analyses of a project are those of its frameworks that have a result. -/
theorem discover_analyses (h : discover disk path = .ok (info, report)) :
    info.analyses =
      (info.frameworks.map (analyzeFramework disk path (fileTree disk path))).filterMap (·.1) := by
  rw [discover_of_nameable (nameable_of_discover h)] at h
  generalize Step.perform _ _ = outcome at h
  rcases outcome with ⟨fault | _, detection⟩
  · cases h
  · cases h
    rfl

/-- Express is the only framework that is analysed, and only if all its files can be named and one
yields something. -/
theorem mem_analyses_iff (h : discover disk path = .ok (info, report)) (key : Text) :
    (∃ analysis, (key, analysis) ∈ info.analyses) ↔
      key = "express" ∧ Text.ofString "express" ∈ info.frameworks ∧
        (∀ file ∈ expressFiles disk path, file.Sayable) ∧
        ∃ file ∈ expressFiles disk path, Yields disk path file := by
  have hEach (framework : Text) := analyzeFramework_iff disk (nameable_of_discover h).1
    (fileTree disk path) framework key
  rw [discover_analyses h]
  constructor
  · rintro ⟨analysis, hMember⟩
    obtain ⟨result, hResult, hKept⟩ := List.mem_filterMap.1 hMember
    obtain ⟨framework, hFramework, rfl⟩ := List.mem_map.1 hResult
    obtain ⟨hKey, hExpress, hFiles⟩ := (hEach framework).1 ⟨analysis, hKept⟩
    exact ⟨hKey, hExpress ▸ hFramework, hFiles⟩
  · rintro ⟨hKey, hExpress, hFiles⟩
    obtain ⟨analysis, hKept⟩ := (hEach "express").2 ⟨hKey, rfl, hFiles⟩
    exact ⟨analysis, List.mem_filterMap.2 ⟨_, List.mem_map_of_mem hExpress, hKept⟩⟩

/-- Express in a project that is discovered. It is among the frameworks if the manifest at the top
depends on it. No other framework has an analysis. Express has one if it was found, if one of the
files for it can be read and holds a route or middleware, and if all their names can be printed. -/
theorem discover_express_iff (h : discover disk path = .ok (info, report)) :
    (Text.ofString "express" ∈ info.frameworks ↔
      ∃ content members, manifestText disk path = .ok content ∧
        Json.read content = .ok (.obj members) ∧ dependsOn (.obj members) "express" = true) ∧
    (∀ entry ∈ info.analyses, entry.1 = "express") ∧
    ((∃ analysis, (Text.ofString "express", analysis) ∈ info.analyses) ↔
      Text.ofString "express" ∈ info.frameworks ∧
        (∃ file ∈ expressFiles disk path, Yields disk path file) ∧
        ∀ file ∈ expressFiles disk path, file.Sayable) := by
  have hUsable : ∀ content, manifestText disk path = .ok content → ¬Unusable content := by
    intro content hContent hUnusable
    obtain ⟨fault, hFault⟩ := discover_fails_iff.2 (.inr ⟨content, hContent, hUnusable⟩)
    rw [h] at hFault
    cases hFault
  refine ⟨?_, fun entry hEntry => ((mem_analyses_iff h entry.1).1 ⟨entry.2, hEntry⟩).1, ?_⟩
  · rw [discover_indicated h, indicated_express_iff _ hUsable]
    constructor
    · rintro ⟨content, manifest, hContent, hRead, hDepends⟩
      obtain ⟨members, rfl⟩ := Json.isObject_iff.1 (isObject_of_dependsOn hDepends)
      exact ⟨content, members, hContent, hRead, hDepends⟩
    · rintro ⟨content, members, hContent, hRead, hDepends⟩
      exact ⟨content, _, hContent, hRead, hDepends⟩
  · rw [mem_analyses_iff h]
    constructor
    · rintro ⟨-, hExpress, hNames, hYields⟩
      exact ⟨hExpress, hYields, hNames⟩
    · rintro ⟨hExpress, hYields, hNames⟩
      exact ⟨rfl, hExpress, hNames, hYields⟩

end Found

/-- A project that uses Express, with two files for it. The name of the second cannot be printed. -/
def strayDisk : Disk := ⟨.directory [
  ("app.ts", .file "app.get('/')".toUTF8.toList),
  ("package.json", .file "\x7b\"dependencies\":\x7b\"express\":\"4\"\x7d\x7d".toUTF8.toList),
  (Utf8.strayByte 0xFF :: Text.ofString "app.ts", .file [])], []⟩

/-- A name that cannot be printed leaves no analysis of another file, although that has a route. -/
theorem discover_express_iff_stray : ∃ info report,
    discover strayDisk "/" = .ok (info, report) ∧ Text.ofString "express" ∈ info.frameworks ∧
    Yields strayDisk "/" "app.ts" ∧
    ¬∃ analysis, (Text.ofString "express", analysis) ∈ info.analyses := by
  have hContent : manifestText strayDisk "/" =
    .ok "\x7b\"dependencies\":\x7b\"express\":\"4\"\x7d\x7d" := by decide +kernel
  have hRead : Json.read "\x7b\"dependencies\":\x7b\"express\":\"4\"\x7d\x7d" =
    .ok (.obj [("dependencies", .obj [("express", .str "4")])]) :=
    Json.read_eq_of_agrees (by decide +kernel)
  have hFiles : expressFiles strayDisk "/" =
    [Text.ofString "app.ts", Utf8.strayByte 0xFF :: Text.ofString "app.ts"] := by decide +kernel
  have hSource : strayDisk.readText (Path.join "/" "app.ts") = .ok (Text.ofString "app" ++
    .char '.' :: (Text.ofString "get" ++ ([] ++ .char '(' :: .char '\'' :: (Text.ofString "/" ++
      [.char '\'']))) ++ [.char ')']) := by decide +kernel
  have hQuoted := @Express.QuotedPath.mk "/" [] (.char '\'') (.char '\'') (by simp [Text.Blank])
    rfl (List.cons_ne_nil _ _) (by decide) rfl
  have hCall := @Express.CallText.mk ["get", "post", "put", "delete", "patch"] "app" "get" "/" _
    (by decide) (by decide) hQuoted
  have hYields : Yields strayDisk "/" "app.ts" :=
    ⟨_, hSource, .inl ⟨_, _, .call hCall, (List.prefix_append ..).isInfix⟩⟩
  cases hFound : discover strayDisk "/" with
  | error fault =>
      rcases discover_fails_iff.1 ⟨fault, hFound⟩ with hNot | ⟨content, hText, hUnusable⟩
      · exact absurd ⟨Text.sayable_ofString "/", by decide⟩ hNot
      · rw [hContent] at hText
        cases hText
        rw [Unusable, hRead] at hUnusable
        rcases hUnusable with ⟨count, hDigits⟩ | ⟨manifest, hManifest, hShape⟩
        · cases hDigits
        · cases hManifest
          obtain ⟨other, hOther⟩ := manifestFrameworks_fails_iff.2 hShape
          cases hOther
  | ok result =>
      obtain ⟨info, report⟩ := result
      obtain ⟨hFramework, -, hAnalysis⟩ := discover_express_iff hFound
      have hExpress := hFramework.2 ⟨_, _, hContent, hRead, by decide⟩
      refine ⟨info, report, rfl, hExpress, hYields, ?_⟩
      rw [hAnalysis]
      rintro ⟨-, -, hNames⟩
      have hStray := hNames _ (hFiles ▸ List.mem_cons_of_mem _ List.mem_cons_self)
      exact absurd (hStray _ List.mem_cons_self) (by decide)

end RepoAudit.Discovery
