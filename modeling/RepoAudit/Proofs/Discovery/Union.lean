import RepoAudit.Proofs.Discovery.Framework

/-!
How the detection of frameworks depends on what it is given. Each package file indicates frameworks
by itself, given the names of the files, and so do these names. Main statement: neither their order
nor that of the package files matters, and more package files indicate what each of them indicates.
-/
namespace RepoAudit.Discovery

open Step

/-- The frameworks that are detected, or the fault that ends the detection. -/
def detected [Output] (files : List Text) (packages : List (Text × Text)) :
    Except Fault (List Text) :=
  match (detectFrameworks files packages).perform {} with
  | (.ok _, detection) => .ok detection.frameworks
  | (.error fault, _) => .error fault

/-- A package file does not end the detection. -/
def Fits [Output] (package : Text × Text) : Prop :=
  (isRequirements package = true → package.1.Sayable) ∧
    (isManifestFile package = true → Usable package)

/-- The detection finds what the files tell of, or a package file ends it. -/
theorem detected_cases [Output] (files : List Text) (packages : List (Text × Text)) :
    (∀ package ∈ packages, Fits package) ∧ (∃ found, detected files packages = .ok found ∧
      ∀ framework, framework ∈ found ↔ Indicated files packages framework) ∨
    (∃ package ∈ packages, ¬Fits package) ∧ ∃ fault, detected files packages = .error fault := by
  have hDetects := detectFrameworks_detects files packages {}
  unfold Leads at hDetects
  unfold detected
  generalize Step.perform _ _ = outcome at hDetects ⊢
  rcases outcome with ⟨fault | _, detection⟩
  · have hUnfit : ¬∀ package ∈ packages, Fits package := fun h => by cases hDetects.1.2 h
    simp only [not_forall, exists_prop] at hUnfit
    exact .inr ⟨hUnfit, fault, rfl⟩
  · have hFit : ∀ package ∈ packages, Fits package := hDetects.1.1 rfl
    refine .inl ⟨hFit, detection.frameworks, rfl, fun framework => ?_⟩
    rw [hDetects.2 hFit framework]
    simp

/-- The names of the files indicate a framework by themselves. -/
inductive NamesIndicate (files : List Text) (framework : Text) : Prop
  | application {file : Text} (hFile : file ∈ files) (hKind : isFlaskApplication file = true)
    (hFlask : framework = "flask")
  | nextjs {file : Text} (hFile : file ∈ files)
    (hName : holdsAny file.lower ["next.config.js", "pages/_app.js", "pages/_app.tsx"] = true)
    (hFramework : framework = "nextjs")
  | angular {file : Text} (hFile : file ∈ files)
    (hName : holdsAny file.lower ["angular.json", ".angular-cli.json", "ng-module.ts"] = true)
    (hFramework : framework = "angular")

/-- A package file indicates a framework, given the names of the files. -/
inductive PackageIndicates (files : List Text) (package : Text × Text) (framework : Text) : Prop
  | requirements (hKind : isRequirements package = true)
    (hSign : RequirementsIndicate files package.2.lower framework)
  | manifest (hKind : isManifestFile package = true) (hSign : ManifestIndicates package.2 framework)
  | server {ending : Text} (hFile : package.1 ∈ files)
    (hEnding : ending ∈ [Text.ofString "app.js", "server.js", "index.js"])
    (hServer : ending <:+ package.1.lower) (hNamed : Text.ofString "express" <:+: package.2.lower)
    (hFramework : framework = "express")

variable {files files' : List Text} {packages packages' : List (Text × Text)} {framework : Text}

/-- What is indicated is indicated by the names alone or by one of the package files. -/
theorem indicated_iff (hKeys : (packages.map Prod.fst).Nodup) : Indicated files packages framework ↔
    NamesIndicate files framework ∨
      ∃ package ∈ packages, PackageIndicates files package framework := by
  constructor
  · rintro (⟨hPackage, hKind, hSign⟩ | ⟨hPackage, hKind, hSign⟩ | ⟨hFile, hKind, hFlask⟩ |
      ⟨hFile, ⟨hName, hNextjs⟩ | ⟨hEnding, hServer, hPackage, hNamed, hExpress⟩ |
        ⟨hName, hAngular⟩⟩)
    · exact .inr ⟨_, hPackage, .requirements hKind hSign⟩
    · exact .inr ⟨_, hPackage, .manifest hKind hSign⟩
    · exact .inl (.application hFile hKind hFlask)
    · exact .inl (.nextjs hFile hName hNextjs)
    · exact .inr ⟨_, (lookup_eq_some_iff_mem hKeys).1 hPackage,
        .server hFile hEnding hServer hNamed hExpress⟩
    · exact .inl (.angular hFile hName hAngular)
  · rintro ((⟨hFile, hKind, hFlask⟩ | ⟨hFile, hName, hNextjs⟩ | ⟨hFile, hName, hAngular⟩) |
      ⟨package, hPackage, ⟨hKind, hSign⟩ | ⟨hKind, hSign⟩ |
        ⟨hFile, hEnding, hServer, hNamed, hExpress⟩⟩)
    · exact .application hFile hKind hFlask
    · exact .file hFile (.nextjs hName hNextjs)
    · exact .file hFile (.angular hName hAngular)
    · exact .requirements hPackage hKind hSign
    · exact .manifest hPackage hKind hSign
    · exact .file hFile (.express hEnding hServer
        ((lookup_eq_some_iff_mem hKeys).2 hPackage) hNamed hExpress)

section Files

variable (hFiles : ∀ file, file ∈ files ↔ file ∈ files')
include hFiles

theorem NamesIndicate.congr (h : NamesIndicate files framework) :
    NamesIndicate files' framework := by
  rcases h with ⟨hFile, hKind, hFlask⟩ | ⟨hFile, hName, hNextjs⟩ | ⟨hFile, hName, hAngular⟩
  · exact .application ((hFiles _).1 hFile) hKind hFlask
  · exact .nextjs ((hFiles _).1 hFile) hName hNextjs
  · exact .angular ((hFiles _).1 hFile) hName hAngular

theorem RequirementsIndicate.congr {requirements : Text}
    (h : RequirementsIndicate files requirements framework) :
    RequirementsIndicate files' requirements framework := by
  rcases h with ⟨hNamed, hUser, hFlask⟩ | ⟨hNamed, hScript, hDjango⟩ | ⟨hNamed, hFastapi⟩
  · exact .flask hNamed (fun file hFile => hUser file ((hFiles file).2 hFile)) hFlask
  · exact .django hNamed (hScript.imp (hFiles _).1 (hFiles _).1) hDjango
  · exact .fastapi hNamed hFastapi

theorem PackageIndicates.congr {package : Text × Text}
    (h : PackageIndicates files package framework) : PackageIndicates files' package framework := by
  rcases h with ⟨hKind, hSign⟩ | ⟨hKind, hSign⟩ | ⟨hFile, hEnding, hServer, hNamed, hExpress⟩
  · exact .requirements hKind (hSign.congr hFiles)
  · exact .manifest hKind hSign
  · exact .server ((hFiles _).1 hFile) hEnding hServer hNamed hExpress

end Files

/-- Only the members of the two lists matter. -/
theorem indicated_congr (hFiles : ∀ file, file ∈ files ↔ file ∈ files')
    (hPackages : ∀ package, package ∈ packages ↔ package ∈ packages')
    (hKeys : (packages.map Prod.fst).Nodup) (hKeys' : (packages'.map Prod.fst).Nodup) :
    Indicated files packages framework ↔ Indicated files' packages' framework := by
  have hBack (file : Text) : file ∈ files' ↔ file ∈ files := (hFiles file).symm
  rw [indicated_iff hKeys, indicated_iff hKeys']
  constructor
  · rintro (hNames | ⟨package, hMember, hSign⟩)
    · exact .inl (hNames.congr hFiles)
    · exact .inr ⟨package, (hPackages package).1 hMember, hSign.congr hFiles⟩
  · rintro (hNames | ⟨package, hMember, hSign⟩)
    · exact .inl (hNames.congr hBack)
    · exact .inr ⟨package, (hPackages package).2 hMember, hSign.congr hBack⟩

/-- More package files indicate what each of them indicates. -/
theorem indicated_append {first second : List (Text × Text)}
    (hKeys : ((first ++ second).map Prod.fst).Nodup) : Indicated files (first ++ second) framework ↔
      Indicated files first framework ∨ Indicated files second framework := by
  have hParts := hKeys
  rw [List.map_append, List.nodup_append] at hParts
  rw [indicated_iff hKeys, indicated_iff hParts.1, indicated_iff hParts.2.1]
  constructor
  · rintro (hNames | ⟨package, hMember, hSign⟩)
    · exact .inl (.inl hNames)
    · rcases List.mem_append.1 hMember with hFirst | hSecond
      · exact .inl (.inr ⟨package, hFirst, hSign⟩)
      · exact .inr (.inr ⟨package, hSecond, hSign⟩)
  · rintro ((hNames | ⟨package, hMember, hSign⟩) | (hNames | ⟨package, hMember, hSign⟩))
    · exact .inl hNames
    · exact .inr ⟨package, List.mem_append_left _ hMember, hSign⟩
    · exact .inl hNames
    · exact .inr ⟨package, List.mem_append_right _ hMember, hSign⟩

/-- A detection that succeeds finds what is indicated, and all package files fit. -/
theorem detected_indicated [Output] {found : List Text} (h : detected files packages = .ok found) :
    (∀ package ∈ packages, Fits package) ∧
      ∀ framework, framework ∈ found ↔ Indicated files packages framework := by
  rcases detected_cases files packages with ⟨hFit, other, hOther, hIndicated⟩ | ⟨-, fault, hFault⟩
  · rw [h] at hOther
    cases hOther
    exact ⟨hFit, hIndicated⟩
  · rw [h] at hFault
    cases hFault

/-- Two detections end the same way: both in a fault, or with the same frameworks. -/
inductive Agree : Except Fault (List Text) → Except Fault (List Text) → Prop
  | faults {fault fault' : Fault} : Agree (.error fault) (.error fault')
  | found {found found' : List Text} (hSame : ∀ framework, framework ∈ found ↔ framework ∈ found') :
    Agree (.ok found) (.ok found')

/-- The order of files and package files does not matter. -/
theorem detected_perm [Output] (hFiles : files.Perm files') (hPackages : packages.Perm packages')
    (hKeys : (packages.map Prod.fst).Nodup) :
    Agree (detected files packages) (detected files' packages') := by
  have hKeys' : (packages'.map Prod.fst).Nodup := (hPackages.map Prod.fst).nodup_iff.1 hKeys
  rcases detected_cases files packages with ⟨hFit, found, hFound, hIndicated⟩ |
    ⟨⟨package, hMember, hUnfit⟩, fault, hFault⟩
  · rcases detected_cases files' packages' with ⟨-, found', hFound', hIndicated'⟩ |
      ⟨⟨package, hMember, hUnfit⟩, -⟩
    · rw [hFound, hFound']
      refine .found fun framework => ?_
      rw [hIndicated, hIndicated', indicated_congr (fun _ => hFiles.mem_iff)
        (fun _ => hPackages.mem_iff) hKeys hKeys']
    · exact absurd (hFit package (hPackages.mem_iff.2 hMember)) hUnfit
  · rcases detected_cases files' packages' with ⟨hFit, -⟩ | ⟨-, fault', hFault'⟩
    · exact absurd (hFit package (hPackages.mem_iff.1 hMember)) hUnfit
    · rw [hFault, hFault']
      exact .faults

theorem detected_append [Output] {first second : List (Text × Text)} {found found' : List Text}
    (hUnion : packages.Perm (first ++ second)) (hKeys : (packages.map Prod.fst).Nodup)
    (hFirst : detected files first = .ok found) (hSecond : detected files second = .ok found') :
    ∃ all, detected files packages = .ok all ∧
      ∀ framework, framework ∈ all ↔ framework ∈ found ∨ framework ∈ found' := by
  have hKeys' : ((first ++ second).map Prod.fst).Nodup := (hUnion.map Prod.fst).nodup_iff.1 hKeys
  obtain ⟨hFit, hIndicated⟩ := detected_indicated hFirst
  obtain ⟨hFit', hIndicated'⟩ := detected_indicated hSecond
  rcases detected_cases files packages with ⟨-, all, hAll, hSign⟩ | ⟨⟨package, hMember, hUnfit⟩, -⟩
  · refine ⟨all, hAll, fun framework => ?_⟩
    rw [hSign, hIndicated, hIndicated', ← indicated_append hKeys',
      indicated_congr (fun _ => Iff.rfl) (fun _ => hUnion.mem_iff) hKeys hKeys']
  · rcases List.mem_append.1 (hUnion.mem_iff.1 hMember) with hOld | hNew
    · exact absurd (hFit package hOld) hUnfit
    · exact absurd (hFit' package hNew) hUnfit

/-- The detection of frameworks depends neither on the order of the files nor on that of the package
files, each of which stands under a name of its own. If package files are divided, and with either
part the detection finds something, then with all of them it finds what it finds with one part or
the other. -/
theorem detected_adds_up [Output] (hFiles : files.Perm files')
    (hKeys : (packages.map Prod.fst).Nodup) :
    (∀ packages', packages.Perm packages' →
      Agree (detected files packages) (detected files' packages')) ∧
    ∀ first second found found', packages.Perm (first ++ second) →
      detected files first = .ok found → detected files second = .ok found' →
      ∃ all, detected files packages = .ok all ∧
        ∀ framework, framework ∈ all ↔ framework ∈ found ∨ framework ∈ found' :=
  ⟨fun _ hPackages => detected_perm hFiles hPackages hKeys,
    fun _ _ _ _ hUnion hFirst hSecond => detected_append hUnion hKeys hFirst hSecond⟩

/-- Files of a project that is Flask itself, has a script of Django and starts a server. -/
def mixedFiles : List Text := ["manage.py", "flask.py", "app.js"]

def webRequirements : List (Text × Text) := [("python:all", "Flask Django")]

/-- Requirements that name FastAPI, and a server that uses Express. -/
def furtherPackages : List (Text × Text) :=
  [("python:more", "fastapi"), ("app.js", "express")]

/-- The file of Flask keeps the requirements from telling of it in whatever order they come. -/
theorem detected_adds_up_mixed :
    mixedFiles.Perm mixedFiles.reverse ∧
    ((webRequirements ++ furtherPackages).map Prod.fst).Nodup ∧
    Agree (detected mixedFiles (webRequirements ++ furtherPackages))
      (detected mixedFiles.reverse (webRequirements ++ furtherPackages).reverse) ∧
    ∃ all, detected mixedFiles (webRequirements ++ furtherPackages) = .ok all ∧
      ∀ framework, framework ∈ all ↔
        framework ∈ [Text.ofString "django"] ∨
          framework ∈ [Text.ofString "fastapi", Text.ofString "express"] := by
  have hFiles : mixedFiles.Perm mixedFiles.reverse := (List.reverse_perm _).symm
  have hKeys : ((webRequirements ++ furtherPackages).map Prod.fst).Nodup := by decide
  have hWeb : detected mixedFiles webRequirements = .ok [Text.ofString "django"] := by rfl
  have hFurther : detected mixedFiles furtherPackages =
    .ok [Text.ofString "fastapi", Text.ofString "express"] := by rfl
  obtain ⟨hOrder, hUnion⟩ := detected_adds_up hFiles hKeys
  exact ⟨hFiles, hKeys, hOrder _ (List.reverse_perm _).symm,
    hUnion _ _ _ _ (List.Perm.refl _) hWeb hFurther⟩

end RepoAudit.Discovery
