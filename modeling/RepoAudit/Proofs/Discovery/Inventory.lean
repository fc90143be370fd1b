import RepoAudit.Discovery.Inventory
import RepoAudit.Proofs.Directory
import RepoAudit.Proofs.Discovery.Framework

/-!
The package files of a project and what they indicate. Main statement: Express is indicated by the
manifest at the top and by nothing else.
-/
namespace RepoAudit.Discovery

variable {disk : Disk} {path : Text}

def packageName (kind : Text × Text) : Text := kind.1 ++ ":" ++ kind.2

/-- The package files that are found are those that can be read. -/
theorem mem_packageFiles {package : Text × Text} : package ∈ (packageFiles disk path).found ↔
    ∃ kind ∈ packageFileNames, package.1 = packageName kind ∧
      disk.readText (Path.join path kind.2) = .ok package.2 := by
  have hStep (texts : Texts) (kind : Text × Text) :
      package ∈ (readPackageFile disk path texts kind).found ↔ package ∈ texts.found ∨
        package.1 = packageName kind ∧ disk.readText (Path.join path kind.2) = .ok package.2 := by
    cases hRead : disk.readText (Path.join path kind.2) with
    | ok content =>
        simp [readPackageFile, Disk.has_of_readText hRead, hRead, packageName, Prod.ext_iff,
          eq_comm]
    | error fault => cases hHas : disk.has (Path.join path kind.2) <;>
        simp [readPackageFile, hHas, hRead]
  have hAll (kinds : List (Text × Text)) (texts : Texts) :
      package ∈ (kinds.foldl (readPackageFile disk path) texts).found ↔ package ∈ texts.found ∨
        ∃ kind ∈ kinds, package.1 = packageName kind ∧
          disk.readText (Path.join path kind.2) = .ok package.2 := by
    induction kinds generalizing texts with
    | nil => simp
    | cons kind kinds ih => simp [ih, hStep, or_assoc]
  rw [packageFiles, hAll]
  simp

/-- The manifest at the top of a project. -/
def manifestText (disk : Disk) (path : Text) : Except Fault Text :=
  disk.readText (Path.join path "package.json")

/-- The only manifest among the package files is the one at the top. -/
theorem mem_packageFiles_manifest {package : Text × Text} :
    package ∈ (packageFiles disk path).found ∧ isManifestFile package = true ↔
      package.1 = packageName ("npm", "package.json") ∧
        manifestText disk path = .ok package.2 := by
  have hOnly : ∀ kind ∈ packageFileNames, endsWith (packageName kind) "package.json" = true ↔
      kind = (Text.ofString "npm", Text.ofString "package.json") := by decide
  rw [mem_packageFiles]
  constructor
  · rintro ⟨⟨kind, hKind, hName, hRead⟩, hManifest⟩
    rw [isManifestFile, hName, hOnly kind hKind] at hManifest
    subst hManifest
    exact ⟨hName, hRead⟩
  · rintro ⟨hName, hRead⟩
    refine ⟨⟨_, by decide, hName, hRead⟩, ?_⟩
    rw [isManifestFile, hName]
    decide

/-- The names of package files come from a fixed table. -/
theorem sayable_of_mem_packageFiles [Output] {package : Text × Text}
    (h : package ∈ (packageFiles disk path).found) : package.1.Sayable := by
  have hAll : ∀ kind ∈ packageFileNames, (packageName kind).Sayable := by
    simp [packageFileNames, packageName]
  obtain ⟨kind, hKind, hName, -⟩ := mem_packageFiles.1 h
  rw [hName]
  exact hAll kind hKind

/-- No package file is a server script. -/
theorem not_server_of_mem_packageFiles {package : Text × Text}
    (h : package ∈ (packageFiles disk path).found) :
    ∀ ending ∈ [Text.ofString "app.js", "server.js", "index.js"],
      ¬ending <:+ package.1.lower := by
  have hNone : ∀ kind ∈ packageFileNames,
      ∀ ending ∈ [Text.ofString "app.js", "server.js", "index.js"],
        ¬ending <:+ (packageName kind).lower := by decide
  obtain ⟨kind, hKind, hName, -⟩ := mem_packageFiles.1 h
  rw [hName]
  exact hNone kind hKind

/-- A manifest cannot be used: a whole number in it is too long, or it is misshapen. -/
def Unusable (content : Text) : Prop :=
  (∃ count, Json.read content = .error (.tooManyDigits count)) ∨
    ∃ manifest, Json.read content = .ok manifest ∧ Misshapen manifest

/-- A manifest whose name can be printed is usable unless a number is too long or it is misshapen.
-/
theorem usable_iff [Output] {name content : Text} (hName : name.Sayable) :
    Usable (name, content) ↔ ¬Unusable content := by
  unfold Usable Unusable
  rcases Json.read content with (⟨flaw, line, column, offset⟩ | count) | manifest
  · simp [hName]
  · simp
  · simp

/-- The detection goes through unless the manifest cannot be used. -/
theorem packageFiles_fit_iff [Output] :
    (∀ package ∈ (packageFiles disk path).found,
      (isRequirements package = true → package.1.Sayable) ∧
        (isManifestFile package = true → Usable package)) ↔
      ∀ content, manifestText disk path = .ok content → ¬Unusable content := by
  constructor
  · intro hAll content hContent
    obtain ⟨hMember, hManifest⟩ := mem_packageFiles_manifest.2
      (show (packageName ("npm", "package.json"), content).1 = _ ∧ _ from ⟨rfl, hContent⟩)
    exact (usable_iff (sayable_of_mem_packageFiles hMember)).1 ((hAll _ hMember).2 hManifest)
  · intro hUsable package hMember
    have hSayable := sayable_of_mem_packageFiles hMember
    refine ⟨fun _ => hSayable, fun hManifest => (usable_iff hSayable).2 (hUsable _ ?_)⟩
    exact (mem_packageFiles_manifest.1 ⟨hMember, hManifest⟩).2

/-- Express is indicated by the manifest and by nothing else. A server script would be looked up
among the package files under its own name. -/
theorem indicated_express_iff (files : List Text)
    (hUsable : ∀ content, manifestText disk path = .ok content → ¬Unusable content) :
    Indicated files (packageFiles disk path).found "express" ↔
      ∃ content manifest, manifestText disk path = .ok content ∧ Json.read content = .ok manifest ∧
        dependsOn manifest "express" = true := by
  have hOther : Text.ofString "express" ≠ Text.ofString "angular" := by decide
  constructor
  · rintro (⟨hMember, hKind, hSign⟩ | ⟨hMember, hKind, hSign⟩ | ⟨hFile, hKind, hFlask⟩ |
      ⟨hFile, hSign⟩)
    · rcases hSign with ⟨-, -, hName⟩ | ⟨-, -, hName⟩ | ⟨-, hName⟩
      · exact absurd hName (by decide)
      · exact absurd hName (by decide)
      · exact absurd hName (by decide)
    · obtain ⟨manifest, found, hRead, hFound, hExpress⟩ := hSign
      rw [mem_manifestFrameworks_iff hFound hOther, express_mem_namedFrameworks_iff] at hExpress
      exact ⟨_, manifest, (mem_packageFiles_manifest.1 ⟨hMember, hKind⟩).2, hRead, hExpress⟩
    · exact absurd hFlask (by decide)
    · rcases hSign with ⟨-, hName⟩ | ⟨hEnding, hServer, hPackage, -, -⟩ | ⟨-, hName⟩
      · exact absurd hName (by decide)
      · obtain ⟨name, hMember, hSame⟩ := exists_of_lookup hPackage
        obtain rfl := beq_iff_eq.1 hSame
        exact absurd hServer (not_server_of_mem_packageFiles hMember _ hEnding)
      · exact absurd hName (by decide)
  · rintro ⟨content, manifest, hContent, hRead, hExpress⟩
    obtain ⟨hMember, hManifest⟩ := mem_packageFiles_manifest.2
      (show (packageName ("npm", "package.json"), content).1 = _ ∧ _ from ⟨rfl, hContent⟩)
    refine .manifest hMember hManifest ⟨manifest, ?_⟩
    cases hFound : manifestFrameworks manifest with
    | error fault =>
        have hShape := manifestFrameworks_fails_iff.1 ⟨fault, hFound⟩
        exact absurd (.inr ⟨manifest, hRead, hShape⟩) (hUsable content hContent)
    | ok found =>
        refine ⟨found, hRead, rfl, ?_⟩
        rwa [mem_manifestFrameworks_iff hFound hOther, express_mem_namedFrameworks_iff]

end RepoAudit.Discovery
