import RepoAudit.Proofs.Discovery.Manifest
import RepoAudit.Proofs.Entries
import RepoAudit.Proofs.Text.Writable

/-!
What the detection of frameworks tells. Each of its steps fits what it looks at or fails, and adds
frameworks that do not depend on those found before. Main statement: the detection fails only
because of a manifest or of a name that cannot be printed, and finds what requirements, manifests
and names of files tell.
-/
namespace RepoAudit.Discovery

open Step Detection

/-- The frameworks that are `named` are added. -/
def Adds (named : Text → Prop) (d after : Detection) : Prop :=
  ∀ f, f ∈ after.frameworks ↔ f ∈ d.frameworks ∨ named f

section Adds

variable {step next : Step Detection Unit} {fits fits' : Prop} {named named' : Text → Prop}

theorem adds_self (d : Detection) : Adds (fun _ => False) d d := by
  intro f
  rw [or_false]

/-- What two steps add is what either adds. -/
theorem Adds.trans {d middle after : Detection} (hFirst : Adds named d middle)
    (hNext : Adds named' middle after) : Adds (fun f => named f ∨ named' f) d after := by
  intro f
  rw [hNext f, hFirst f, or_assoc]

theorem Adds.congr {d after : Detection} (h : Adds named d after)
    (hNamed : ∀ f, named f ↔ named' f) : Adds named' d after := by
  intro f
  rw [h f, hNamed]

/-- A step goes through if `fits` holds, and then adds the frameworks that are `named`. -/
def Detects (step : Step Detection Unit) (fits : Prop) (named : Text → Prop) : Prop :=
  step.Passes fits (Adds named)

theorem Detects.congr (h : Detects step fits named) (hFits : fits ↔ fits')
    (hNamed : ∀ f, named f ↔ named' f) : Detects step fits' named' :=
  Passes.imp h hFits fun _ _ hAdds => hAdds.congr hNamed

/-- Two steps go through if both do, and detect what either detects. -/
theorem detects_bind (hFirst : Detects step fits named) (hNext : Detects next fits' named') :
    Detects (step >>= fun _ => next) (fits ∧ fits') fun f => named f ∨ named' f :=
  passes_bind hFirst (fun _ => hNext) Adds.trans

theorem detects_pure : Detects (pure ()) True fun _ => False := passes_pure adds_self

/-- A line detects nothing, but it has to be printed. -/
theorem detects_say [Output] (line : Text) : Detects (say line) line.Sayable fun _ => False := by
  by_cases hLine : line.Sayable
  · intro d
    rw [Leads, say, perform_bind, perform_attempt, hLine.printed]
    exact ⟨iff_of_true rfl hLine, fun _ => adds_self d⟩
  · obtain ⟨fault, hFault⟩ := Text.printed_fails_iff.2 hLine
    refine passes_of_fault (fun d => ⟨fault, d, ?_⟩) hLine
    rw [say, perform_bind, perform_attempt, hFault]

/-- A step that is made on a condition detects under this condition. -/
theorem detects_when {c : Prop} [Decidable c] (h : Detects step fits named) :
    Detects (if c then step else pure ()) (c → fits) fun f => c ∧ named f := by
  split
  · next hHolds => exact h.congr (by simp [hHolds]) (by simp [hHolds])
  · next hFails => exact detects_pure.congr (by simp [hFails]) (by simp [hFails])

/-- A loop adds what its turns add. -/
theorem detects_forM {α : Type} {work : α → Step Detection Unit} {fits : α → Prop}
    {named : α → Text → Prop} (h : ∀ a, Detects (work a) (fits a) (named a)) (as : List α) :
    Detects (as.forM work) (∀ a ∈ as, fits a) fun f => ∃ a ∈ as, named a f := by
  refine passes_forM (fun as => Adds fun f => ∃ a ∈ as, named a f) h
    (fun d => (adds_self d).congr (by simp)) (fun hFirst hRest => ?_) as
  exact (hFirst.trans hRest).congr (by simp)

end Adds

@[simp] theorem mem_add {d : Detection} {f g : Text} :
    f ∈ (d.add g).frameworks ↔ f ∈ d.frameworks ∨ f = g := by
  have hInsert := @mem_foldl_insertNew Text _ _ [g] d.frameworks f
  rwa [List.mem_singleton] at hInsert

theorem detects_add (g : Text) : Detects (modify (·.add g)) True (· = g) :=
  passes_modify fun _ _ => mem_add

@[simp] theorem mem_addIf {d : Detection} {c : Bool} {f g : Text} :
    f ∈ (d.addIf c g).frameworks ↔ f ∈ d.frameworks ∨ c = true ∧ f = g := by
  cases c <;> simp [addIf]

/-- What is noted of several things is what is noted of one of them. -/
theorem mem_foldl {α : Type} {note : Detection → α → Detection} {named : α → Text → Prop}
    (h : ∀ d a f, f ∈ (note d a).frameworks ↔ f ∈ d.frameworks ∨ named a f) (as : List α)
    (d : Detection) (f : Text) :
    f ∈ (as.foldl note d).frameworks ↔ f ∈ d.frameworks ∨ ∃ a ∈ as, named a f := by
  induction as generalizing d with
  | nil => simp
  | cons a as ih => simp [ih, h, or_assoc]

/-- The frameworks that requirements in lower case tell of. -/
inductive RequirementsIndicate (files : List Text) (requirements framework : Text) : Prop
  | flask (hNamed : Text.ofString "flask" <:+: requirements)
    (hUser : ∀ file ∈ files, ¬Text.ofString "flask.py" <:+ file) (hFramework : framework = "flask")
  | django (hNamed : Text.ofString "django" <:+: requirements)
    (hScript : Text.ofString "manage.py" ∈ files ∨ Text.ofString "wsgi.py" ∈ files)
    (hFramework : framework = "django")
  | fastapi (hNamed : Text.ofString "fastapi" <:+: requirements)
    (hFramework : framework = "fastapi")

/-- Flask is detected by requirements, unless the name of a file ends with `flask.py`. -/
theorem noteFlask_detects [Output] (files : List Text) (requirements : Text) :
    Detects (noteFlask files requirements) True fun f =>
      Text.ofString "flask" <:+: requirements ∧
        (∀ file ∈ files, ¬Text.ofString "flask.py" <:+ file) ∧ f = "flask" := by
  refine (detects_when (detects_bind (detects_say _) (detects_when (detects_bind (detects_add _)
    (detects_say _))))).congr (by simp) fun f => ?_
  simp [occursIn_iff, endsWith]

/-- Django is detected by requirements together with a script at the top. -/
theorem noteDjango_detects [Output] (files : List Text) (requirements : Text) :
    Detects (noteDjango files requirements) True fun f =>
      Text.ofString "django" <:+: requirements ∧
        (Text.ofString "manage.py" ∈ files ∨ Text.ofString "wsgi.py" ∈ files) ∧ f = "django" := by
  refine (detects_when (detects_bind (detects_say _) (detects_when (detects_bind (detects_add _)
    (detects_say _))))).congr (by simp) fun f => ?_
  simp [occursIn_iff]

/-- FastAPI is detected by requirements alone. -/
theorem noteFastapi_detects [Output] (requirements : Text) :
    Detects (noteFastapi requirements) True fun f =>
      Text.ofString "fastapi" <:+: requirements ∧ f = "fastapi" := by
  refine (detects_when (detects_bind (detects_add _) (detects_say _))).congr (by simp) fun f => ?_
  simp [occursIn_iff]

/-- Requirements are looked through in lower case, after their name was printed. -/
theorem noteRequirements_detects [Output] (files : List Text) (package : Text × Text) :
    Detects (noteRequirements files package) package.1.Sayable
      (RequirementsIndicate files package.2.lower) := by
  refine (detects_bind (detects_say _) (detects_bind (noteFlask_detects files _)
    (detects_bind (noteDjango_detects files _) (noteFastapi_detects _)))).congr (by simp)
      fun f => ?_
  constructor
  · rintro (hNone | ⟨hNamed, hUser, hFlask⟩ | ⟨hNamed, hScript, hDjango⟩ | ⟨hNamed, hFastapi⟩)
    · exact hNone.elim
    · exact .flask hNamed hUser hFlask
    · exact .django hNamed hScript hDjango
    · exact .fastapi hNamed hFastapi
  · rintro (⟨hNamed, hUser, hFlask⟩ | ⟨hNamed, hScript, hDjango⟩ | ⟨hNamed, hFastapi⟩)
    · exact .inr (.inl ⟨hNamed, hUser, hFlask⟩)
    · exact .inr (.inr (.inl ⟨hNamed, hScript, hDjango⟩))
    · exact .inr (.inr (.inr ⟨hNamed, hFastapi⟩))

/-- A manifest that can be used, or that is reported as no document. -/
def Usable [Output] (package : Text × Text) : Prop :=
  match Json.read package.2 with
  | .ok manifest => ¬Misshapen manifest
  | .error (.flaw ..) => package.1.Sayable
  | .error (.tooManyDigits _) => False

/-- A manifest indicates a framework. -/
def ManifestIndicates (content framework : Text) : Prop :=
  ∃ manifest found, Json.read content = .ok manifest ∧ manifestFrameworks manifest = .ok found ∧
    framework ∈ found

/-- A manifest is looked through if it can be used. -/
theorem noteManifest_detects [Output] (package : Text × Text) :
    Detects (noteManifest package) (Usable package) (ManifestIndicates package.2) := by
  unfold noteManifest Usable ManifestIndicates
  rcases Json.read package.2 with (⟨flaw, line, column, offset⟩ | count) | manifest
  · exact (detects_say _).congr (by simp) (by simp)
  · exact passes_of_fault (fun d => ⟨_, d, rfl⟩) id
  · dsimp only
    rcases hFound : manifestFrameworks manifest with fault | found
    · have hShape := manifestFrameworks_fails_iff.1 ⟨fault, hFound⟩
      exact passes_of_fault (fun d => ⟨fault, d, rfl⟩) (absurd hShape)
    · have hShape : ¬Misshapen manifest := by
        rw [← manifestFrameworks_fails_iff, hFound]
        nofun
      have hAdds : Detects (modify fun d => found.foldl Detection.add d) True (· ∈ found) := by
        refine passes_modify fun d f => ?_
        rw [mem_foldl fun d g f => @mem_add d f g]
        simp
      exact hAdds.congr (by simp [hShape]) (by simp [hFound])

/-- The name of a file indicates a framework. A server script does so if it is among the package
files. -/
inductive FileIndicates (packages : List (Text × Text)) (file framework : Text) : Prop
  | nextjs
    (hName : holdsAny file.lower ["next.config.js", "pages/_app.js", "pages/_app.tsx"] = true)
    (hFramework : framework = "nextjs")
  | express {ending content : Text}
    (hEnding : ending ∈ [Text.ofString "app.js", "server.js", "index.js"])
    (hServer : ending <:+ file.lower) (hPackage : packages.lookup file = some content)
    (hNamed : Text.ofString "express" <:+: content.lower) (hFramework : framework = "express")
  | angular
    (hName : holdsAny file.lower ["angular.json", ".angular-cli.json", "ng-module.ts"] = true)
    (hFramework : framework = "angular")

/-- The name of a file adds the frameworks that it indicates. -/
theorem mem_noteFile (packages : List (Text × Text)) (d : Detection) (file f : Text) :
    f ∈ (noteFile packages d file).frameworks ↔
      f ∈ d.frameworks ∨ FileIndicates packages file f := by
  have hServer : (["app.js", "server.js", "index.js"].any fun (e : String) =>
      endsWith file.lower e) = true ↔
      ∃ ending ∈ [Text.ofString "app.js", "server.js", "index.js"], ending <:+ file.lower := by
    simp [endsWith]
  simp only [noteFile, mem_addIf, or_assoc, Bool.and_eq_true, hServer, occursIn_iff]
  apply or_congr_right
  constructor
  · rintro (⟨hName, hNextjs⟩ | ⟨⟨⟨ending, hEnding, hServer⟩, hNamed⟩, hExpress⟩ |
      ⟨hName, hAngular⟩)
    · exact .nextjs hName hNextjs
    · cases hContent : packages.lookup file with
      | none =>
          rw [hContent] at hNamed
          exact absurd hNamed (by decide)
      | some content =>
          rw [hContent] at hNamed
          exact .express hEnding hServer hContent hNamed hExpress
    · exact .angular hName hAngular
  · rintro (⟨hName, hNextjs⟩ | ⟨hEnding, hServer, hContent, hNamed, hExpress⟩ | ⟨hName, hAngular⟩)
    · exact .inl ⟨hName, hNextjs⟩
    · rw [hContent]
      exact .inr (.inl ⟨⟨⟨_, hEnding, hServer⟩, hNamed⟩, hExpress⟩)
    · exact .inr (.inr ⟨hName, hAngular⟩)

/-- Names in quotes can be printed to every output. -/
theorem sayable_shownNames [Output] (names : List Text) : (shownNames names).Sayable := by
  apply Text.Writable.sayable
  apply writable_bracketed
  rw [List.forall_mem_map]
  exact fun name _ => Text.writable_quoted name

def isRequirements (package : Text × Text) : Bool := (Text.ofString "python:").isPrefixOf package.1

def isManifestFile (package : Text × Text) : Bool := endsWith package.1 "package.json"

/-- The files of a project indicate a framework. -/
inductive Indicated (files : List Text) (packages : List (Text × Text)) (framework : Text) : Prop
  | requirements {package : Text × Text} (hPackage : package ∈ packages)
    (hKind : isRequirements package = true)
    (hSign : RequirementsIndicate files package.2.lower framework)
  | manifest {package : Text × Text} (hPackage : package ∈ packages)
    (hKind : isManifestFile package = true) (hSign : ManifestIndicates package.2 framework)
  | application {file : Text} (hFile : file ∈ files) (hKind : isFlaskApplication file = true)
    (hFlask : framework = "flask")
  | file {file : Text} (hFile : file ∈ files) (hSign : FileIndicates packages file framework)

/-- The detection goes through if the names of requirements can be printed and the manifests can be
used. It then finds what the files indicate. -/
theorem detectFrameworks_detects [Output] (files : List Text) (packages : List (Text × Text)) :
    Detects (detectFrameworks files packages)
      (∀ package ∈ packages, (isRequirements package = true → package.1.Sayable) ∧
        (isManifestFile package = true → Usable package))
      (Indicated files packages) := by
  have hRequirements :=
    detects_forM (noteRequirements_detects files) (packages.filter isRequirements)
  have hManifests := detects_forM noteManifest_detects (packages.filter isManifestFile)
  have hApplications : Detects (modify (·.addIf (files.any isFlaskApplication) "flask")) True
      fun f => files.any isFlaskApplication = true ∧ f = "flask" :=
    passes_modify fun _ _ => mem_addIf
  have hFiles : Detects (modify fun d => files.foldl (noteFile packages) d) True fun f =>
      ∃ file ∈ files, FileIndicates packages file f :=
    passes_modify (mem_foldl (mem_noteFile packages) files)
  refine (detects_bind (detects_say _) (detects_bind (detects_say _) (detects_bind hRequirements
    (detects_bind (detects_say _) (detects_bind hManifests (detects_bind hApplications
      hFiles)))))).congr ?_ fun f => ?_
  · simp only [Text.sayable_append, Text.sayable_ofString, sayable_shownNames, and_self,
      true_and, and_true, List.mem_filter, and_imp, forall_and]
  · constructor
    · rintro (hNone | hNone | ⟨package, hPackage, hSign⟩ | hNone | ⟨package, hPackage, hSign⟩ |
        ⟨hAny, hFlask⟩ | ⟨file, hFile, hSign⟩)
      · exact hNone.elim
      · exact hNone.elim
      · obtain ⟨hMember, hKind⟩ := List.mem_filter.1 hPackage
        exact .requirements hMember hKind hSign
      · exact hNone.elim
      · obtain ⟨hMember, hKind⟩ := List.mem_filter.1 hPackage
        exact .manifest hMember hKind hSign
      · obtain ⟨file, hFile, hKind⟩ := List.any_eq_true.1 hAny
        exact .application hFile hKind hFlask
      · exact .file hFile hSign
    · rintro (⟨hMember, hKind, hSign⟩ | ⟨hMember, hKind, hSign⟩ | ⟨hFile, hKind, hFlask⟩ |
        ⟨hFile, hSign⟩)
      · exact .inr (.inr (.inl ⟨_, List.mem_filter.2 ⟨hMember, hKind⟩, hSign⟩))
      · exact .inr (.inr (.inr (.inr (.inl ⟨_, List.mem_filter.2 ⟨hMember, hKind⟩, hSign⟩))))
      · exact .inr (.inr (.inr (.inr (.inr (.inl
          ⟨List.any_eq_true.2 ⟨_, hFile, hKind⟩, hFlask⟩)))))
      · exact .inr (.inr (.inr (.inr (.inr (.inr ⟨_, hFile, hSign⟩)))))

end RepoAudit.Discovery
