import RepoAudit.Discovery.Framework
import RepoAudit.Proofs.Json.Shape
import RepoAudit.Proofs.Step
import RepoAudit.Proofs.Text.Search

/-!
Manifests: which packages they name, and which of them cannot be used. Main statement: the
frameworks of a manifest are told unless one of four parts has a shape of which its reader knows
nothing.
-/
namespace RepoAudit

namespace Json

/-- A text is mentioned in a value: as a part of it, as an item or as the name of a member. -/
inductive Mentions (t : Text) : Json → Prop
  | part {s : Text} (h : t <:+: s) : Mentions t (.str s)
  | item {items : List Json} (h : .str t ∈ items) : Mentions t (.arr items)
  | name {members : List (Text × Json)} (h : t ∈ members.map Prod.fst) : Mentions t (.obj members)

/-- Whether a value is null, a boolean or a number. -/
def isScalar : Json → Bool
  | .str _ | .arr _ | .obj _ => false
  | _ => true

/-- Only a text equals a text. -/
theorem same_str_iff {v : Json} {t : Text} : v.same (.str t) = true ↔ v = .str t := by
  cases v with
  | str s => simp [same]
  | float x => cases hClass : Decimal.classify x <;> simp [same, sameNumber, dyadic?, hClass]
  | _ => simp [same, sameNumber, dyadic?]

/-- Only scalars cannot be asked whether they hold a text. -/
theorem holds_fails_iff {v : Json} {t : Text} :
    (∃ fault, v.holds t = .error fault) ↔ v.isScalar = true := by
  cases v <;> simp [holds, isScalar]

/-- A search succeeds exactly in a value that mentions the text. -/
theorem holds_eq_ok_true_iff {v : Json} {t : Text} : v.holds t = .ok true ↔ v.Mentions t := by
  cases v with
  | str s =>
      rw [holds, Except.ok.injEq, occursIn_iff]
      exact ⟨.part, fun | .part h => h⟩
  | arr items =>
      simp only [holds, Except.ok.injEq, List.any_eq_true, same_str_iff, exists_eq_right]
      exact ⟨.item, fun | .item h => h⟩
  | obj members =>
      simp only [holds, Except.ok.injEq, List.any_eq_true, beq_iff_eq, ← List.mem_map]
      exact ⟨.name, fun | .name h => h⟩
  | _ => exact ⟨nofun, nofun⟩

/-- The members of a part that is an object. -/
def membersOf (v : Json) (name : Text) : List (Text × Json) :=
  match v.member? name with
  | some (.obj members) => members
  | _ => []

/-- A part that is an object, if it is there, can be unpacked. -/
theorem unpacked_getD {v : Json} {name : Text} (h : v.hasOptional name isObject = true) :
    ((v.member? name).getD (.obj [])).unpacked = .ok (v.membersOf name) := by
  rw [membersOf]
  cases hMember : v.member? name with
  | none => rfl
  | some m =>
      obtain ⟨members, rfl⟩ := isObject_iff.1 (hasOptional_iff.1 h m hMember)
      rfl

/-- A member that can be unpacked is missing or an object. -/
theorem hasOptional_of_unpacked {v m : Json} {name : Text} {members : List (Text × Json)}
    (hMember : v.getD name (.obj []) = .ok m) (hMembers : m.unpacked = .ok members) :
    v.isObject = true ∧ v.hasOptional name isObject = true := by
  rw [getD_eq] at hMember
  split at hMember
  · next hObject =>
      refine ⟨hObject, hasOptional_iff.2 fun value hValue => ?_⟩
      rw [hValue] at hMember
      cases hMember
      cases value with
      | obj _ => rfl
      | _ => cases hMembers
  · cases hMember

end Json

namespace Discovery

/-- Whether a manifest names a package, for use or for development. -/
def dependsOn (manifest : Json) (package : Text) : Bool :=
  (manifest.membersOf "dependencies").any (·.1 == package) ||
    (manifest.membersOf "devDependencies").any (·.1 == package)

/-- Only an object depends on packages. -/
theorem isObject_of_dependsOn {manifest : Json} {package : Text}
    (h : dependsOn manifest package = true) : manifest.isObject = true := by
  cases manifest with
  | obj members => rfl
  | _ => cases h

/-- A search for a text meets a scalar before it meets the text. -/
def BreaksOff (part : Text) (commands : List Json) : Prop :=
  ∃ before command after, commands = before ++ command :: after ∧ command.isScalar = true ∧
    ∀ v ∈ before, ¬v.Mentions part

/-- A manifest whose frameworks cannot be told. -/
inductive Misshapen (manifest : Json) : Prop
  | value (hValue : manifest.isObject = false)
  | packages {part : Text} {value : Json}
    (hPart : part ∈ [Text.ofString "dependencies", "devDependencies"])
    (hValue : manifest.member? part = some value) (hShape : value.isObject = false)
  | scripts {value : Json} (hAngular : dependsOn manifest "@angular/core" = false)
    (hValue : manifest.member? "scripts" = some value) (hShape : value.isObject = false)
  | command {scripts : List (Text × Json)} (hAngular : dependsOn manifest "@angular/core" = false)
    (hValue : manifest.member? "scripts" = some (.obj scripts))
    (hCommand : BreaksOff "ng " (scripts.map Prod.snd))

section Commands

variable {part : Text} {command : Json} {commands : List Json}

theorem not_breaksOff_nil : ¬BreaksOff part [] := by
  rintro ⟨before, command, after, hParts, -⟩
  simp at hParts

theorem breaksOff_cons : BreaksOff part (command :: commands) ↔
    command.isScalar = true ∨ ¬command.Mentions part ∧ BreaksOff part commands := by
  constructor
  · rintro ⟨_ | ⟨first, before⟩, v, after, hParts, hScalar, hBefore⟩
    · cases hParts
      exact .inl hScalar
    · cases hParts
      obtain ⟨hFirst, hRest⟩ := List.forall_mem_cons.1 hBefore
      exact .inr ⟨hFirst, before, v, after, rfl, hScalar, hRest⟩
  · rintro (hScalar | ⟨hFirst, before, v, after, rfl, hScalar, hRest⟩)
    · exact ⟨[], command, commands, rfl, hScalar, nofun⟩
    · exact ⟨command :: before, v, after, rfl, hScalar, List.forall_mem_cons.2 ⟨hFirst, hRest⟩⟩

/-- Commands are looked at up to the first that holds the text. -/
theorem anyHolds_fails_iff :
    (∃ fault, anyHolds part commands = .error fault) ↔ BreaksOff part commands := by
  induction commands with
  | nil => simp [anyHolds, not_breaksOff_nil]
  | cons command commands ih =>
      rw [anyHolds, breaksOff_cons, ← ih, ← Json.holds_fails_iff, ← Json.holds_eq_ok_true_iff]
      rcases command.holds part with fault | _ | _
      · simp [bind, Except.bind]
      · simp [bind, Except.bind]
      · simp [bind, Except.bind, pure, Except.pure]

end Commands

variable {manifest : Json}

/-- Whether a manifest is an object whose parts with packages are objects. -/
def isManifest (manifest : Json) : Bool :=
  manifest.isObject && manifest.hasOptional "dependencies" Json.isObject &&
    manifest.hasOptional "devDependencies" Json.isObject

def usesAngular (manifest : Json) : Except Fault Bool :=
  if dependsOn manifest "@angular/core" then .ok true
  else ((manifest.member? "scripts").getD (.obj [])).values >>= anyHolds "ng "

def namedFrameworks (manifest : Json) : List Text :=
  (packageFrameworks.filter fun (_, names) => names.any (dependsOn manifest)).map (·.1)

/-- In a manifest of the right shape only the search for Angular can fail. -/
theorem manifestFrameworks_of_isManifest (h : isManifest manifest = true) :
    manifestFrameworks manifest = usesAngular manifest >>= fun angular =>
      .ok (if angular then Text.ofString "angular" :: namedFrameworks manifest
        else namedFrameworks manifest) := by
  simp only [isManifest, Bool.and_eq_true] at h
  obtain ⟨⟨hObject, hUse⟩, hDevelopment⟩ := h
  have hHas (name : Text) : ((manifest.membersOf "dependencies").any (·.1 == name) ||
    (manifest.membersOf "devDependencies").any (·.1 == name)) = dependsOn manifest name := rfl
  simp only [manifestFrameworks, Json.getD_of_isObject hObject, bind, Except.bind,
    Json.unpacked_getD hUse, Json.unpacked_getD hDevelopment, usesAngular, hHas]
  cases dependsOn manifest "@angular/core" with
  | true => rfl
  | false =>
      rcases ((manifest.member? "scripts").getD (.obj [])).values with fault | commands
      · rfl
      · cases hAny : anyHolds "ng " commands <;> simp only [hAny] <;> rfl

/-- If a manifest gives frameworks then it has the right shape. -/
theorem isManifest_of_manifestFrameworks {found : List Text}
    (h : manifestFrameworks manifest = .ok found) : isManifest manifest = true := by
  obtain ⟨use, hUse, h⟩ := bind_eq_ok_iff.1 h
  obtain ⟨_, hUnpacked, h⟩ := bind_eq_ok_iff.1 h
  obtain ⟨development, hDevelopment, h⟩ := bind_eq_ok_iff.1 h
  obtain ⟨_, hAlso, -⟩ := bind_eq_ok_iff.1 h
  obtain ⟨hObject, hUse⟩ := Json.hasOptional_of_unpacked hUse hUnpacked
  have hDevelopment := (Json.hasOptional_of_unpacked hDevelopment hAlso).2
  simp [isManifest, hObject, hUse, hDevelopment]

/-- A manifest has the wrong shape because of itself or of one of two members. -/
theorem isManifest_eq_false_iff : isManifest manifest = false ↔ manifest.isObject = false ∨
    ∃ part ∈ [Text.ofString "dependencies", "devDependencies"], ∃ value,
      manifest.member? part = some value ∧ value.isObject = false := by
  rw [isManifest, Bool.and_eq_false_iff, Bool.and_eq_false_iff, or_assoc]
  simp [Json.hasOptional, Option.all_eq_false]

/-- The scripts are looked through only if no package decides, and only up to the first hit. -/
theorem usesAngular_fails_iff : (∃ fault, usesAngular manifest = .error fault) ↔
    dependsOn manifest "@angular/core" = false ∧ ∃ value, manifest.member? "scripts" = some value ∧
      (value.isObject = false ∨
        ∃ scripts, value = .obj scripts ∧ BreaksOff "ng " (scripts.map Prod.snd)) := by
  rw [usesAngular]
  cases dependsOn manifest "@angular/core" with
  | true => simp
  | false =>
      cases manifest.member? "scripts" with
      | none => simp [Json.values, bind, Except.bind, anyHolds]
      | some value =>
          cases value with
          | obj scripts =>
              simp only [Option.getD_some, Json.values, bind, Except.bind, ← anyHolds_fails_iff]
              simp [Json.isObject]
          | _ => simp [Json.values, bind, Except.bind, Json.isObject]

/-- The frameworks of a manifest cannot be told if it is misshapen, and only then. -/
theorem manifestFrameworks_fails_iff :
    (∃ fault, manifestFrameworks manifest = .error fault) ↔ Misshapen manifest := by
  cases hShape : isManifest manifest with
  | false =>
      have hFails : ∃ fault, manifestFrameworks manifest = .error fault := by
        rcases hFound : manifestFrameworks manifest with fault | found
        · exact ⟨fault, rfl⟩
        · rw [isManifest_of_manifestFrameworks hFound] at hShape
          cases hShape
      refine iff_of_true hFails ?_
      rcases isManifest_eq_false_iff.1 hShape with hValue | ⟨part, hPart, value, hValue, hOther⟩
      · exact .value hValue
      · exact .packages hPart hValue hOther
  | true =>
      have hFails : (∃ fault, manifestFrameworks manifest = .error fault) ↔
          ∃ fault, usesAngular manifest = .error fault := by
        rw [manifestFrameworks_of_isManifest hShape]
        cases usesAngular manifest <;> simp [bind, Except.bind]
      have hParts := mt isManifest_eq_false_iff.2 (ne_false_of_eq_true hShape)
      rw [hFails, usesAngular_fails_iff]
      constructor
      · rintro ⟨hAngular, value, hValue, hOther | ⟨scripts, rfl, hCommand⟩⟩
        · exact .scripts hAngular hValue hOther
        · exact .command hAngular hValue hCommand
      · rintro (hValue | ⟨hPart, hValue, hOther⟩ | ⟨hAngular, hValue, hOther⟩ |
          ⟨hAngular, hValue, hCommand⟩)
        · exact absurd (.inl hValue) hParts
        · exact absurd (.inr ⟨_, hPart, _, hValue, hOther⟩) hParts
        · exact ⟨hAngular, _, hValue, .inl hOther⟩
        · exact ⟨hAngular, _, hValue, .inr ⟨_, rfl, hCommand⟩⟩

/-- A framework other than Angular is told by its packages. -/
theorem mem_manifestFrameworks_iff {found : List Text} {framework : Text}
    (h : manifestFrameworks manifest = .ok found) (hOther : framework ≠ "angular") :
    framework ∈ found ↔ framework ∈ namedFrameworks manifest := by
  rw [manifestFrameworks_of_isManifest (isManifest_of_manifestFrameworks h)] at h
  obtain ⟨angular, -, hFound⟩ := bind_eq_ok_iff.1 h
  cases hFound
  cases angular <;> simp [hOther]

theorem express_mem_namedFrameworks_iff :
    Text.ofString "express" ∈ namedFrameworks manifest ↔ dependsOn manifest "express" = true := by
  have hOnly : ∀ entry ∈ packageFrameworks, entry.1 = Text.ofString "express" ↔
      entry = (Text.ofString "express", [Text.ofString "express"]) := by
    decide
  have hListed : (Text.ofString "express", [Text.ofString "express"]) ∈ packageFrameworks := by
    decide
  simp only [namedFrameworks, List.mem_map, List.mem_filter]
  constructor
  · rintro ⟨entry, ⟨hMember, hNamed⟩, hName⟩
    rw [(hOnly entry hMember).1 hName] at hNamed
    simpa using hNamed
  · intro hNamed
    exact ⟨_, ⟨hListed, by simpa using hNamed⟩, rfl⟩

end Discovery

end RepoAudit
