import RepoAudit.Flow.Project
import RepoAudit.Proofs.Flask.Separate

/-!
The order in which the files of a project are analysed. Main statement: apart from the sources and
the variables of responses, the order does not matter, if the analysis of each file ends outside of
functions. It does not matter at all if no file makes a response next to one that records something.
-/
namespace RepoAudit

open Syntax Flask

/-- The outcome of the analysis of files in a given order. -/
def analyzeFiles [Output] (mode : Mode) (disk : Disk) (paths : List Text) :
    Except Fault Unit × Analysis :=
  (paths.forM (addFile mode disk)).perform {}

/-- A project is analysed in one order of its files. -/
theorem perform_analyzeProject [Output] (mode : Mode) (disk : Disk) {start : Text}
    (hStart : Disk.checkStart start = .ok ()) :
    (analyzeProject mode disk start).perform {} =
      analyzeFiles mode disk (mode.files disk start) := by
  rw [analyzeProject, Step.perform_bind, Step.perform_attempt, hStart]
  rfl

def foundIn [Output] (mode : Mode) (disk : Disk) (path : Text) : Analysis :=
  alone .null (addFile mode disk path)

/-- A response was made. -/
def Responds (a : Analysis) : Prop := ∃ flow ∈ a.flows, flow.path.length = 1

/-- A source or an assignment was recorded. -/
def Records (a : Analysis) : Prop := a.sources ≠ [] ∨ a.scope ≠ []

/-- Neither of two analyses makes a response that could show what the other records. -/
def Unrelated (a b : Analysis) : Prop := (Responds a → ¬Records b) ∧ (Responds b → ¬Records a)

variable {α : Type} {mode : Mode} {disk : Disk} {path : Text} {a b : Analysis}

/-- What the analysis of a file does, does not depend on the files before it. -/
theorem analyzeFile_isScripted [Output] (mode : Mode) (disk : Disk) (path : Text) :
    IsScripted (analyzeFile mode disk path) := by
  refine isScripted_bind (isScripted_attempt _) fun content => ?_
  refine isScripted_bind (isScripted_attempt _) fun t => ?_
  refine isScripted_bind (visit_isScripted _ t) fun _ => ?_
  by_cases hMain : mode.isMain path content = true
  · rw [if_pos hMain]
    exact fun f => ⟨f, _, [.point path], scripted_modify fun _ _ => rfl⟩
  · rw [if_neg hMain]
    exact isScripted_attempt (.ok ())

/-- The report of a fault does not depend on the files before it. -/
theorem addFile_isScripted [Output] (mode : Mode) (disk : Disk) (path : Text) :
    IsScripted (addFile mode disk path) :=
  isScripted_tryCatch (analyzeFile_isScripted mode disk path) fun _ => isScripted_say _

/-- The analysis of a file ends outside of functions if there is no tree to visit, or if the visit
does not fail. -/
theorem foundIn_function [Output] (h : ∀ content t, disk.readText path = .ok content →
    readSource (.str content) = .ok t → ((visit mode.manner t).perform {}).1 = .ok ()) :
    (foundIn mode disk path).function = .null := by
  suffices hFile : (addFile mode disk path).Leads {} fun _ b => b.function = .null from hFile
  have hSay (fault : Fault) (a : Analysis) (hNull : a.function = .null) :
      (Analysis.say (fileFaultLine path fault)).Leads a fun _ b => b.function = .null :=
    (say_prints _ a).function.trans hNull
  refine Step.leads_tryCatch ?_
  refine Step.leads_attempt (fun content hContent => ?_) (fun fault _ => hSay fault {} rfl)
  refine Step.leads_attempt (fun t hTree => ?_) (fun fault _ => hSay fault {} rfl)
  have hVisit := h content t hContent hTree
  refine Step.leads_bind ?_
  rw [Step.Leads]
  rcases hOut : (visit mode.manner t).perform {} with ⟨fault | _, b⟩
  · rw [hOut] at hVisit
    cases hVisit
  · have hNull : b.function = .null := visit_function hOut
    exact Step.leads_ite (fun _ => hNull) (fun _ => hNull)

section Order

variable {paths first second : List Text}

/-- If the analysis of each file ends outside of functions, whether files are analysed to the end
depends on each of them alone. -/
theorem forM_ok_iff [Output] (hOutside : ∀ path ∈ paths, (foundIn mode disk path).function = .null)
    (hNull : a.function = .null) :
    ((paths.forM (addFile mode disk)).perform a).1 = .ok () ↔
      ∀ path ∈ paths, ((addFile mode disk path).perform {}).1 = .ok () := by
  induction paths generalizing a with
  | nil => simp
  | cons path paths ih =>
      obtain ⟨hHere, hRest⟩ := List.forall_mem_cons.1 hOutside
      have hResult := (addFile_isScripted mode disk path).result_eq a
      have hAfter := (adds_perform (addFile_isScripted mode disk path) a).function
      rw [hNull] at hResult hAfter
      rw [List.forall_mem_cons, ← hResult, List.forM_eq_forM, List.forM_cons, Step.perform_bind]
      rcases hOut : (addFile mode disk path).perform a with ⟨fault | _, b⟩
      · simp
      · rw [hOut] at hAfter
        simpa using ih hRest (hAfter.trans hHere)

/-- Files that are all analysed are analysed in turn. -/
theorem perform_forM_of_ok {work : α → Step Analysis Unit} {as : List α}
    (h : ((as.forM work).perform a).1 = .ok ()) :
    ((as.forM work).perform a).2 = inTurn (as.map work) a := by
  induction as generalizing a with
  | nil => rfl
  | cons first as ih =>
      rw [List.forM_eq_forM, List.forM_cons, Step.perform_bind] at h ⊢
      rw [List.map_cons, inTurn, List.foldl_cons]
      rcases hOut : (work first).perform a with ⟨fault | _, b⟩
      · rw [hOut] at h
        cases h
      · rw [hOut] at h
        exact ih h

/-- Flows of the same outline are the same if they are no responses. -/
theorem eq_of_map_outline {flows found : List DataFlow}
    (hSame : flows.map outline = found.map outline)
    (hOthers : ∀ flow ∈ found, flow.path.length ≠ 1) : flows = found := by
  induction found generalizing flows with
  | nil => exact List.map_eq_nil_iff.1 hSame
  | cons flow found ih =>
      obtain ⟨hHere, hRest⟩ := List.forall_mem_cons.1 hOthers
      obtain ⟨other, flows, rfl, hOutline, hSame⟩ := List.map_eq_cons_iff.1 hSame
      have hPath : other.path = flow.path := by
        have hBoth (x : DataFlow) : (outline x).path = x.path := by
          unfold outline
          split <;> rfl
        rw [← hBoth other, hOutline, hBoth]
      rw [outline, outline, if_neg (hPath ▸ hHere), if_neg hHere] at hOutline
      rw [hOutline, ih hSame hRest]

/-- Files of which none can show what another records find just what each finds alone. What a later
file could show is recorded neither before nor here. -/
theorem inTurn_flows [Output] (hOutside : ∀ path ∈ paths, (foundIn mode disk path).function = .null)
    (hNull : a.function = .null)
    (hKnown : ∀ path ∈ paths, Responds (foundIn mode disk path) → ¬Records a)
    (hPairs : (paths.map (foundIn mode disk)).Pairwise Unrelated) :
    (inTurn (paths.map (addFile mode disk)) a).flows =
      a.flows ++ (paths.map (foundIn mode disk)).flatMap (·.flows) := by
  induction paths generalizing a with
  | nil => exact (List.append_nil _).symm
  | cons path paths ih =>
      obtain ⟨hHere, hRest⟩ := List.forall_mem_cons.1 hOutside
      obtain ⟨hFirst, hLater⟩ := List.forall_mem_cons.1 hKnown
      rw [List.map_cons, List.pairwise_cons, List.forall_mem_map] at hPairs
      have hAdds := adds_perform (addFile_isScripted mode disk path) a
      rw [hNull] at hAdds
      change Adds a (foundIn mode disk path) _ at hAdds
      obtain ⟨segment, hFlows, hOutline, hFresh⟩ := hAdds.flows
      have hSegment : segment = (foundIn mode disk path).flows := by
        by_cases hResponds : Responds (foundIn mode disk path)
        · have hNone := hFirst hResponds
          simp only [Records, not_or, not_not] at hNone
          exact hFresh hNone.1 hNone.2
        · exact eq_of_map_outline hOutline fun flow hFlow hOne => hResponds ⟨flow, hFlow, hOne⟩
      have hStill : ∀ other ∈ paths, Responds (foundIn mode disk other) →
          ¬Records ((addFile mode disk path).perform a).2 := by
        intro other hOther hResponds
        have hBefore := hLater other hOther hResponds
        have hNow := (hPairs.1 other hOther).2 hResponds
        simp only [Records, not_or, not_not] at hBefore hNow ⊢
        rw [hAdds.sources hNow.1, hAdds.scope hNow.2]
        exact hBefore
      have hAll := ih hRest (hAdds.function.trans hHere) hStill hPairs.2
      rw [List.map_cons, List.map_cons, List.flatMap_cons, ← hSegment, ← List.append_assoc,
        ← hFlows]
      exact hAll

/-- The analysis of files adds up what each finds alone. -/
theorem analyzeFiles_addsUp [Output]
    (hOutside : ∀ path ∈ paths, (foundIn mode disk path).function = .null)
    (hOk : (analyzeFiles mode disk paths).1 = .ok ()) :
    AddsUp {} (analyzeFiles mode disk paths).2 (paths.map (foundIn mode disk)) := by
  rw [analyzeFiles, perform_forM_of_ok hOk]
  have hAll := inTurn_addsUp
    (List.forall_mem_map.2 fun path (_ : path ∈ paths) => addFile_isScripted mode disk path) {}
  rw [partsFrom_eq_map, List.map_map] at hAll
  · exact hAll
  · intro step hStep
    obtain ⟨path, hPath, rfl⟩ := List.mem_map.1 (List.dropLast_subset _ hStep)
    exact hOutside path hPath

/-- If the analysis of each file ends outside of functions, two orders of the same files either both
lead to the end or both do not. If they do, they lead to the same entry points and to the same flows
apart from the sources and the variables of responses, and to the same flows altogether if no file
makes a response next to one that records a source or an assignment. The analysis of a file that is
not read or not parsed, or whose visit does not fail, ends outside of functions. The analysis of a
project is that of its files in one order. -/
theorem analyzeFiles_perm [Output] (mode : Mode) (disk : Disk) (first second : List Text)
    (hPerm : first.Perm second)
    (hOutside : ∀ path ∈ first, (foundIn mode disk path).function = .null) :
    ((analyzeFiles mode disk first).1 = .ok () ↔ (analyzeFiles mode disk second).1 = .ok ()) ∧
      ((analyzeFiles mode disk first).1 = .ok () →
        (∀ name, name ∈ (analyzeFiles mode disk first).2.entryPoints ↔
          name ∈ (analyzeFiles mode disk second).2.entryPoints) ∧
        ((analyzeFiles mode disk first).2.flows.map outline).Perm
          ((analyzeFiles mode disk second).2.flows.map outline) ∧
        ((first.map (foundIn mode disk)).Pairwise Unrelated →
          (analyzeFiles mode disk first).2.flows.Perm
            (analyzeFiles mode disk second).2.flows)) ∧
      (∀ path, (∀ content t, disk.readText path = .ok content →
        readSource (.str content) = .ok t → ((visit mode.manner t).perform {}).1 = .ok ()) →
          (foundIn mode disk path).function = .null) ∧
      ∀ start, Disk.checkStart start = .ok () → (analyzeProject mode disk start).perform {} =
        analyzeFiles mode disk (mode.files disk start) := by
  have hOutside' : ∀ path ∈ second, (foundIn mode disk path).function = .null :=
    fun path hPath => hOutside path (hPerm.mem_iff.2 hPath)
  have hBoth : (analyzeFiles mode disk first).1 = .ok () ↔
      (analyzeFiles mode disk second).1 = .ok () := by
    rw [analyzeFiles, analyzeFiles, forM_ok_iff hOutside rfl, forM_ok_iff hOutside' rfl]
    simp only [hPerm.mem_iff]
  refine ⟨hBoth, fun hOk => ?_, fun path => foundIn_function,
    fun start => perform_analyzeProject mode disk⟩
  have hFirst := analyzeFiles_addsUp hOutside hOk
  have hSecond := analyzeFiles_addsUp hOutside' (hBoth.1 hOk)
  have hParts := hPerm.map (foundIn mode disk)
  refine ⟨fun name => ?_, ?_, fun hPairs => ?_⟩
  · rw [hFirst.entryPoints, hSecond.entryPoints]
    simp only [hParts.mem_iff]
  · rw [hFirst.map_outline, hSecond.map_outline]
    exact (hParts.flatMap_right _).append_left _
  · have hPairs' := hParts.pairwise hPairs And.symm
    have hNothing : ¬Records {} := by simp [Records]
    rw [analyzeFiles, analyzeFiles, perform_forM_of_ok hOk, perform_forM_of_ok (hBoth.1 hOk),
      inTurn_flows hOutside rfl (fun _ _ _ => hNothing) hPairs,
      inTurn_flows hOutside' rfl (fun _ _ _ => hNothing) hPairs']
    exact (hParts.flatMap_right _).append_left _

/-- A file that assigns a variable, and one with a function that makes a response without it. -/
def twoFiles : Disk := ⟨.directory [("a.py", .file "x = 1\n".toUTF8.toList),
  ("b.py", .file "def f():\n    return flask.jsonify(1)\n".toUTF8.toList)], []⟩

/-- The response shows the variable of the other file if that comes first. -/
theorem analyzeFiles_perm_two :
    ((analyzeFiles .sorted twoFiles ["a.py", "b.py"]).2.flows.map fun flow =>
        flow.carriers.map Json.display) = [[Text.ofString "x"]] ∧
      ((analyzeFiles .sorted twoFiles ["b.py", "a.py"]).2.flows.map fun flow =>
        flow.carriers.map Json.display) = [[]] ∧
      ¬(analyzeFiles .sorted twoFiles ["a.py", "b.py"]).2.flows.Perm
        (analyzeFiles .sorted twoFiles ["b.py", "a.py"]).2.flows ∧
      ((analyzeFiles .sorted twoFiles ["a.py", "b.py"]).2.flows.map outline).Perm
        ((analyzeFiles .sorted twoFiles ["b.py", "a.py"]).2.flows.map outline) := by
  have hRuns : (foundIn .sorted twoFiles "a.py").function.typeName = "NoneType" ∧
      (foundIn .sorted twoFiles "b.py").function.typeName = "NoneType" ∧
      (analyzeFiles .sorted twoFiles ["a.py", "b.py"]).1.isOk = true ∧
      ((analyzeFiles .sorted twoFiles ["a.py", "b.py"]).2.flows.map fun flow =>
        flow.carriers.map Json.display) = [[Text.ofString "x"]] ∧
      ((analyzeFiles .sorted twoFiles ["b.py", "a.py"]).2.flows.map fun flow =>
        flow.carriers.map Json.display) = [[]] := by
    decide +kernel
  obtain ⟨hFirst, hSecond, hIsOk, hShown, hHidden⟩ := hRuns
  have hNull (f : Json) (h : f.typeName = "NoneType") : f = .null := by
    cases f with
    | null => rfl
    | _ =>
        rw [Json.typeName] at h
        exact absurd h (by decide)
  have hOutside : ∀ path ∈ [("a.py" : Text), "b.py"],
      (foundIn .sorted twoFiles path).function = .null :=
    List.forall_mem_cons.2 ⟨hNull _ hFirst, List.forall_mem_singleton.2 (hNull _ hSecond)⟩
  have hOk : (analyzeFiles .sorted twoFiles ["a.py", "b.py"]).1 = .ok () := by
    rcases hResult : (analyzeFiles .sorted twoFiles ["a.py", "b.py"]).1 with fault | _
    · rw [hResult] at hIsOk
      cases hIsOk
    · rfl
  obtain ⟨-, hSame, -⟩ := analyzeFiles_perm .sorted twoFiles ["a.py", "b.py"] ["b.py", "a.py"]
    (.swap _ _ _) hOutside
  refine ⟨hShown, hHidden, fun hPerm => ?_, (hSame hOk).2.1⟩
  have hCarriers := hPerm.map fun flow => flow.carriers.map Json.display
  rw [hShown, hHidden] at hCarriers
  exact absurd hCarriers (by decide)

end Order

end RepoAudit
