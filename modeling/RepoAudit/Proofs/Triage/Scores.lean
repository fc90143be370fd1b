import Mathlib.Data.List.Forall2
import RepoAudit.Proofs.Entries
import RepoAudit.Proofs.Json.Keys
import RepoAudit.Proofs.Step
import RepoAudit.Triage.Confidence

/-!
Which scores of findings are kept. Each finding is assessed on its own, and its score is kept under
its key. Findings with equal keys, such as those of one rule, share an entry: it has the score of
the last of them, and the others are lost.
-/
namespace RepoAudit.Triage

/-- What a triage finds out about one finding. -/
structure Verdict where
  key : Json
  score : Float
  query : Query

namespace Verdict

def entry (v : Verdict) : Json × Float := (v.key, v.score)

/-- The verdict is on the given finding. -/
structure On (steps : AnalysisSteps) (finding : Json) (v : Verdict) : Prop where
  key : findingKey finding = .ok v.key
  assessed : assess steps finding = .ok (v.query, v.score)

variable {steps : AnalysisSteps} {finding : Json} {v : Verdict}

/-- Keys of findings can be compared. -/
theorem On.isKey (h : v.On steps finding) : v.key.IsKey := by
  have hKey := h.key
  rw [findingKey, bind_eq_ok_iff] at hKey
  obtain ⟨id, -, hKey⟩ := hKey
  obtain ⟨rule, -, hKey⟩ := bind_eq_ok_iff.1 hKey
  obtain ⟨hEq, hIsKey⟩ := Json.asKey_eq_ok_iff.1 hKey
  rwa [hEq]

end Verdict

variable {steps : AnalysisSteps} {finding : Json} {findings : List Json} {s after : Scoring}

/-- A finding adds the score of its verdict under the key of the verdict. -/
theorem add_eq_ok_iff : s.add steps finding = .ok after ↔
    ∃ v : Verdict, v.On steps finding ∧
      after = ⟨setEntry v.key v.score s.scores, s.queries ++ [v.query]⟩ := by
  rw [Scoring.add, bind_eq_ok_iff]
  constructor
  · rintro ⟨⟨query, score⟩, hAssessed, h⟩
    obtain ⟨key, hKey, hAfter⟩ := bind_eq_ok_iff.1 h
    exact ⟨⟨key, score, query⟩, ⟨hKey, hAssessed⟩, (pure_eq_ok_iff.1 hAfter).symm⟩
  · rintro ⟨v, hOn, rfl⟩
    exact ⟨(v.query, v.score), hOn.assessed, bind_eq_ok_iff.2 ⟨v.key, hOn.key, rfl⟩⟩

/-- Findings are scored if there is a verdict on each of them. The verdicts take effect one after
the other. -/
theorem foldlM_add_eq_ok_iff : findings.foldlM (Scoring.add steps) s = .ok after ↔
    ∃ verdicts : List Verdict, findings.Forall₂ (Verdict.On steps) verdicts ∧
      after = ⟨setEntries (verdicts.map Verdict.entry) s.scores,
        s.queries ++ verdicts.map Verdict.query⟩ := by
  induction findings generalizing s with
  | nil =>
      rw [List.foldlM_nil, pure_eq_ok_iff]
      constructor
      · rintro rfl
        exact ⟨[], .nil, by simp⟩
      · rintro ⟨verdicts, hAll, rfl⟩
        cases hAll
        simp
  | cons finding findings ih =>
      rw [List.foldlM_cons, bind_eq_ok_iff]
      constructor
      · rintro ⟨next, hNext, h⟩
        obtain ⟨v, hOn, rfl⟩ := add_eq_ok_iff.1 hNext
        obtain ⟨verdicts, hAll, rfl⟩ := ih.1 h
        exact ⟨v :: verdicts, .cons hOn hAll, by simp [Verdict.entry]⟩
      · rintro ⟨verdicts, hAll, rfl⟩
        cases hAll with
        | cons hOn hRest =>
            exact ⟨_, add_eq_ok_iff.2 ⟨_, hOn, rfl⟩, ih.2 ⟨_, hRest, by simp [Verdict.entry]⟩⟩

/-- Findings are scored in order, each by one verdict. -/
theorem scoreFindings_eq_ok_iff : scoreFindings steps (.arr findings) = .ok s ↔
    ∃ verdicts : List Verdict, findings.Forall₂ (Verdict.On steps) verdicts ∧
      s = ⟨setEntries (verdicts.map Verdict.entry) [], verdicts.map Verdict.query⟩ :=
  foldlM_add_eq_ok_iff

section Verdicts

variable {verdicts : List Verdict}

theorem isKey_of_forall₂ (h : findings.Forall₂ (Verdict.On steps) verdicts) :
    ∀ v ∈ verdicts, v.key.IsKey := by
  induction h with
  | nil => exact fun v hMember => nomatch hMember
  | cons hOn _ ih => exact List.forall_mem_cons.2 ⟨hOn.isKey, ih⟩

variable (hKeys : ∀ v ∈ verdicts, v.key.IsKey)
include hKeys

theorem isKey_entries : ∀ entry ∈ verdicts.map Verdict.entry, entry.1.IsKey :=
  List.forall_mem_map.2 hKeys

/-- Every verdict is kept if verdicts with equal keys agree, and only then. -/
theorem verdicts_kept_iff :
    (∀ v ∈ verdicts,
      (setEntries (verdicts.map Verdict.entry) []).lookup v.key = some v.score) ↔
    ∀ v ∈ verdicts, ∀ w ∈ verdicts, (v.key == w.key) = true → v.score = w.score := by
  constructor
  · intro hKept v hv w hw hSame
    have hFound : (setEntries (verdicts.map Verdict.entry) []).lookup v.key =
        (setEntries (verdicts.map Verdict.entry) []).lookup w.key :=
      lookup_congr Json.beq_iff_keyForm (hKeys v hv) (hKeys w hw) hSame
        (isKey_setEntries (isKey_entries hKeys) (List.forall_mem_nil _))
    rw [hKept v hv, hKept w hw] at hFound
    exact Option.some.inj hFound
  · intro hAgree v hv
    rw [lookup_setEntries_nil Json.beq_iff_keyForm (hKeys v hv) (isKey_entries hKeys)]
    rcases hFound : (verdicts.map Verdict.entry).reverse.lookup v.key with _ | score
    · have hNone := (lookup_reverse_eq_none_iff Json.beq_iff_keyForm (hKeys v hv)
        (isKey_entries hKeys)).1 hFound v.entry (List.mem_map_of_mem hv)
      have hSelf : (v.key == v.key) = true := Json.beq_self (hKeys v hv)
      exact absurd hSelf (by simpa [Verdict.entry] using hNone)
    · obtain ⟨key, hMember, hSame⟩ := exists_of_lookup hFound
      obtain ⟨w, hw, hEntry⟩ := List.mem_map.1 (List.mem_reverse.1 hMember)
      cases hEntry
      rw [hAgree v hv w hw hSame]

/-- There is one score for each verdict exactly if no two have the same key. -/
theorem length_verdicts_eq_iff :
    (setEntries (verdicts.map Verdict.entry) []).length = verdicts.length ↔
      verdicts.Pairwise fun v w => (v.key == w.key) = false := by
  have hIff := length_setEntries_eq_iff Json.beq_iff_keyForm (isKey_entries hKeys)
  rwa [List.length_map, List.pairwise_map] at hIff

end Verdicts

/-- Scores are lost exactly where keys of findings are equal. If findings are scored, there is a
verdict on each. A key has the score of the last finding with an equal key. So every finding finds
its own score under its key if findings with equal keys have the same one, and there is an entry
for each finding if no two keys are equal. -/
theorem scoreFindings_keeps_last (h : scoreFindings steps (.arr findings) = .ok s) :
    ∃ verdicts : List Verdict, findings.Forall₂ (Verdict.On steps) verdicts ∧
      s.queries = verdicts.map Verdict.query ∧
      (∀ key : Json, key.IsKey →
        s.scores.lookup key = (verdicts.map Verdict.entry).reverse.lookup key) ∧
      ((∀ v ∈ verdicts, s.scores.lookup v.key = some v.score) ↔
        ∀ v ∈ verdicts, ∀ w ∈ verdicts, (v.key == w.key) = true → v.score = w.score) ∧
      (s.scores.length = findings.length ↔
        verdicts.Pairwise fun v w => (v.key == w.key) = false) := by
  obtain ⟨verdicts, hAll, rfl⟩ := scoreFindings_eq_ok_iff.1 h
  have hKeys := isKey_of_forall₂ hAll
  refine ⟨verdicts, hAll, rfl, fun key hKey => ?_, verdicts_kept_iff hKeys, ?_⟩
  · exact lookup_setEntries_nil Json.beq_iff_keyForm hKey (isKey_entries hKeys)
  · rw [hAll.length_eq]
    exact length_verdicts_eq_iff hKeys

/-- Steps that know of a finding no more than its flow of data. -/
def flowSteps : AnalysisSteps where
  context _ := .ok ⟨.null, .null, .obj [], .arr [], .obj []⟩
  patterns context := .ok context.syntaxContext
  similar _ := .ok (.arr [])
  dataFlow finding _ := finding.get "flow"
  sanitizers context := .ok context.sanitizerAnalysis

/-- A finding of a rule about queries. -/
def queryFinding (reachesSink : Bool) : Json :=
  .obj [("ruleId", .str "query"), ("flow", .obj [("reaches_sink", .bool reachesSink)])]

theorem scoreFindings_query :
    scoreFindings flowSteps (.arr [queryFinding true, queryFinding false]) =
      .ok ⟨[(.str "query", 0.0)], [⟨.null, .null⟩, ⟨.null, .null⟩]⟩ := rfl

/-- Of two findings of one rule, one that reaches a sink loses its score to one that does not. -/
theorem scoreFindings_keeps_last_query :
    ∃ (s : Scoring) (verdicts : List Verdict),
      scoreFindings flowSteps (.arr [queryFinding true, queryFinding false]) = .ok s ∧
      [queryFinding true, queryFinding false].Forall₂ (Verdict.On flowSteps) verdicts ∧
      ¬(∀ v ∈ verdicts, s.scores.lookup v.key = some v.score) ∧ s.scores.length ≠ 2 := by
  obtain ⟨verdicts, hAll, -, -, hKept, -⟩ := scoreFindings_keeps_last scoreFindings_query
  refine ⟨_, verdicts, scoreFindings_query, hAll, ?_, by decide⟩
  rw [hKept]
  cases hAll with
  | @cons _ v _ _ hFirst hRest =>
    cases hRest with
    | @cons _ w _ _ hSecond hNone =>
      intro hAgree
      have hKey : v.key = w.key := Except.ok.inj (hFirst.key.symm.trans hSecond.key)
      have hSame : (v.key == w.key) = true := by
        rw [← hKey]
        exact Json.beq_self hFirst.isKey
      have hScore : v.score = w.score := hAgree v (by simp) w (by simp) hSame
      have hReaches : v.score = 0.4 :=
        congrArg Prod.snd (Except.ok.inj (hFirst.assessed.symm.trans rfl))
      have hMisses : w.score = 0.0 :=
        congrArg Prod.snd (Except.ok.inj (hSecond.assessed.symm.trans rfl))
      rw [hReaches, hMisses] at hScore
      exact absurd (congrArg Float.toBits hScore) (by decide)

end RepoAudit.Triage
