import RepoAudit.Proofs.Express.Visit
import RepoAudit.Proofs.Syntax.Order

/-!
Parts of the request that are assigned to variables. They are told by the paths of chains of
attributes. Main statement: the path of a chain tells its names, chains on plain names have the same
path only if they have the same names, and an assignment records its plain names as sources exactly
if the path of its value is that of a part of the request.
-/
namespace RepoAudit.Express

open Syntax Step

/-- A value that is a part of the request: a chain of attributes whose path has two names, `req` and
a part that holds data from outside. -/
def ReadsRequest (value : Tree) (part : Text) : Prop :=
  value.kind? = some .attribute ∧ ∃ path, attributePath value = .ok path ∧
    splitAll point path = [Text.ofString "req", part] ∧ ("req." ++ part : Text) ∈ sources

/-- Every part of the request has a path of two names. -/
theorem mem_sources_iff {path : Text} :
    path ∈ sources ↔ ∃ part : Text, splitAll point path = [Text.ofString "req", part] ∧
      ("req." ++ part : Text) ∈ sources := by
  have hSources : ∀ path ∈ sources, splitAll point path = [Text.ofString "req", path.drop 4] ∧
      ("req." ++ path.drop 4 : Text) = path := by decide
  constructor
  · intro hPath
    obtain ⟨hSplit, hSame⟩ := hSources path hPath
    exact ⟨path.drop 4, hSplit, by rwa [hSame]⟩
  · rintro ⟨part, hSplit, hPart⟩
    have hPath := joinWith_splitAll point path
    rw [hSplit] at hPath
    rwa [← hPath]

/-- A value has a path into the request exactly if it reads a part of it. -/
theorem requestPath?_eq_some_iff {value : Tree} {path : Text} :
    requestPath? value = some path ↔ ∃ part, ReadsRequest value part ∧ path = "req." ++ part := by
  unfold requestPath? ReadsRequest
  constructor
  · intro hPath
    split at hPath
    · next found hKind hFound =>
        split at hPath
        · next hSource =>
            cases hPath
            obtain ⟨part, hSplit, hPart⟩ := mem_sources_iff.1 (List.contains_iff_mem.1 hSource)
            refine ⟨part, ⟨hKind, path, hFound, hSplit, hPart⟩, ?_⟩
            have hJoined := joinWith_splitAll point path
            rw [hSplit] at hJoined
            exact hJoined.symm
        · cases hPath
    · cases hPath
  · rintro ⟨part, ⟨hKind, found, hFound, hSplit, hPart⟩, rfl⟩
    have hJoined := joinWith_splitAll point found
    rw [hSplit] at hJoined
    have hSame : found = "req." ++ part := hJoined.symm
    subst hSame
    simp [hKind, hFound, hPart]

section Sources

variable {a : Analysis} {f : Json} {t : Tree} {ps : List (Json × Tree)}

/-- Only an assignment records sources. -/
theorem noteNode_sources (h : t.kind? ≠ some .assign) (known : List (Json × SourceRecord))
    (hKnown : a.sources = known) :
    (Tracking.noteNode note t).Leads a fun _ b => b.sources = known := by
  have hCalls : CallsKeep fun b => b.sources = known := ⟨fun _ _ => id, fun _ _ => id⟩
  have hAsk := Visitor.askValue_leads (p := fun b : Analysis => b.sources = known) t hKnown
  unfold Tracking.noteNode
  apply leads_bind_keep hAsk
  intro _ b hAsked
  apply leads_ite
  · intro _
    exact leads_attempt (fun _ _ => hAsked) (fun _ _ => hAsked)
  · intro _
    unfold note
    split
    · exact noteCall_leads hCalls t hAsked
    · exact absurd ‹_› h
    · exact hAsked

/-- Sources are recorded at assignments and nowhere else. -/
theorem run_sources (h : ∀ p ∈ ps, p.2.kind? ≠ some .assign) :
    ((Tracking.plan note).run f ps a).2.sources = a.sources :=
  Plan.run_keeps (q := fun b => b.sources = a.sources) (fun _ _ => id)
    (fun p hNode _ => noteNode_sources (h p hNode) a.sources) rfl

/-- Entering an assignment of a chain records what the value tells. -/
theorem enter_assignment (a : Analysis) (span : Span) {targets : List Tree} (rest : List Tree)
    {value : Tree} {base : Option Text} {labels : List Text} (hValue : IsChain value base labels)
    (hTargets : ∀ target ∈ targets, target.kind? = some .name → target.name?.isSome) :
    ∃ b, (enter (.node .assign span (.list targets :: value :: rest))).perform a = (.ok (), b) ∧
      b.sources = setEntries (recordsTo (targets.filterMap Tree.name?) value) a.sources := by
  refine ⟨_, (perform_noteChain hValue hTargets).trans (outcomeAt_of_assign rfl), rfl⟩

/-- A visit of an assignment with no other inside records what entering it does. -/
theorem visit_assignment_sources {span : Span} {fields : List Tree} {b : Analysis}
    (hEnter : (enter (.node .assign span fields)).perform a = (.ok (), b))
    (hInside : ∀ d ∈ (Syntax.Tree.node .assign span fields).inside, d.kind? ≠ some .assign) :
    ((visit (.node .assign span fields)).perform a).2.sources = b.sources := by
  have hNodes : ∀ p ∈ (Syntax.Tree.node .assign span fields).children.flatMap
      (nodesWithin a.function), p.2.kind? ≠ some .assign := by
    intro p hNode
    obtain ⟨d, hChild, hBelow⟩ := List.mem_flatMap.1 hNode
    exact hInside p.2 (List.mem_flatMap_of_mem hChild (mem_nodes_of_mem_nodesWithin hBelow))
  have hNote : (Tracking.plan note).handle (a.function, .node .assign span fields) a =
    (.ok (), b) := hEnter
  unfold visit
  rw [visitor_eq, Tracking.perform_visit note_function rfl, nodesWithin_eq rfl, Plan.run, hNote]
  exact run_sources hNodes

end Sources

/-- Chains of attributes without points in their names. The path of a chain, cut at the points,
gives the plain name on which the chain stands, if it does, and the labels from the inside out. So
two chains on plain names have the same path only if they are the same. An assignment of the chain
records each plain name that is assigned to as a source if the chain is a part of the request, and
otherwise none. The visit of what stands inside the assignment adds nothing to that. -/
theorem attributePath_tells_chain (t : Tree) (base : Option Text) (labels : List Text)
    (h : IsChain t base labels) (hNames : ∀ name ∈ base.toList ++ labels, point ∉ name) :
    (t.kind? = some .attribute ∨ t.kind? = some .name →
      ∃ path, attributePath t = .ok path ∧ splitAll point path = base.toList ++ labels) ∧
    (∀ other base' labels', IsChain other base' labels' →
      (∀ name ∈ base'.toList ++ labels', point ∉ name) → base.isSome → base'.isSome →
      attributePath t = attributePath other → base = base' ∧ labels = labels') ∧
    ∀ (a : Analysis) (span : Span) (targets rest : List Tree),
      (∀ target ∈ targets, target.kind? = some .name → target.name?.isSome) →
      ∃ b, (enter (.node .assign span (.list targets :: t :: rest))).perform a = (.ok (), b) ∧
        (∀ part, ReadsRequest t part →
          b.sources = setEntries ((targets.filterMap Tree.name?).map fun name =>
            (.str name, ⟨.requestData, .str ("req." ++ part)⟩)) a.sources) ∧
        ((¬∃ part, ReadsRequest t part) → b.sources = a.sources) ∧
        ((∀ d ∈ (Syntax.Tree.node .assign span (.list targets :: t :: rest)).inside,
          d.kind? ≠ some .assign) →
          ((visit (.node .assign span (.list targets :: t :: rest))).perform a).2.sources =
            b.sources) := by
  refine ⟨fun hKind => ⟨_, h.attributePath, h.splitAll_path hKind hNames⟩, ?_, ?_⟩
  · intro other base' labels' hOther hNames' hSome hSome' hSame
    obtain ⟨id, rfl⟩ := Option.isSome_iff_exists.1 hSome
    obtain ⟨id', rfl⟩ := Option.isSome_iff_exists.1 hSome'
    rw [h.attributePath, hOther.attributePath, Except.ok.injEq] at hSame
    have hSplit := congrArg (splitAll point) hSame
    rw [splitAll_joinWith (by simp) hNames, splitAll_joinWith (by simp) hNames'] at hSplit
    obtain ⟨rfl, rfl⟩ := List.cons_eq_cons.1 hSplit
    exact ⟨rfl, rfl⟩
  · intro a span targets rest hTargets
    obtain ⟨b, hEnter, hSources⟩ := enter_assignment a span rest h hTargets
    refine ⟨b, hEnter, fun part hReads => ?_, fun hNone => ?_, visit_assignment_sources hEnter⟩
    · rw [hSources, recordsTo, requestPath?_eq_some_iff.2 ⟨part, hReads, rfl⟩]
    · have hPath : requestPath? t = none := by
        rw [Option.eq_none_iff_forall_ne_some]
        intro path hPath
        obtain ⟨part, hReads, -⟩ := requestPath?_eq_some_iff.1 hPath
        exact hNone ⟨part, hReads⟩
      rw [hSources, recordsTo, hPath]
      rfl

def partTree (label : Text) : Tree :=
  .node .attribute default [.node .name default [.ident "req", .node .load default []],
    .ident label, .node .load default []]

theorem isChain_partTree (label : Text) : IsChain (partTree label) (some "req") [label] :=
  .link default label _ (.name default "req" _)

/-- The body of the request is assigned to two variables and to an attribute. -/
theorem attributePath_tells_chain_body :
    (∃ path, attributePath (partTree "body") = .ok path ∧
      splitAll point path = [Text.ofString "req", "body"]) ∧
    attributePath (partTree "body") ≠ attributePath (partTree "query") ∧
    ((visit (.node .assign default [.list [
      .node .name default [.ident "x", .node .store default []], partTree "x",
      .node .name default [.ident "y", .node .store default []]],
        partTree "body", .absent])).perform {}).2.sources =
      [(.str "x", ⟨.requestData, .str "req.body"⟩),
        (.str "y", ⟨.requestData, .str "req.body"⟩)] := by
  obtain ⟨hSplit, hOthers, hRecords⟩ := attributePath_tells_chain (partTree "body") (some "req")
    [Text.ofString "body"] (isChain_partTree "body") (by decide)
  refine ⟨hSplit (.inl rfl), fun hSame => ?_, ?_⟩
  · have hLabels := (hOthers (partTree "query") (some "req") [Text.ofString "query"]
      (isChain_partTree "query") (by decide) rfl rfl hSame).2
    exact absurd hLabels (by decide)
  · obtain ⟨b, -, hReads, -, hVisit⟩ := hRecords {} default
      [.node .name default [.ident "x", .node .store default []], partTree "x",
        .node .name default [.ident "y", .node .store default []]] [.absent] (by decide)
    rw [hVisit (by decide), hReads "body" ⟨rfl, _, rfl, by decide, by decide⟩]
    rfl

end RepoAudit.Express
