import Mathlib.Data.List.Count
import RepoAudit.Proofs.Directory.Reading
import RepoAudit.Proofs.Snippet.Segment
import RepoAudit.Proofs.Syntax.Order

/-!
The snippets of a directory. Main statement: each Python file that is well formed gives one snippet
for each of its definitions, a definition before those inside it, and a snippet holds those of the
definitions in its body, if the spans of the definitions are where they should be.
-/
namespace RepoAudit

open RepoAudit.Path Syntax

namespace Syntax.Tree

/-- The statements in the body of a function or a class. -/
def body : Tree → List Tree
  | .node .functionDef _ (_ :: _ :: .list body :: _) => body
  | .node .classDef _ (_ :: _ :: _ :: .list body :: _) => body
  | _ => []

/-- The definitions in the body of a definition, at any depth. -/
def nested (t : Tree) : List Tree := (t.body.flatMap nodes).filter RepoAudit.isDefinition

/-- The definitions of a tree stand in the source: their spans are valid, and each lies within that
of a definition whose body holds it. -/
structure PlacedIn (source : List Char) (t : Tree) : Prop where
  valid : ∀ d ∈ t.nodes, RepoAudit.isDefinition d → d.span.Valid source
  within : ∀ d ∈ t.nodes, RepoAudit.isDefinition d → ∀ inner ∈ d.nested, inner.span.Within d.span

instance (source : List Char) (t : Tree) : Decidable (t.PlacedIn source) :=
  decidable_of_iff
    ((∀ d ∈ t.nodes, RepoAudit.isDefinition d → d.span.Valid source) ∧
      ∀ d ∈ t.nodes, RepoAudit.isDefinition d → ∀ inner ∈ d.nested, inner.span.Within d.span)
    ⟨fun h => ⟨h.1, h.2⟩, fun h => ⟨h.valid, h.within⟩⟩

end Syntax.Tree

/-- The source in a file, if it is in UTF-8. -/
def Entry.source? : Entry → Option (List Char)
  | .file content => (Utf8.decode content).toOption.map Utf8.unifyLineEnds
  | _ => none

def Entry.snippetsAt (start : Text) (tree : Entry) (way : List Text) : List Snippet :=
  ((tree.entryAt? way).bind source?).elim [] fun source =>
    sourceSnippets (normal (way.foldl join start)) (.ofChars source)

/-- Whether a way ends like those to Python files. -/
def isPythonWay (way : List Text) : Bool := way.getLast?.any (Text.ofString ".py").isSuffixOf

/-- A snippet describes a definition: where it stands, and the characters of its span. -/
structure Snippet.Describes (path : Text) (source : List Char) (d : Tree) (s : Snippet) : Prop where
  path_eq : s.path = path
  startLine_eq : s.startLine = d.span.start.line
  endLine_eq : s.endLine = d.span.stop.line
  holds : ∃ content, s.content = .ofChars content ∧ d.span.Holds source content

/-- The definitions of a tree in an order, and their snippets. -/
structure IsOutline (path : Text) (source : List Char) (t : Tree) (order : List Tree)
    (snippet : Tree → Snippet) : Prop where
  perm : order.Perm (t.nodes.filter isDefinition)
  inside_after : ∀ before d after, order = before ++ d :: after →
    (d.inside.filter isDefinition).Subperm after
  describes : ∀ d ∈ order, (snippet d).Describes path source d
  lineFeeds : ∀ d ∈ order,
    (snippet d).startLine + (snippet d).content.count (.char '\n') = (snippet d).endLine
  nested : ∀ d ∈ order, ∀ inner ∈ d.nested,
    inner ∈ order ∧ (snippet inner).content <:+: (snippet d).content

variable {disk : Disk} {path start : Text} {source : List Char} {tree e : Entry} {t d inner : Tree}
  {way : List Text}

section Trees

/-- A source is a node. -/
theorem kind?_of_parse (h : parse source = some t) : t.kind?.isSome := by
  have hModule (sub : Grammar.Nested) (input rest : Grammar.Input)
      (hRead : (Grammar.moduleBody sub).run input = some (t, rest)) : t.kind?.isSome := by
    unfold Grammar.moduleBody at hRead
    simp only [StateT.run_bind, Option.bind_eq_bind, Option.bind_eq_some_iff] at hRead
    obtain ⟨body, -, token, -, hEnd⟩ := hRead
    split at hEnd
    · cases hEnd
      rfl
    · cases hEnd
  unfold parse at h
  simp only [Option.bind_eq_bind, Option.bind_eq_some_iff] at h
  obtain ⟨tokens, -, ⟨tree, rest⟩, hRead, hTree⟩ := h
  cases hTree
  exact hModule _ _ _ hRead

theorem mem_inside_of_mem_nested (h : inner ∈ d.nested) : inner ∈ d.inside := by
  obtain ⟨item, hItem, hInner⟩ := List.mem_flatMap.1 (List.mem_filter.1 h).1
  have hKind : item.kind?.isSome := by
    cases item with
    | node kind span fields => rfl
    | _ => cases hInner
  refine List.mem_flatMap.2 ⟨item, ?_, hInner⟩
  unfold Tree.body at hItem
  split at hItem
  · simp [Tree.children, hItem, hKind]
  · simp [Tree.children, hItem, hKind]
  · cases hItem

end Trees

section Sources

theorem Text.chars?_ofChars (cs : List Char) : (Text.ofChars cs).chars? = some cs := by
  induction cs with
  | nil => rfl
  | cons c cs ih =>
      have hRest : (cs.map CodePoint.char).mapM CodePoint.char? = some cs := ih
      simp [Text.chars?, Text.ofChars, CodePoint.char?, hRest]

theorem Text.toChars_ofChars (cs : List Char) : (Text.ofChars cs).toChars = cs := by
  simp [Text.toChars, Text.ofChars, CodePoint.char?, Function.comp_def]

theorem Text.count_ofChars (c : Char) (cs : List Char) :
    (Text.ofChars cs).count (.char c) = cs.count c :=
  List.count_map_of_injective _ _ (fun _ _ => CodePoint.char.inj) _

/-- The snippets of a source are those of its definitions, breadth first. -/
theorem sourceSnippets_of_parse (path : Text) (h : parse source = some t) :
    sourceSnippets path (.ofChars source) =
      (t.breadthFirst.filter isDefinition).map (.ofDefinition path (sourceLines source)) := by
  simp only [sourceSnippets, readSource, Text.chars?_ofChars, h, Text.toChars_ofChars]

/-- A source that cannot be parsed has no snippets. -/
theorem sourceSnippets_of_malformed (path : Text) (h : parse source = none) :
    sourceSnippets path (.ofChars source) = [] := by
  simp only [sourceSnippets, readSource, Text.chars?_ofChars, h]

/-- The snippets of a source whose definitions stand where they should. -/
theorem isOutline_of_placedIn (path : Text) (hTree : parse source = some t)
    (h : t.PlacedIn source) :
    IsOutline path source t (t.breadthFirst.filter isDefinition)
      (.ofDefinition path (sourceLines source)) := by
  have hKind := kind?_of_parse hTree
  have hPerm := (Tree.breadthFirst_perm hKind).filter isDefinition
  have hHolds (d : Tree) (hDefinition : d ∈ t.breadthFirst.filter isDefinition) :
      d.span.Holds source (d.span.segment (sourceLines source)) := by
    obtain ⟨hNode, hKept⟩ := List.mem_filter.1 (hPerm.mem_iff.1 hDefinition)
    exact (h.valid d hNode hKept).holds
  refine ⟨hPerm, fun before d after => Tree.filter_inside_subperm hKind, fun d hDefinition => ?_,
    fun d hDefinition => ?_, fun d hDefinition inner hInner => ?_⟩
  · exact ⟨rfl, rfl, rfl, _, rfl, hHolds d hDefinition⟩
  · rw [Snippet.ofDefinition, Text.count_ofChars]
    exact (hHolds d hDefinition).line_add_count
  · obtain ⟨hNode, hKept⟩ := List.mem_filter.1 (hPerm.mem_iff.1 hDefinition)
    have hMember : inner ∈ t.breadthFirst.filter isDefinition := by
      rw [hPerm.mem_iff, List.mem_filter]
      exact ⟨Tree.mem_nodes_of_mem_inside hNode (mem_inside_of_mem_nested hInner),
        (List.mem_filter.1 hInner).2⟩
    have hPart := (hHolds inner hMember).isInfix (hHolds d hDefinition)
      (h.within d hNode hKept inner hInner)
    exact ⟨hMember, hPart.map _⟩

end Sources

section Walk

/-- Only files have a source. -/
theorem exists_file_of_source? (h : e.source?.isSome) : ∃ content, e = .file content := by
  cases e with
  | file content => exact ⟨content, rfl⟩
  | directory entries => cases h
  | barred isDirectory => cases h

theorem ne_nil_of_isPythonWay (h : isPythonWay way) : way ≠ [] := by
  rintro rfl
  cases h

/-- The source of a file is what is read at its path. -/
theorem readText_of_source? (hTree : disk.locate (normal start) = .ok tree)
    (hNames : ∀ name ∈ way, Path.IsName name) (hWay : tree.entryAt? way = some e)
    (hSource : e.source? = some source) :
    disk.readText (normal (way.foldl join start)) = .ok (.ofChars source) := by
  have hFound := Disk.locate_foldl_join hTree hNames hWay
  cases e with
  | directory entries => cases hSource
  | barred isDirectory => cases hSource
  | file content =>
      obtain ⟨chars, hChars, rfl⟩ := Option.map_eq_some_iff.1 hSource
      cases hDecode : Utf8.decode content with
      | error bad =>
          rw [hDecode] at hChars
          cases hChars
      | ok decoded =>
          rw [hDecode] at hChars
          cases hChars
          rw [Disk.readText, hFound]
          simp only [bind, Except.bind, hDecode]
          rfl

/-- In a directory the entries named like Python files are looked at, by their paths. -/
theorem pythonEntries_listing (start : Text) (l : Listing)
    (h : ∀ entry ∈ l.entries, (Text.ofString ".py").isSuffixOf entry.1 → entry.2.isFile) :
    (l.entries.filter fun entry => (Text.ofString ".py").isSuffixOf entry.1).map
      (fun entry => normal (join (l.path start) entry.1)) =
    (l.ways.filter isPythonWay).map fun way => normal (way.foldl join start) := by
  have hPython (name : Text) :
      isPythonWay (l.below ++ [name]) = (Text.ofString ".py").isSuffixOf name := by
    simp [isPythonWay]
  have hKept : (l.entries.filter fun entry => (Text.ofString ".py").isSuffixOf entry.1) =
      (l.entries.filter fun entry => entry.2.isFile).filter fun entry =>
        (Text.ofString ".py").isSuffixOf entry.1 := by
    rw [List.filter_filter]
    refine List.filter_congr fun entry hEntry => ?_
    cases hEnding : (Text.ofString ".py").isSuffixOf entry.1 with
    | true => simp [h entry hEntry hEnding]
    | false => rfl
  have hWays : l.ways = (l.entries.filter fun entry => entry.2.isFile).map
      fun entry => l.below ++ [entry.1] := by
    simp [Listing.ways, Listing.files]
  rw [hKept, hWays, List.filter_map, List.map_map]
  simp [Function.comp_def, hPython, Listing.path]

variable (hNamed : tree.WellNamed)
  (hFiles : ∀ way e, tree.entryAt? way = some e → isPythonWay way → e.source?.isSome)

include hNamed hFiles

/-- An entry that a walk meets is a file if it is named like a Python file. -/
theorem isFile_of_mem_listings {l : Listing} {entry : Text × Entry} (hMember : l ∈ tree.listings [])
    (hEntry : entry ∈ l.entries) (hEnding : (Text.ofString ".py").isSuffixOf entry.1) :
    entry.2.isFile := by
  obtain ⟨way, -, hDirectory⟩ := Entry.entryAt?_of_mem_listings hNamed hMember
  have hOnce : (l.entries.map Prod.fst).Nodup := by
    cases (Entry.wellNamed_of_entryAt? hNamed hDirectory).1 with
    | directory _ hOnce _ => exact hOnce
  have hFound : tree.entryAt? (way ++ [entry.1]) = some entry.2 := by
    rw [Entry.entryAt?_append, hDirectory, Option.bind_some, Entry.entryAt?_directory,
      (lookup_eq_some_iff_mem hOnce).2 hEntry]
    rfl
  have hSource := hFiles _ _ hFound (by simpa [isPythonWay] using hEnding)
  obtain ⟨content, hContent⟩ := exists_file_of_source? hSource
  rw [hContent]
  rfl

/-- Over a whole tree the Python files are looked at in the order of the walk. -/
theorem pythonEntries_of_locate (hTree : disk.locate (normal start) = .ok tree) :
    pythonEntries disk start =
      (tree.fileWays.filter isPythonWay).map fun way => normal (way.foldl join start) := by
  have hWays : (tree.listings []).flatMap Listing.ways = tree.fileWays := by
    simpa using Entry.flatMap_listings [] tree
  rw [← hWays, List.filter_flatMap, List.map_flatMap, pythonEntries, Disk.walk, hTree]
  refine List.flatMap_congr fun l hMember => pythonEntries_listing start l fun entry => ?_
  exact isFile_of_mem_listings hNamed hFiles hMember

/-- Whatever is named like a Python file is one. -/
theorem mem_pythonWays_iff :
    way ∈ tree.fileWays.filter isPythonWay ↔ isPythonWay way ∧ (tree.entryAt? way).isSome := by
  rw [List.mem_filter, Entry.mem_fileWays_iff hNamed]
  constructor
  · rintro ⟨⟨-, file, hFound, -⟩, hPython⟩
    exact ⟨hPython, by rw [hFound]; rfl⟩
  · rintro ⟨hPython, hFound⟩
    obtain ⟨e, hEntry⟩ := Option.isSome_iff_exists.1 hFound
    obtain ⟨content, rfl⟩ := exists_file_of_source? (hFiles way e hEntry hPython)
    exact ⟨⟨ne_nil_of_isPythonWay hPython, _, hEntry, rfl⟩, hPython⟩

/-- The snippets of a walk are those of its files. -/
theorem walkedSnippets_eq (hTree : disk.locate (normal start) = .ok tree) :
    walkedSnippets disk start =
      .ok ((tree.fileWays.filter isPythonWay).flatMap (tree.snippetsAt start)) := by
  have hRead : ∀ way ∈ tree.fileWays.filter isPythonWay,
      fileSnippets disk (normal (way.foldl join start)) = .ok (tree.snippetsAt start way) := by
    intro way hWay
    obtain ⟨hPython, hFound⟩ := (mem_pythonWays_iff hNamed hFiles).1 hWay
    obtain ⟨e, hEntry⟩ := Option.isSome_iff_exists.1 hFound
    obtain ⟨source, hSource⟩ := Option.isSome_iff_exists.1 (hFiles way e hEntry hPython)
    have hNames := (Entry.wellNamed_of_entryAt? hNamed hEntry).2
    rw [fileSnippets, Entry.snippetsAt, hEntry, Option.bind_some, hSource,
      readText_of_source? hTree (fun name hName => (hNames name hName).1) hEntry hSource]
    rfl
  have hAll : ((tree.fileWays.filter isPythonWay).map fun way =>
      normal (way.foldl join start)).mapM (fileSnippets disk) =
        .ok ((tree.fileWays.filter isPythonWay).map (tree.snippetsAt start)) := by
    rw [List.mapM_map]
    exact mapM_eq_ok_map hRead
  rw [walkedSnippets, pythonEntries_of_locate hNamed hFiles hTree, hAll]
  rfl

end Walk

/-- The Python files below a path, in UTF-8, and with definitions that stand where they should. The
snippets come file by file, as a walk meets the files, and ordered by path they are those of the
whole. A source that is not well formed has none. In any other, each function and class gives one, a
definition before those inside it. A snippet has as many line feeds as its lines are apart, and
holds the content of each definition in its body. -/
theorem walkedSnippets_of_placedIn (disk : Disk) (start : Text) (tree : Entry)
    (hRoot : disk.root.WellNamed) (hTree : disk.locate (normal start) = .ok tree)
    (hFiles : ∀ way e, tree.entryAt? way = some e → isPythonWay way → e.source?.isSome)
    (hPlaced : ∀ way e source t, tree.entryAt? way = some e → isPythonWay way →
      e.source? = some source → parse source = some t → t.PlacedIn source) :
    ∃ (ways : List (List Text)) (found : List Text → List Snippet),
      (∀ way, way ∈ ways ↔ isPythonWay way ∧ (tree.entryAt? way).isSome) ∧
      ways.Pairwise tree.Precedes ∧
      walkedSnippets disk start = .ok (ways.flatMap found) ∧
      snippets disk start =
        .ok ((ways.flatMap found).mergeSort fun a b => Text.le a.path b.path) ∧
      ∀ way ∈ ways, ∀ e source, tree.entryAt? way = some e → e.source? = some source →
        (parse source = none → found way = []) ∧
        ∀ t, parse source = some t → ∃ order snippet,
          IsOutline (normal (way.foldl join start)) source t order snippet ∧
            found way = order.map snippet := by
  obtain ⟨hNamed, -⟩ := Disk.wellNamed_of_locate hRoot hTree
  have hWalked := walkedSnippets_eq hNamed hFiles hTree
  refine ⟨_, tree.snippetsAt start, fun way => mem_pythonWays_iff hNamed hFiles,
    (Entry.pairwise_fileWays hNamed).filter _, hWalked, ?_, ?_⟩
  · rw [snippets, hWalked]
    rfl
  · intro way hWay e source hEntry hSource
    obtain ⟨hPython, -⟩ := (mem_pythonWays_iff hNamed hFiles).1 hWay
    rw [Entry.snippetsAt, hEntry, Option.bind_some, hSource, Option.elim_some]
    refine ⟨sourceSnippets_of_malformed _, fun t hParse => ?_⟩
    have hOutline := isOutline_of_placedIn (normal (way.foldl join start)) hParse
      (hPlaced way e source t hEntry hPython hSource hParse)
    exact ⟨_, _, hOutline, sourceSnippets_of_parse _ hParse⟩

def methodSource : List Char := "class É:\n  def f():\n    return 'ä'\n".toList

/-- The class in a file with other line ends. -/
def methodFile : Entry :=
  .file (Utf8.encode "class É:\r\n  def f():\r\n    return 'ä'\r\n".toList)

/-- A file that is not well formed. -/
def brokenFile : Entry := .file (Utf8.encode "def".toList)

def methodFiles : Entry :=
  .directory [("bad.py", brokenFile), ("lib", .directory [("ok.py", methodFile)])]

def methodDisk : Disk := ⟨.directory [("app", methodFiles)], []⟩

theorem eq_of_entryAt?_methodFiles (hEntry : methodFiles.entryAt? way = some e)
    (hPython : isPythonWay way) : e = brokenFile ∨ e = methodFile := by
  obtain ⟨name, way, rfl⟩ := List.exists_cons_of_ne_nil (ne_nil_of_isPythonWay hPython)
  obtain ⟨inner, hMember, hRest⟩ := Entry.exists_of_entryAt?_cons hEntry
  rcases List.mem_pair.1 hMember with hFirst | hSecond
  · cases hFirst
    exact .inl (Entry.eq_of_entryAt?_file hRest)
  · cases hSecond
    have hBelow : way ≠ [] := by
      rintro rfl
      exact absurd hPython (by decide)
    obtain ⟨name, way, rfl⟩ := List.exists_cons_of_ne_nil hBelow
    obtain ⟨inner, hOnly, hLast⟩ := Entry.exists_of_entryAt?_cons hRest
    cases List.mem_singleton.1 hOnly
    exact .inr (Entry.eq_of_entryAt?_file hLast)

/-- A file that cannot be parsed gives no snippets. The snippet of a method is a part of the snippet
of its class. -/
theorem walkedSnippets_of_placedIn_method :
    ∃ (ways : List (List Text)) (found : List Text → List Snippet),
      walkedSnippets methodDisk "app/" = .ok (ways.flatMap found) ∧
      [Text.ofString "bad.py"] ∈ ways ∧ found [Text.ofString "bad.py"] = [] ∧
      [Text.ofString "lib", "ok.py"] ∈ ways ∧
      ∃ t order snippet, parse methodSource = some t ∧
        IsOutline "app/lib/ok.py" methodSource t order snippet ∧
        found [Text.ofString "lib", "ok.py"] = order.map snippet ∧
        ∃ d ∈ order, ∃ inner ∈ d.nested, (snippet inner).content <:+: (snippet d).content := by
  have hLib : (Entry.directory [("ok.py", methodFile)]).WellNamed :=
    .directory (by decide) (by decide) (List.forall_mem_singleton.2 (.file _))
  have hNamed : methodFiles.WellNamed := .directory (by decide) (by decide)
    (List.forall_mem_cons.2 ⟨.file _, List.forall_mem_singleton.2 hLib⟩)
  have hRoot : methodDisk.root.WellNamed := .directory (by decide) (by decide)
    (List.forall_mem_singleton.2 hNamed)
  have hBroken : brokenFile.source? = some "def".toList := by decide +kernel
  have hMethod : methodFile.source? = some methodSource := by decide +kernel
  have hFiles : ∀ way e, methodFiles.entryAt? way = some e → isPythonWay way →
      e.source?.isSome := by
    intro way e hEntry hPython
    rcases eq_of_entryAt?_methodFiles hEntry hPython with rfl | rfl
    · rw [hBroken]
      rfl
    · rw [hMethod]
      rfl
  have hNone : parse "def".toList = none := by decide +kernel
  have hStands : (parse methodSource).all fun t => decide (t.PlacedIn methodSource) := by
    decide +kernel
  have hInner : (parse methodSource).any fun t => (t.nodes.filter isDefinition).any fun d =>
      !d.nested.isEmpty := by
    decide +kernel
  obtain ⟨ways, found, hWays, -, hWalked, -, hFound⟩ := walkedSnippets_of_placedIn methodDisk "app/"
    methodFiles hRoot rfl hFiles fun way e source t hEntry hPython hSource hParse => by
      rcases eq_of_entryAt?_methodFiles hEntry hPython with rfl | rfl
      · rw [hBroken, Option.some.injEq] at hSource
        rw [← hSource, hNone] at hParse
        cases hParse
      · rw [hMethod, Option.some.injEq] at hSource
        rw [← hSource] at hParse ⊢
        simpa [hParse] using hStands
  have hFirst : [Text.ofString "bad.py"] ∈ ways := (hWays _).2 ⟨by decide, rfl⟩
  have hSecond : [Text.ofString "lib", "ok.py"] ∈ ways := (hWays _).2 ⟨by decide, rfl⟩
  refine ⟨ways, found, hWalked, hFirst, (hFound _ hFirst _ _ rfl hBroken).1 hNone, hSecond, ?_⟩
  cases hParse : parse methodSource with
  | none =>
      rw [hParse] at hInner
      cases hInner
  | some t =>
      obtain ⟨order, snippet, hOutline, hOrder⟩ := (hFound _ hSecond _ _ rfl hMethod).2 t hParse
      refine ⟨t, order, snippet, rfl, hOutline, hOrder, ?_⟩
      rw [hParse] at hInner
      obtain ⟨d, hMember, hSome⟩ := List.any_eq_true.1 hInner
      obtain ⟨inner, hNested⟩ := List.exists_mem_of_ne_nil _ (by simpa using hSome)
      have hDefinition := hOutline.perm.mem_iff.2 hMember
      exact ⟨d, hDefinition, inner, hNested, (hOutline.nested d hDefinition inner hNested).2⟩

end RepoAudit
