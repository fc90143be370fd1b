import RepoAudit.Flow.Project
import RepoAudit.Proofs.Directory.Files
import RepoAudit.Proofs.Text.Case

/-!
Where a project lies and which of its files are analysed. Words that leave a directory out are
sought in its whole path, so also in the path of the project. Main statement: wherever a project
lies, the files found in it are the same, unless its path holds such a word; then there are none.
-/
namespace RepoAudit

open RepoAudit.Path

/-- The words that leave directories out. They are also those that leave files out. -/
def leftOut : List Text := Exclusion.standard.directories

/-- The names that lead from one path to another that goes on from it. -/
def wayFrom? (start path : Text) : Option (List Text) := dropLead? (parts start) (parts path)

def waysFrom (start : Text) (found : List Text) : List (List Text) :=
  found.filterMap (wayFrom? start)

/-- A way to a Python file of a project that is no test, no example and no sample, and in no
directory of such. -/
structure Entry.IsPythonFile (tree : Entry) (way : List Text) : Prop where
  isFile : ∃ file, tree.entryAt? way = some file ∧ file.isFile = true
  isPython : ∃ name, way.getLast? = some name ∧ Text.ofString ".py" <:+ name
  unmarked : ∀ name ∈ way, marked leftOut name = false

def pythonFile? (start : Text) (way : List Text) : Option Text :=
  if marked leftOut (way.dropLast.foldl join start) then none
  else if way.getLast?.any fun name => (Text.ofString ".py").isSuffixOf name && !marked leftOut name
  then some (normal (way.foldl join start)) else none

variable {disk : Disk} {start path : Text} {tree : Entry} {way : List Text}

section Marks

/-- No word that marks holds a slash, so a path is marked if one of its parts is. -/
theorem marked_append_slash (front back : Text) :
    marked leftOut (front ++ slash :: back) = (marked leftOut front || marked leftOut back) := by
  have hWords : ∀ word ∈ leftOut, slash ∉ word := by decide
  rw [Bool.eq_iff_iff]
  simp only [marked, Text.lower_append_slash, List.any_eq_true, Bool.or_eq_true, occursIn_iff]
  constructor
  · rintro ⟨word, hWord, hFound⟩
    rw [infix_append_cons_iff (hWords word hWord)] at hFound
    exact hFound.imp (fun h => ⟨word, hWord, h⟩) fun h => ⟨word, hWord, h⟩
  · rintro (⟨word, hWord, hFound⟩ | ⟨word, hWord, hFound⟩)
    · exact ⟨word, hWord, (infix_append_cons_iff (hWords word hWord)).2 (.inl hFound)⟩
    · exact ⟨word, hWord, (infix_append_cons_iff (hWords word hWord)).2 (.inr hFound)⟩

/-- A joined path is marked if the directory or the name is. -/
theorem marked_join {name : Text} (hName : IsName name) :
    marked leftOut (join path name) = (marked leftOut path || marked leftOut name) := by
  have hNone : marked leftOut [] = false := by decide
  have hRelative := isAbsolute_of_isName hName
  by_cases hEmpty : path = []
  · simp [join, hRelative, hEmpty, hNone]
  · by_cases hLast : path.getLast? = some slash
    · obtain ⟨front, rfl⟩ := List.getLast?_eq_some_iff.1 hLast
      rw [join_concat hName.1.2.2, marked_append_slash, marked_append_slash, hNone, Bool.or_false]
    · rw [join_of_not_mem hEmpty hLast hName.1.2.2, marked_append_slash]

/-- A path below the start is marked if the start is, or one of the names behind it. -/
theorem marked_foldl_join (h : ∀ name ∈ way, IsName name) :
    marked leftOut (way.foldl join start) = (marked leftOut start || way.any (marked leftOut)) := by
  induction way generalizing start with
  | nil => simp
  | cons name way ih =>
      obtain ⟨hName, hWay⟩ := List.forall_mem_cons.1 h
      rw [List.foldl_cons, ih hWay, marked_join hName, List.any_cons, Bool.or_assoc]

end Marks

section Walk

theorem pythonFile?_concat (start : Text) (below : List Text) (name : Text) :
    pythonFile? start (below ++ [name]) =
      if marked leftOut (below.foldl join start) then none
      else if (Text.ofString ".py").isSuffixOf name && !marked leftOut name then
        some (normal (join (below.foldl join start) name))
      else none := by
  simp [pythonFile?, List.foldl_append]

/-- In a directory those Python files are taken up whose paths are not marked. -/
theorem pythonFiles_listing (start : Text) (l : Listing) :
    l.pythonFiles start .standard = l.ways.filterMap (pythonFile? start) := by
  have hDirectories : Exclusion.standard.directories = leftOut := rfl
  have hFiles : Exclusion.standard.files = leftOut := rfl
  simp only [Listing.pythonFiles, Listing.path, hDirectories, hFiles, Listing.ways,
    List.filterMap_map, Function.comp_def, pythonFile?_concat]
  split
  · simp
  · rw [← List.filterMap_eq_map, List.filterMap_filter]
    rfl

/-- Over a whole tree those Python files are taken up whose paths are not marked. -/
theorem pythonFiles_of_locate (h : disk.locate start = .ok tree) :
    pythonFiles disk start .standard = tree.fileWays.filterMap (pythonFile? start) := by
  have hListing : Listing.pythonFiles start .standard =
      fun l => l.ways.filterMap (pythonFile? start) := funext (pythonFiles_listing start)
  rw [pythonFiles, Disk.walk, h, hListing, ← List.filterMap_flatMap, Entry.flatMap_listings]
  simp

/-- A file is taken up if it is a Python file and the path of the start is not marked. -/
theorem pythonFile?_eq_some_iff (hTree : tree.WellNamed) (hWay : way ∈ tree.fileWays) :
    pythonFile? start way = some path ↔ (marked leftOut start = false ∧ tree.IsPythonFile way) ∧
      normal (way.foldl join start) = path := by
  obtain ⟨hSome, hFile⟩ := (Entry.mem_fileWays_iff hTree).1 hWay
  have hNames := Entry.isEntryName_of_mem_fileWays hTree hWay
  obtain ⟨below, name, rfl⟩ := (List.eq_nil_or_concat' way).resolve_left hSome
  have hBelow : ∀ name ∈ below, IsName name := fun name hName =>
    (hNames name (List.mem_append_left _ hName)).1
  have hPython : tree.IsPythonFile (below ++ [name]) ↔ Text.ofString ".py" <:+ name ∧
      (∀ name ∈ below, marked leftOut name = false) ∧ marked leftOut name = false := by
    constructor
    · intro h
      obtain ⟨last, hLast, hEnding⟩ := h.isPython
      obtain rfl : name = last := by simpa using hLast
      simpa [hEnding, or_imp, forall_and] using h.unmarked
    · rintro ⟨hEnding, hUnmarked⟩
      exact ⟨hFile, ⟨name, by simp, hEnding⟩, by simpa [or_imp, forall_and] using hUnmarked⟩
  have hAny : below.any (marked leftOut) = false ↔ ∀ name ∈ below, marked leftOut name = false := by
    simp
  rw [pythonFile?_concat, marked_foldl_join hBelow, hPython, List.foldl_append, ← hAny,
    ← List.isSuffixOf_iff_suffix]
  generalize below.any (marked leftOut) = inMarked
  cases marked leftOut start with
  | true => simp
  | false => cases inMarked <;> simp [and_assoc]

/-- The way to a file can be told from its path and the start. -/
theorem wayFrom?_normal (h : ∀ name ∈ way, IsName name) :
    wayFrom? start (normal (way.foldl join start)) = some way := by
  rw [wayFrom?, parts_normal, parts_foldl_join h, dropLead?_eq_some]

/-- The files found from a path lie below it. They are the Python files of the project there,
unless the path itself is marked. -/
theorem mem_waysFrom_iff (hTree : tree.WellNamed) (h : disk.locate start = .ok tree) :
    way ∈ waysFrom start (pythonFiles disk start .standard) ↔
      marked leftOut start = false ∧ tree.IsPythonFile way := by
  have hNames {way : List Text} (hWay : way ∈ tree.fileWays) : ∀ name ∈ way, IsName name :=
    fun name hName => (Entry.isEntryName_of_mem_fileWays hTree hWay name hName).1
  rw [pythonFiles_of_locate h, waysFrom, List.mem_filterMap]
  constructor
  · rintro ⟨path, hPath, hBack⟩
    obtain ⟨other, hOther, hFile⟩ := List.mem_filterMap.1 hPath
    obtain ⟨hTaken, rfl⟩ := (pythonFile?_eq_some_iff hTree hOther).1 hFile
    rw [wayFrom?_normal (hNames hOther)] at hBack
    exact Option.some.inj hBack ▸ hTaken
  · intro hTaken
    obtain ⟨name, hLast, -⟩ := hTaken.2.isPython
    have hWay : way ∈ tree.fileWays :=
      (Entry.mem_fileWays_iff hTree).2 ⟨fun hNil => by simp [hNil] at hLast, hTaken.2.isFile⟩
    refine ⟨_, List.mem_filterMap.2 ⟨way, hWay, ?_⟩, wayFrom?_normal (hNames hWay)⟩
    exact (pythonFile?_eq_some_iff hTree hWay).2 ⟨hTaken, rfl⟩

/-- Each file that is found has a way from the start. -/
theorem isSome_wayFrom? (hTree : tree.WellNamed) (h : disk.locate start = .ok tree)
    (hPath : path ∈ pythonFiles disk start .standard) : (wayFrom? start path).isSome = true := by
  rw [pythonFiles_of_locate h] at hPath
  obtain ⟨way, hWay, hFile⟩ := List.mem_filterMap.1 hPath
  obtain ⟨-, rfl⟩ := (pythonFile?_eq_some_iff hTree hWay).1 hFile
  rw [wayFrom?_normal fun name hName =>
    (Entry.isEntryName_of_mem_fileWays hTree hWay name hName).1]
  rfl

end Walk

/-- The same project at two paths. From either path the files found are those of the project, named
from there, unless the path holds a word that leaves directories out; then none is found. So the two
paths lead to the same files exactly if both or none of them hold such a word, or there are no files
to be found. -/
theorem findPythonFiles_placed_iff (disk disk' : Disk) (start start' : Text) (tree : Entry)
    (hRoot : disk.root.WellNamed) (hRoot' : disk'.root.WellNamed)
    (hStart : disk.locate start = .ok tree) (hStart' : disk'.locate start' = .ok tree) :
    ∃ found found', findPythonFiles disk start .standard = .ok found ∧
      findPythonFiles disk' start' .standard = .ok found' ∧
      (∀ path ∈ found, (wayFrom? start path).isSome = true) ∧
      (∀ path ∈ found', (wayFrom? start' path).isSome = true) ∧
      (∀ way, way ∈ waysFrom start found ↔
        marked leftOut start = false ∧ tree.IsPythonFile way) ∧
      (∀ way, way ∈ waysFrom start' found' ↔
        marked leftOut start' = false ∧ tree.IsPythonFile way) ∧
      ((∀ way, way ∈ waysFrom start found ↔ way ∈ waysFrom start' found') ↔
        marked leftOut start = marked leftOut start' ∨ ∀ way, ¬tree.IsPythonFile way) := by
  obtain ⟨hTree, hCheck⟩ := Disk.wellNamed_of_locate hRoot hStart
  obtain ⟨-, hCheck'⟩ := Disk.wellNamed_of_locate hRoot' hStart'
  refine ⟨pythonFiles disk start .standard, pythonFiles disk' start' .standard, ?_, ?_,
    fun path => isSome_wayFrom? hTree hStart, fun path => isSome_wayFrom? hTree hStart',
    fun way => mem_waysFrom_iff hTree hStart, fun way => mem_waysFrom_iff hTree hStart', ?_⟩
  · rw [findPythonFiles, hCheck]
    rfl
  · rw [findPythonFiles, hCheck']
    rfl
  · simp only [mem_waysFrom_iff hTree hStart, mem_waysFrom_iff hTree hStart']
    cases marked leftOut start <;> cases marked leftOut start' <;> simp

def placedProject : Entry := .directory [("main.py", .file [])]

/-- A project in a directory of a harmless name and in one whose name holds "test". -/
def placedDisk : Disk := ⟨.directory [("app", placedProject), ("latest", placedProject)], []⟩

/-- The file of the project is found where the directory has the harmless name, and nothing is found
where it has the other. -/
theorem findPythonFiles_placed_iff_latest :
    ∃ found found', findPythonFiles placedDisk "app" .standard = .ok found ∧
      findPythonFiles placedDisk "latest" .standard = .ok found' ∧
      [Text.ofString "main.py"] ∈ waysFrom "app" found ∧
      ∀ way, way ∉ waysFrom "latest" found' := by
  have hProject : placedProject.WellNamed := .directory (by decide) (by decide)
    (List.forall_mem_singleton.2 (.file _))
  have hRoot : placedDisk.root.WellNamed := .directory (by decide) (by decide)
    (List.forall_mem_cons.2 ⟨hProject, List.forall_mem_singleton.2 hProject⟩)
  obtain ⟨found, found', hFound, hFound', -, -, hWays, hWays', -⟩ := findPythonFiles_placed_iff
    placedDisk placedDisk "app" "latest" placedProject hRoot hRoot rfl rfl
  have hPython : placedProject.IsPythonFile ["main.py"] :=
    ⟨⟨.file [], rfl, rfl⟩, ⟨"main.py", rfl, by decide⟩, by decide⟩
  have hApp : marked leftOut "app" = false := by decide
  have hLatest : marked leftOut "latest" = true := by decide
  refine ⟨found, found', hFound, hFound', (hWays _).2 ⟨hApp, hPython⟩, fun way hWay => ?_⟩
  rw [hWays', hLatest] at hWay
  cases hWay.1

end RepoAudit
