import RepoAudit.Discovery.Inventory
import RepoAudit.Proofs.Directory.Files

/-!
The files of a project. Main statement: they are all listed, each once and in the order of a walk,
under names that do not depend on how the path of the project is spelled.
-/
namespace RepoAudit.Discovery

open RepoAudit.Path

variable {disk : Disk} {start : Text} {tree : Entry}

/-- A file is named by its way from the start, however the start is spelled. -/
theorem fileTree_of_locate (hTree : tree.WellNamed) (h : disk.locate start = .ok tree) :
    fileTree disk start = tree.fileWays.map (joinWith [slash]) := by
  have hListing (l : Listing) :
      (l.files.map fun name => relative disk.currentPath (join (l.path start) name) start) =
        l.ways.map fun way => relative disk.currentPath (way.foldl join start) start := by
    simp [Listing.ways, Listing.path, List.foldl_append]
  simp only [fileTree, Disk.walk, h, hListing]
  rw [← List.map_flatMap, Entry.flatMap_listings, List.map_map]
  refine List.map_congr_left fun way hWay => ?_
  exact relative_foldl_join (Entry.ne_nil_of_mem_fileWays hWay) fun name hName =>
    (Entry.isEntryName_of_mem_fileWays hTree hWay name hName).1

/-- The files below a directory are listed alike from every path that leads to it, on any disk and
from any working directory: each file once, by the names that lead to it, with the files of a
directory before those of its directories and both in the order of the walk. -/
theorem listFiles_however_spelled (tree : Entry) (hTree : tree.WellNamed) :
    (∀ (disk : Disk) (start : Text), disk.root.WellNamed → disk.locate start = .ok tree →
      listFiles disk start = .ok (tree.fileWays.map (joinWith [slash]))) ∧
    (tree.fileWays.map (joinWith [slash])).Nodup ∧
    (∀ way, way ∈ tree.fileWays ↔
      way ≠ [] ∧ ∃ file, tree.entryAt? way = some file ∧ file.isFile = true) ∧
    tree.fileWays.Pairwise tree.Precedes := by
  refine ⟨fun disk start hRoot hStart => ?_, ?_, fun way => Entry.mem_fileWays_iff hTree,
    Entry.pairwise_fileWays hTree⟩
  · rw [listFiles, (Disk.wellNamed_of_locate hRoot hStart).2, fileTree_of_locate hTree hStart]
    rfl
  · have hBack : (tree.fileWays.map (joinWith [slash])).map parts = tree.fileWays := by
      rw [List.map_map]
      refine (List.map_congr_left fun way hWay => ?_).trans (List.map_id _)
      exact parts_joinWith fun name hName =>
        (Entry.isEntryName_of_mem_fileWays hTree hWay name hName).1.1
    exact .of_map parts (hBack.symm ▸ Entry.nodup_fileWays hTree)

/-- A project with files on both sides of a directory. -/
def smallProject : Entry := .directory [("a.txt", .file []),
  ("src", .directory [("main.py", .file [])]), ("z.txt", .file [])]

/-- The project next to the working directory. -/
def smallDisk : Disk := ⟨.directory [("srv", .directory [("lib", .directory []),
  ("project", smallProject)])], ["srv", "lib"]⟩

/-- The project is listed alike from the root and from the working directory. -/
theorem listFiles_however_spelled_twice :
    listFiles smallDisk "/srv/project" = .ok ["a.txt", "z.txt", "src/main.py"] ∧
    listFiles smallDisk "..//./../srv/lib/../project/" =
      .ok ["a.txt", "z.txt", "src/main.py"] := by
  have hProject : smallProject.WellNamed := by
    refine .directory (by decide) (by decide) ?_
    simp only [List.forall_mem_cons]
    refine ⟨.file _, .directory (by decide) (by decide) ?_, .file _, by simp⟩
    exact List.forall_mem_singleton.2 (.file _)
  have hRoot : smallDisk.root.WellNamed := by
    refine .directory (by decide) (by decide) (List.forall_mem_singleton.2 ?_)
    refine .directory (by decide) (by decide) ?_
    exact List.forall_mem_cons.2
      ⟨.directory (by simp) (by simp) (by simp), List.forall_mem_singleton.2 hProject⟩
  have hListed := (listFiles_however_spelled smallProject hProject).1 smallDisk
  exact ⟨hListed _ hRoot rfl, hListed _ hRoot rfl⟩

end RepoAudit.Discovery
