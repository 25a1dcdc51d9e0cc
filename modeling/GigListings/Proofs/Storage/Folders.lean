import GigListings.Proofs.Except
import GigListings.Proofs.Text.Pieces
import GigListings.Storage.Disk

namespace GigListings.Disk

/-! Folders that have been made stay, whatever files are written, and files are read as they were
written. -/

theorem file?_putFile (path other : DiskPath) (text : String)
    (files : List (DiskPath × String)) :
    (putFile path text files).lookup other =
      if other = path then some text else files.lookup other := by
  induction files with
  | nil =>
      rw [putFile, List.lookup_cons]
      by_cases same : other = path
      · rw [if_pos same, beq_iff_eq.mpr same]
      · rw [if_neg same, beq_eq_false_iff_ne.mpr same]
  | cons entry rest induction =>
      obtain ⟨found, old⟩ := entry
      rw [putFile]
      split
      · rename_i here
        subst here
        rw [List.lookup_cons, List.lookup_cons]
        by_cases same : other = found
        · rw [if_pos same, beq_iff_eq.mpr same]
        · rw [if_neg same, beq_eq_false_iff_ne.mpr same]
      · rename_i elsewhere
        rw [List.lookup_cons, List.lookup_cons, induction]
        by_cases same : other = found
        · have missed : other ≠ path := fun here => elsewhere (same.symm.trans here)
          simp only [if_neg missed]
        · rw [beq_eq_false_iff_ne.mpr same]

/-- Names lead from a path through folders that are there. -/
def HasFoldersFrom (disk : Disk) (path : DiskPath) : List String → Prop
  | [] => True
  | name :: rest =>
      DiskPath.isName name ∧ disk.file? (path.step name) = none ∧
        disk.isFolder (path.step name) ∧ disk.HasFoldersFrom (path.step name) rest

def HasFolders (disk : Disk) (path : String) : Prop :=
  disk.HasFoldersFrom (DiskPath.start path).1 (DiskPath.start path).2

theorem makeFoldersFrom_of_hasFoldersFrom {disk : Disk} {path : DiskPath} {names : List String}
    (there : disk.HasFoldersFrom path names) : disk.makeFoldersFrom path names = .ok disk := by
  induction names generalizing path with
  | nil => rfl
  | cons name rest induction =>
      obtain ⟨isName, noFile, folder, others⟩ := there
      simp [makeFoldersFrom, isName, noFile, folder, induction others]

theorem makeFolders_of_hasFolders {disk : Disk} {path : String} (there : disk.HasFolders path) :
    disk.makeFolders path = .ok disk :=
  makeFoldersFrom_of_hasFoldersFrom there

theorem makeFoldersFrom_keeps {disk made : Disk} {path : DiskPath} {names : List String}
    (making : disk.makeFoldersFrom path names = .ok made) :
    made.files = disk.files ∧ ∀ other, disk.isFolder other → made.isFolder other := by
  induction names generalizing disk path with
  | nil =>
      cases making
      exact ⟨rfl, fun _ folder => folder⟩
  | cons name rest induction =>
      rw [makeFoldersFrom] at making
      split at making
      · cases making
      · split at making
        · cases making
        · split at making
          · exact induction making
          · obtain ⟨files, folders⟩ := induction making
            refine ⟨files, fun other folder => folders other ?_⟩
            simp only [isFolder, Bool.or_eq_true, List.contains_cons] at folder ⊢
            rcases folder with known | listed
            · exact Or.inl known
            · exact Or.inr (Or.inr listed)

theorem hasFoldersFrom_of_makeFoldersFrom {disk made : Disk} {path : DiskPath}
    {names : List String} (making : disk.makeFoldersFrom path names = .ok made) :
    made.HasFoldersFrom path names := by
  induction names generalizing disk path with
  | nil => trivial
  | cons name rest induction =>
      rw [makeFoldersFrom] at making
      split at making
      · cases making
      · rename_i isName
        split at making
        · cases making
        · rename_i noFile
          have noFileLater {later : Disk} (files : later.files = disk.files) :
              later.file? (path.step name) = none := by
            rw [file?, files]
            exact Option.not_isSome_iff_eq_none.mp noFile
          split at making
          · rename_i folder
            obtain ⟨files, folders⟩ := makeFoldersFrom_keeps making
            exact ⟨by simpa using isName, noFileLater files, folders _ folder, induction making⟩
          · obtain ⟨files, folders⟩ := makeFoldersFrom_keeps making
            exact ⟨by simpa using isName, noFileLater files, folders _ (by simp [isFolder]),
              induction making⟩

theorem hasFolders_of_makeFolders {disk made : Disk} {path : String}
    (making : disk.makeFolders path = .ok made) : made.HasFolders path :=
  hasFoldersFrom_of_makeFoldersFrom making

theorem HasFoldersFrom.putFile {disk : Disk} {path file : DiskPath} {names : List String}
    (there : disk.HasFoldersFrom path names) (noFolder : ¬disk.isFolder file) (text : String) :
    HasFoldersFrom { disk with files := putFile file text disk.files } path names := by
  induction names generalizing path with
  | nil => trivial
  | cons name rest induction =>
      obtain ⟨isName, noFile, folder, others⟩ := there
      refine ⟨isName, ?_, folder, induction others⟩
      have apart : path.step name ≠ file := by
        rintro rfl
        exact noFolder folder
      rw [file?, file?_putFile, if_neg apart]
      exact noFile

theorem exists_of_write {disk written : Disk} {path text : String}
    (writing : disk.write path text = .ok written) :
    ∃ place, disk.locate path = .ok place ∧ ¬disk.isFolder place ∧
      written = { disk with files := putFile place text disk.files } := by
  obtain ⟨place, located, put⟩ := Except.bind_eq_ok.mp writing
  split at put
  · cases put
  · rename_i noFolder
    cases put
    exact ⟨place, located, noFolder, rfl⟩

theorem HasFolders.write {disk written : Disk} {path other text : String}
    (there : disk.HasFolders path) (writing : disk.write other text = .ok written) :
    written.HasFolders path := by
  obtain ⟨place, -, noFolder, rfl⟩ := exists_of_write writing
  exact HasFoldersFrom.putFile there noFolder text

/-! A file that has been written is read. -/

theorem follow_of_folders {disk other : Disk} (folders : other.folders = disk.folders)
    {path place : DiskPath} {names : List String} (leads : disk.follow path names = .ok place) :
    other.follow path names = .ok place := by
  induction names generalizing path with
  | nil => exact leads
  | cons name rest induction =>
      have sameFolder : other.isFolder path = disk.isFolder path := by
        rw [isFolder, isFolder, folders]
      rw [follow] at leads ⊢
      rw [sameFolder]
      split at leads
      · rename_i folder
        rw [if_pos folder]
        split at leads
        · rename_i isName
          rw [if_pos isName]
          exact induction leads
        · cases leads
      · split at leads
        · cases leads
        · cases leads

theorem locate_of_folders {disk other : Disk} {path : String} {place : DiskPath}
    (located : disk.locate path = .ok place) (folders : other.folders = disk.folders) :
    other.locate path = .ok place := by
  unfold locate at located ⊢
  split at located
  · cases located
  · rename_i nonempty
    rw [if_neg nonempty]
    exact follow_of_folders folders located

theorem read_of_file? {disk : Disk} {path text : String} {place : DiskPath}
    (located : disk.locate path = .ok place) (found : disk.file? place = some text) :
    disk.read path = .ok text :=
  Except.bind_eq_ok.mpr ⟨place, located, by rw [found]; rfl⟩

theorem read_of_write {disk written : Disk} {path text : String}
    (writing : disk.write path text = .ok written) : written.read path = .ok text := by
  obtain ⟨place, located, -, rfl⟩ := exists_of_write writing
  exact read_of_file? (locate_of_folders located rfl) ((file?_putFile ..).trans (if_pos rfl))

theorem read_congr {disk : Disk} {path other : String}
    (same : disk.locate path = disk.locate other) : disk.read path = disk.read other := by
  rw [read, read, same]

end GigListings.Disk

namespace GigListings

/-! Where the names in a folder lead. Different names lead to different places. -/

namespace DiskPath

/-- A name that leads to something in a folder, not up from it or past it. -/
structure IsFileName (name : String) : Prop where
  noSeparator : '/' ∉ name.toList
  ne_empty : name ≠ ""
  ne_here : name ≠ "."
  ne_up : name ≠ ".."

namespace IsFileName

variable {name : String} (fileName : IsFileName name)
include fileName

theorem step (path : DiskPath) : path.step name = path ++ [name] := by
  rw [DiskPath.step, if_neg (not_or.mpr ⟨fileName.ne_empty, fileName.ne_here⟩),
    if_neg fileName.ne_up]

theorem toList_join (folder : String) :
    (join folder name).toList = name.toList ∨
      ∃ front, (join folder name).toList = front ++ '/' :: name.toList := by
  have relative : ¬name.toList.head? = some '/' :=
    fun absolute => fileName.noSeparator (List.mem_of_head? absolute)
  by_cases empty : folder = ""
  · rw [join, if_pos (Or.inr empty)]
    exact Or.inl rfl
  · rw [join, if_neg (not_or.mpr ⟨relative, empty⟩)]
    refine Or.inr ?_
    split
    · rename_i closed
      obtain ⟨front, text⟩ := List.getLast?_eq_some_iff.mp closed
      exact ⟨front, by rw [String.toList_append, text, List.append_assoc]; rfl⟩
    · exact ⟨folder.toList, by
        rw [String.toList_append, String.toList_append, List.append_assoc]; rfl⟩

theorem splitOn : (Text.splitOn (· == '/') name.toList).map String.ofList = [name] := by
  have unseparated : ∀ c ∈ name.toList, (c == '/') = false := by
    intro c member
    refine beq_eq_false_iff_ne.mpr ?_
    rintro rfl
    exact fileName.noSeparator member
  rw [Text.splitOn_of_unseparated unseparated]
  exact congrArg (· :: []) String.ofList_toList

theorem splitOn_append (front : List Char) :
    (Text.splitOn (· == '/') (front ++ '/' :: name.toList)).map String.ofList =
      (Text.splitOn (· == '/') front).map String.ofList ++ [name] := by
  rw [Text.splitOn_append_cons rfl, List.map_append, fileName.splitOn]

theorem exists_start_join (folder : String) :
    ∃ place names, start (join folder name) = (place, names ++ [name]) := by
  rcases fileName.toList_join folder with alone | ⟨front, text⟩
  · refine ⟨[], [], ?_⟩
    rw [start, alone]
    split
    · rename_i rest absolute
      exact absurd (absolute ▸ List.mem_cons_self) fileName.noSeparator
    · rw [fileName.splitOn, List.nil_append]
  · rw [start, text]
    cases front with
    | nil => exact ⟨root, [], by simp only [List.nil_append, fileName.splitOn]⟩
    | cons c front =>
        rw [List.cons_append]
        split
        · rename_i rest absolute
          obtain ⟨-, rfl⟩ := List.cons.inj absolute
          exact ⟨root, _, by rw [fileName.splitOn_append front]⟩
        · exact ⟨[], _, by rw [← List.cons_append, fileName.splitOn_append (c :: front)]⟩

end IsFileName

end DiskPath

namespace Disk

theorem follow_append (disk : Disk) (path : DiskPath) (names others : List String) :
    disk.follow path (names ++ others) =
      (disk.follow path names >>= fun inside => disk.follow inside others) := by
  induction names generalizing path with
  | nil => rfl
  | cons name names induction =>
      rw [List.cons_append, follow, follow, induction]
      split
      · split <;> rfl
      · split <;> rfl

variable {disk : Disk} {folder name other : String} {place : DiskPath}

theorem exists_of_locate_join (fileName : DiskPath.IsFileName name)
    (located : disk.locate (DiskPath.join folder name) = .ok place) :
    ∃ path, place = path ++ [name] := by
  obtain ⟨start, names, starts⟩ := fileName.exists_start_join folder
  unfold locate at located
  split at located
  · cases located
  · rw [starts] at located
    obtain ⟨path, -, step⟩ :=
      Except.bind_eq_ok.mp ((follow_append disk start names [name]).symm.trans located)
    refine ⟨path, ?_⟩
    rw [follow] at step
    split at step
    · split at step
      · cases step
        exact fileName.step path
      · cases step
    · split at step <;> cases step

theorem locate_join_eq_iff (fileName : DiskPath.IsFileName name)
    (otherFileName : DiskPath.IsFileName other)
    (located : disk.locate (DiskPath.join folder name) = .ok place) :
    disk.locate (DiskPath.join folder name) = disk.locate (DiskPath.join folder other) ↔
      name = other := by
  constructor
  · intro same
    obtain ⟨path, rfl⟩ := exists_of_locate_join fileName located
    obtain ⟨otherPath, last⟩ := exists_of_locate_join otherFileName (same.symm.trans located)
    exact (List.append_singleton_inj.mp last).2
  · rintro rfl
    rfl

end Disk

end GigListings
