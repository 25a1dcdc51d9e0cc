import GigListings.Proofs.Calendar.Timestamp
import GigListings.Proofs.Gig.Identity
import GigListings.Proofs.Gig.Reread
import GigListings.Proofs.Storage.Folders

namespace GigListings.GigFile

/-! Files of gigs that are saved one after another into one folder. The name of a file tells the
source and the second; of the batches that a source saves within a second, the last one is kept. -/

/-- Gigs of a source, with the reading of the clock when they are saved, in milliseconds from the
start of 1970. -/
structure Batch where
  source : String
  gigs : List Gig
  savedAt : Int

namespace Batch

def text (batch : Batch) : String := GigFile.text batch.gigs

def fileName (batch : Batch) : String :=
  batch.source ++ "_" ++ (Instant.ofMillis batch.savedAt).secondStamp ++ ".json"

def save (folder : String) (batch : Batch) (disk : Disk) : Except Disk.Fault (String × Disk) :=
  GigFile.save batch.gigs batch.source folder (.ofMillis batch.savedAt) disk

end Batch

structure SavedBatch extends Batch where
  path : String

/-- Batches that were saved, the first one first, and the disk with their files. -/
structure SavedBatches where
  files : List SavedBatch
  disk : Disk

/-- Every path holds the batch that was saved to it. -/
def SavedBatches.Kept (saved : SavedBatches) : Prop :=
  ∀ file ∈ saved.files, saved.disk.read file.path = .ok file.text

instance (saved : SavedBatches) : Decidable saved.Kept :=
  inferInstanceAs (Decidable (∀ file ∈ saved.files, _))

/-- Saves batches one after another. One that cannot be saved leaves the disk as it is. -/
def saveAll (folder : String) : List Batch → Disk → SavedBatches
  | [], disk => ⟨[], disk⟩
  | batch :: batches, disk =>
      match batch.save folder disk with
      | .error _ => saveAll folder batches disk
      | .ok (path, next) =>
          let later := saveAll folder batches next
          ⟨{ batch with path } :: later.files, later.disk⟩

/-! Names of files. -/

namespace Batch

theorem fileName_eq_iff {batch other : Batch} :
    batch.fileName = other.fileName ↔
      batch.source = other.source ∧ batch.savedAt / 1000 = other.savedAt / 1000 := by
  constructor
  · intro same
    have chars : batch.source.toList ++ '_' ::
          ((Instant.ofMillis batch.savedAt).secondStamp.toList ++ ".json".toList) =
        other.source.toList ++ '_' ::
          ((Instant.ofMillis other.savedAt).secondStamp.toList ++ ".json".toList) := by
      simpa [fileName] using congrArg String.toList same
    -- A name has two lines behind its source: the one before the stamp and the one in it.
    have counts : batch.source.toList.count '_' = other.source.toList.count '_' := by
      have total := congrArg (List.count '_') chars
      simpa [List.count_append, Instant.count_secondStamp] using total
    obtain ⟨source, rest⟩ := Text.append_cons_inj counts chars
    exact ⟨String.toList_injective source, Instant.secondStamp_ofMillis_eq_iff.mp
      (String.toList_injective (List.append_cancel_right rest))⟩
  · rintro ⟨source, second⟩
    rw [fileName, fileName, source, Instant.secondStamp_ofMillis_eq_iff.mpr second]

theorem length_fileName (batch : Batch) : ".json".length ≤ batch.fileName.length := by
  rw [fileName, String.length_append]
  exact Nat.le_add_left _ _

theorem isFileName {batch : Batch} (plain : '/' ∉ batch.source.toList) :
    DiskPath.IsFileName batch.fileName where
  noSeparator := by
    intro member
    simp only [fileName, String.toList_append, List.mem_append] at member
    rcases member with ((source | line) | stamp) | ending
    · exact plain source
    · exact absurd line (by decide)
    · rcases Instant.of_mem_secondStamp stamp with line | numeral
      · exact absurd line (by decide)
      · exact absurd numeral (by decide)
    · exact absurd ending (by decide)
  ne_empty := fun same => absurd (same ▸ batch.length_fileName) (by decide)
  ne_here := fun same => absurd (same ▸ batch.length_fileName) (by decide)
  ne_up := fun same => absurd (same ▸ batch.length_fileName) (by decide)

/-- What saving a batch does: its text is put to where its path leads, in a folder that is there
from then on. No other place changes. -/
theorem exists_of_save {folder path : String} {batch : Batch} {disk next : Disk}
    (saving : batch.save folder disk = .ok (path, next)) :
    path = DiskPath.join folder batch.fileName ∧ next.HasFolders folder ∧
      (disk.HasFolders folder → next.folders = disk.folders) ∧
      ∃ place, next.locate path = .ok place ∧ next.file? place = some batch.text ∧
        ∀ other, other ≠ place → next.file? other = disk.file? other := by
  obtain ⟨made, making, rest⟩ := Except.bind_eq_ok.mp saving
  obtain ⟨written, writing, pair⟩ := Except.bind_eq_ok.mp rest
  cases pair
  have there := (Disk.hasFolders_of_makeFolders making).write writing
  obtain ⟨place, located, -, rfl⟩ := Disk.exists_of_write writing
  refine ⟨rfl, there, fun before => ?_, place, Disk.locate_of_folders located rfl,
    (Disk.file?_putFile ..).trans (if_pos rfl), fun other elsewhere => ?_⟩
  · rw [Disk.makeFolders_of_hasFolders before] at making
    rw [Except.ok.inj making]
  · rw [Disk.file?, Disk.file?_putFile, if_neg elsewhere]
    exact congrArg (List.lookup other) (Disk.makeFoldersFrom_keeps making).1

end Batch

/-! Batches saved one after another. -/

variable {folder path : String} {batch : Batch} {batches : List Batch} {disk next : Disk}

theorem saveAll_cons_error {fault : Disk.Fault} (failed : batch.save folder disk = .error fault) :
    saveAll folder (batch :: batches) disk = saveAll folder batches disk := by
  rw [saveAll, failed]

theorem saveAll_cons_ok (saving : batch.save folder disk = .ok (path, next)) :
    saveAll folder (batch :: batches) disk =
      ⟨{ batch with path } :: (saveAll folder batches next).files,
        (saveAll folder batches next).disk⟩ := by
  rw [saveAll, saving]

theorem saveAll_keeps (there : disk.HasFolders folder) :
    (saveAll folder batches disk).disk.folders = disk.folders ∧
      ∀ place, (∀ file ∈ (saveAll folder batches disk).files,
          (saveAll folder batches disk).disk.locate file.path ≠ .ok place) →
        (saveAll folder batches disk).disk.file? place = disk.file? place := by
  induction batches generalizing disk with
  | nil => exact ⟨rfl, fun _ _ => rfl⟩
  | cons batch batches induction =>
      cases saving : batch.save folder disk with
      | error fault =>
          rw [saveAll_cons_error saving]
          exact induction there
      | ok saved =>
          obtain ⟨-, nextThere, folders, taken, located, -, elsewhere⟩ :=
            Batch.exists_of_save saving
          obtain ⟨laterFolders, later⟩ := induction nextThere
          rw [saveAll_cons_ok saving]
          refine ⟨laterFolders.trans (folders there), fun place untaken => ?_⟩
          obtain ⟨first, others⟩ := List.forall_mem_cons.mp untaken
          have apart : place ≠ taken := by
            rintro rfl
            exact first (Disk.locate_of_folders located laterFolders)
          exact (later place others).trans (elsewhere place apart)

theorem exists_locate_of_mem_saveAll {file : SavedBatch}
    (member : file ∈ (saveAll folder batches disk).files) :
    file.toBatch ∈ batches ∧ file.path = DiskPath.join folder file.fileName ∧
      ∃ place, (saveAll folder batches disk).disk.locate file.path = .ok place := by
  induction batches generalizing disk with
  | nil => cases member
  | cons batch batches induction =>
      cases saving : batch.save folder disk with
      | error fault =>
          rw [saveAll_cons_error saving] at member ⊢
          obtain ⟨known, rest⟩ := induction member
          exact ⟨List.mem_cons_of_mem _ known, rest⟩
      | ok saved =>
          rw [saveAll_cons_ok saving] at member ⊢
          rcases List.mem_cons.mp member with rfl | later
          · obtain ⟨name, there, -, place, located, -⟩ := Batch.exists_of_save saving
            exact ⟨List.mem_cons_self, name, place,
              Disk.locate_of_folders located (saveAll_keeps there).1⟩
          · obtain ⟨known, rest⟩ := induction later
            exact ⟨List.mem_cons_of_mem _ known, rest⟩

theorem read_saveAll {before after : List SavedBatch} {file : SavedBatch}
    (split : (saveAll folder batches disk).files = before ++ file :: after)
    (last : ∀ later ∈ after, (saveAll folder batches disk).disk.locate later.path ≠
      (saveAll folder batches disk).disk.locate file.path) :
    (saveAll folder batches disk).disk.read file.path = .ok file.text := by
  induction batches generalizing disk before with
  | nil => exact absurd split.symm (List.append_ne_nil_of_right_ne_nil _ (List.cons_ne_nil _ _))
  | cons batch batches induction =>
      cases saving : batch.save folder disk with
      | error fault =>
          rw [saveAll_cons_error saving] at split last ⊢
          exact induction split last
      | ok saved =>
          rw [saveAll_cons_ok saving] at split last ⊢
          cases before with
          | cons earlier before => exact induction (List.cons.inj split).2 last
          | nil =>
              obtain ⟨rfl, rfl⟩ := List.cons.inj split
              obtain ⟨-, there, -, place, located, found, -⟩ := Batch.exists_of_save saving
              obtain ⟨folders, later⟩ := @saveAll_keeps folder batches _ there
              have leads := Disk.locate_of_folders located folders
              have kept := later place fun other member taken =>
                last other member (taken.trans leads.symm)
              exact Disk.read_of_file? leads (kept.trans found)

/-- Among the entries of a list that agree with one of them there is a last one. -/
theorem exists_last_of_mem {α β : Type} (f : α → β) {entry : α} {entries : List α}
    (member : entry ∈ entries) :
    ∃ before last after, entries = before ++ last :: after ∧ f last = f entry ∧
      ∀ later ∈ after, f later ≠ f entry := by
  obtain ⟨after, before, split, final⟩ :=
    List.eq_append_cons_of_mem (List.mem_reverse.mpr (List.mem_map_of_mem (f := f) member))
  have images : entries.map f = before.reverse ++ f entry :: after.reverse := by
    simpa using congrArg List.reverse split
  obtain ⟨first, rest, rfl, -, restImages⟩ := List.map_eq_append_iff.mp images
  obtain ⟨last, later, rfl, same, laterImages⟩ := List.map_eq_cons_iff.mp restImages
  refine ⟨first, last, later, rfl, same, fun other otherMember again => final ?_⟩
  rw [← List.mem_reverse, ← laterImages, ← again]
  exact List.mem_map_of_mem otherMember

/-- Every file is kept exactly if the batches whose paths lead to one place have one text. -/
theorem kept_iff_locate (folder : String) (batches : List Batch) (disk : Disk) :
    (saveAll folder batches disk).Kept ↔
      ∀ file ∈ (saveAll folder batches disk).files,
        ∀ other ∈ (saveAll folder batches disk).files,
          (saveAll folder batches disk).disk.locate file.path =
              (saveAll folder batches disk).disk.locate other.path →
            file.text = other.text := by
  constructor
  · intro kept file member other otherMember same
    exact Except.ok.inj ((kept file member).symm.trans
      ((Disk.read_congr same).trans (kept other otherMember)))
  · intro agree file member
    obtain ⟨before, last, after, split, same, final⟩ :=
      exists_last_of_mem (fun file : SavedBatch =>
        (saveAll folder batches disk).disk.locate file.path) member
    have lastMember : last ∈ (saveAll folder batches disk).files := by
      rw [split]
      exact List.mem_append_right _ List.mem_cons_self
    have holdsLast := read_saveAll split fun later laterMember again =>
      final later laterMember (again.trans same)
    rw [Disk.read_congr same.symm, holdsLast, agree file member last lastMember same.symm]

/-- The paths of two batches lead to one place exactly if the batches are of one source and one
second. -/
theorem locate_eq_iff_of_mem_saveAll {file other : SavedBatch}
    (member : file ∈ (saveAll folder batches disk).files)
    (otherMember : other ∈ (saveAll folder batches disk).files)
    (plain : '/' ∉ file.source.toList) (otherPlain : '/' ∉ other.source.toList) :
    (saveAll folder batches disk).disk.locate file.path =
        (saveAll folder batches disk).disk.locate other.path ↔
      file.source = other.source ∧ file.savedAt / 1000 = other.savedAt / 1000 := by
  obtain ⟨-, path, place, located⟩ := exists_locate_of_mem_saveAll member
  obtain ⟨-, otherPath, -⟩ := exists_locate_of_mem_saveAll otherMember
  rw [path] at located ⊢
  rw [otherPath, Disk.locate_join_eq_iff (Batch.isFileName plain) (Batch.isFileName otherPlain)
    located, Batch.fileName_eq_iff]

/-- No file is lost exactly if two batches whose paths lead to one place are never different. Of
sources that are no paths, these are batches that one source saves within one second. -/
theorem kept_iff (folder : String) (batches : List Batch) (disk : Disk) :
    ((saveAll folder batches disk).Kept ↔
      ∀ file ∈ (saveAll folder batches disk).files,
        ∀ other ∈ (saveAll folder batches disk).files,
          (saveAll folder batches disk).disk.locate file.path =
              (saveAll folder batches disk).disk.locate other.path →
            file.text = other.text) ∧
    ((∀ batch ∈ batches, '/' ∉ batch.source.toList) →
      ((saveAll folder batches disk).Kept ↔
        ∀ file ∈ (saveAll folder batches disk).files,
          ∀ other ∈ (saveAll folder batches disk).files,
            file.source = other.source → file.savedAt / 1000 = other.savedAt / 1000 →
              file.text = other.text)) := by
  refine ⟨kept_iff_locate folder batches disk, fun plain => ?_⟩
  rw [kept_iff_locate]
  refine forall₂_congr fun file member => forall₂_congr fun other otherMember => ?_
  have plainOf {file : SavedBatch} (member : file ∈ (saveAll folder batches disk).files) :
      '/' ∉ file.source.toList := plain _ (exists_locate_of_mem_saveAll member).1
  rw [locate_eq_iff_of_mem_saveAll member otherMember (plainOf member) (plainOf otherMember),
    and_imp]

/-! A concert that is off the listing a moment after it was on it. -/

def listed (savedAt : Int) : Batch := ⟨"the-fleece", [Gig.concert], savedAt⟩

def delisted (savedAt : Int) : Batch := ⟨"the-fleece", [], savedAt⟩

/-- In the next second, both batches are kept. -/
theorem kept_iff_nextSecond :
    (saveAll "output" [listed 999, delisted 1000] .empty).files.map SavedBatch.path =
        ["output/the-fleece_19700101_000000.json", "output/the-fleece_19700101_000001.json"] ∧
      (∀ batch ∈ [listed 999, delisted 1000], '/' ∉ batch.source.toList) ∧
      (saveAll "output" [listed 999, delisted 1000] .empty).Kept := by
  have plain : ∀ batch ∈ [listed 999, delisted 1000], '/' ∉ batch.source.toList := by decide
  refine ⟨by decide +kernel, plain, ((kept_iff "output" _ .empty).2 plain).mpr ?_⟩
  decide +kernel

/-- Within a second, both batches get one path, and the first one is lost. -/
theorem not_kept_within_second :
    (saveAll "output" [listed 0, delisted 400] .empty).files.map SavedBatch.path =
        ["output/the-fleece_19700101_000000.json", "output/the-fleece_19700101_000000.json"] ∧
      (saveAll "output" [listed 0, delisted 400] .empty).disk.read
          "output/the-fleece_19700101_000000.json" = .ok (delisted 400).text ∧
      ¬(saveAll "output" [listed 0, delisted 400] .empty).Kept := by
  decide +kernel

end GigListings.GigFile
