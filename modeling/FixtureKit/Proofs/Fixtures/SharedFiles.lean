import FixtureKit.Proofs.Archive.Completed
import FixtureKit.Proofs.FileSystem.Denoting
import FixtureKit.Proofs.Fixtures.Runs

/-!
# Artifacts That Share a File

The paths of the artifacts are followed through links, so two of them can lead to one file.
Every step of a run succeeds all the same, each in place of what an earlier one has
written there, and the run reports what is left. What is left is what was to be made exactly
if the three paths lead to three files: a small file that is also the large one or the
archive is too large, and an archive in the place of the large file is too small for it.

## Main results

* `Run.generate_of_openForWriting`: a run, once both files are open, is a packing.
* `exists_opens_of_generate`: the three files that a run without failure has opened.
* `Run.Opens.kept`: three files of their own hold what the run has made.
* `generate_delivers_iff`: a run without failure verifies exactly if no file is shared.
-/

namespace FixtureKit

open Archive FileSystem

/-- No two of the artifacts of a destination are one file. -/
def Apart (fs : FileSystem) (destination : String) : Prop :=
  let layout := Layout.of destination
  ¬fs.SameFile layout.small layout.large ∧ ¬fs.SameFile layout.small layout.archive ∧
    ¬fs.SameFile layout.large layout.archive

/-- A file system with the two files of a run, wherever they are. -/
def Run.filledAt (run : Run) (made : FileSystem) (small large : Location) : FileSystem :=
  (made.put small (.file run.smallDrawn.1)).put large (.file run.largeDrawn.1)

/-- What packing the files of a run leads to. -/
def Run.packedAt (run : Run) (made : FileSystem) (destination : String)
    (small large : Location) : Written :=
  buildArchive (run.filledAt made small large) (Layout.of destination).archive
    (Layout.of destination).entries run.compression

/-- What adding the files of a run to an archive at a location leads to. -/
def Run.packingAt (run : Run) (made : FileSystem) (destination : String)
    (small large archive : Location) : Packing :=
  addEntries ((run.filledAt made small large).put archive (.file ByteArray.empty))
    (Layout.of destination).archive archive run.compression [] (Layout.of destination).entries

/-- The two files that a run opens for writing, one after the other. -/
structure Run.Fills (run : Run) (made : FileSystem) (destination : String)
    (small large : Location) : Prop where
  forSmall : made.openForWriting (Layout.of destination).small =
    .ok (.file small, made.put small (.file ByteArray.empty))
  forLarge : (made.put small (.file run.smallDrawn.1)).openForWriting
    (Layout.of destination).large = .ok (.file large,
      (made.put small (.file run.smallDrawn.1)).put large (.file ByteArray.empty))

/-- The files that a run opens for writing, each in its turn. -/
structure Run.Opens (run : Run) (made : FileSystem) (destination : String)
    (small large archive : Location) : Prop where
  forSmall : made.openForWriting (Layout.of destination).small =
    .ok (.file small, made.put small (.file ByteArray.empty))
  forLarge : (made.put small (.file run.smallDrawn.1)).openForWriting
    (Layout.of destination).large = .ok (.file large,
      (made.put small (.file run.smallDrawn.1)).put large (.file ByteArray.empty))
  forArchive : (run.filledAt made small large).openForWriting (Layout.of destination).archive =
    .ok (.file archive, (run.filledAt made small large).put archive (.file ByteArray.empty))

section Steps

variable {run : Run} {fs made files : FileSystem} {destination : String} {report : Report}
  {small large : Location}

/-- A small file that can be made is filled first. -/
theorem Run.writeRandomFile_small (run : Run)
    (hsmall : made.openForWriting (Layout.of destination).small =
      .ok (.file small, made.put small (.file ByteArray.empty))) :
    writeRandomFile run.source.generator run.source.state made (Layout.of destination).small
        smallSize =
      ⟨.ok (), made.put small (.file run.smallDrawn.1), run.smallDrawn.2,
        RandomFile.requestsFor smallSize⟩ :=
  writeRandomFile_of_opens _ _ _ hsmall

/-- A large file that can be made then is filled second. -/
theorem Run.writeRandomFile_large (run : Run)
    (hlarge : (made.put small (.file run.smallDrawn.1)).openForWriting
      (Layout.of destination).large = .ok (.file large,
        (made.put small (.file run.smallDrawn.1)).put large (.file ByteArray.empty))) :
    writeRandomFile run.source.generator run.smallDrawn.2
        (made.put small (.file run.smallDrawn.1)) (Layout.of destination).large largeSize =
      ⟨.ok (), run.filledAt made small large, run.largeDrawn.2,
        RandomFile.requestsFor largeSize⟩ :=
  writeRandomFile_of_opens _ _ _ hlarge

/-- Once both files are open, what is left of a run is to pack them and to report. -/
theorem Run.generate_of_openForWriting (run : Run)
    (hdirectory : ensureDirectory fs destination = (.ok (), made))
    (hsmall : made.openForWriting (Layout.of destination).small =
      .ok (.file small, made.put small (.file ByteArray.empty)))
    (hlarge : (made.put small (.file run.smallDrawn.1)).openForWriting
      (Layout.of destination).large = .ok (.file large,
        (made.put small (.file run.smallDrawn.1)).put large (.file ByteArray.empty))) :
    let written := run.packedAt made destination small large
    run.generate fs destination =
      (match written.result with
        | .error e => .error (.archive e)
        | .ok _ => written.files.report (Layout.of destination),
      written.files) := by
  rw [Run.generate, FixtureKit.generate, hdirectory]
  simp only [run.writeRandomFile_small hsmall, run.writeRandomFile_large hlarge, packFixtures]
  rw [show buildArchive (run.filledAt made small large) (Layout.of destination).archive
    (Layout.of destination).entries run.compression =
      run.packedAt made destination small large from rfl]
  cases (run.packedAt made destination small large).result with
  | error e => rfl
  | ok _ =>
      simp only
      cases (run.packedAt made destination small large).files.report (Layout.of destination) <;> rfl

/-- A run without failure has opened both files. -/
theorem exists_openForWriting_of_generate
    (h : (run.generate fs destination).1 = .ok report) :
    ∃ made small large, ensureDirectory fs destination = (.ok (), made) ∧
      made.openForWriting (Layout.of destination).small =
        .ok (.file small, made.put small (.file ByteArray.empty)) ∧
      (made.put small (.file run.smallDrawn.1)).openForWriting (Layout.of destination).large =
        .ok (.file large,
          (made.put small (.file run.smallDrawn.1)).put large (.file ByteArray.empty)) := by
  rw [Run.generate, FixtureKit.generate] at h
  split at h
  · cases h
  · next made hdirectory =>
      simp only at h
      split at h
      · cases h
      · next hfilled =>
          obtain ⟨small, hsmall⟩ := openForWriting_of_writeRandomFile_ok hfilled
          rw [run.writeRandomFile_small hsmall] at h
          simp only at h
          split at h
          · cases h
          · next hfilled =>
              obtain ⟨large, hlarge⟩ := openForWriting_of_writeRandomFile_ok hfilled
              exact ⟨made, small, large, hdirectory, hsmall, hlarge⟩

/-- The three files that a run without failure has opened. -/
theorem exists_opens_of_generate (h : run.generate fs destination = (.ok report, files)) :
    ∃ small large archive,
      run.Opens (ensureDirectory fs destination).2 destination small large archive ∧
        (run.packedAt (ensureDirectory fs destination).2 destination small large).result =
          .ok () ∧
        (run.packedAt (ensureDirectory fs destination).2 destination small large).files = files ∧
        files.report (Layout.of destination) = .ok report := by
  obtain ⟨made, small, large, hdirectory, hsmall, hlarge⟩ :=
    exists_openForWriting_of_generate (congrArg Prod.fst h)
  rw [run.generate_of_openForWriting hdirectory hsmall hlarge] at h
  obtain ⟨hreport, hfiles⟩ := Prod.mk.inj h
  split at hreport
  · cases hreport
  · next hpacked =>
      obtain ⟨archive, opened, harchive⟩ := openForWriting_of_result_ok hpacked
      obtain ⟨-, rfl, -⟩ := find_of_openForWriting harchive
      rw [hfiles] at hreport
      rw [hdirectory]
      exact ⟨small, large, archive, ⟨hsmall, hlarge, harchive⟩, hpacked, hfiles, hreport⟩

end Steps

/-! ### The two files -/

namespace Run.Fills

variable {run : Run} {made : FileSystem} {destination : String} {small large : Location}

/-- What a run opens for its two files can be filled, each in its turn. -/
theorem fillable (h : run.Fills made destination small large) :
    made.Fillable small ∧ (made.put small (.file run.smallDrawn.1)).Fillable large :=
  ⟨(find_of_openForWriting h.forSmall).1, (find_of_openForWriting h.forLarge).1⟩

/-- The files that are filled are what the paths have denoted from the start. -/
theorem denotes (h : run.Fills made destination small large) :
    made.Denotes (Layout.of destination).small small ∧
      made.Denotes (Layout.of destination).large large :=
  ⟨denotes_of_openForWriting h.forSmall,
    (denotes_put_iff h.fillable.1 _).1 (denotes_of_openForWriting h.forLarge)⟩

/-- What a path denotes is the same before and after the files are filled. -/
theorem denotes_filledAt_iff (h : run.Fills made destination small large) {text : String}
    {location : Location} :
    (run.filledAt made small large).Denotes text location ↔ made.Denotes text location := by
  obtain ⟨hsmall, hlarge⟩ := h.fillable
  rw [filledAt, denotes_put_iff hlarge, denotes_put_iff hsmall]

/-- The large file is the last one filled. -/
theorem openForReading_large (h : run.Fills made destination small large) :
    (run.filledAt made small large).openForReading (Layout.of destination).large =
      .ok (large, .file run.largeDrawn.1) :=
  openForReading_put_of_denotes h.fillable.2 _ (denotes_of_openForWriting h.forLarge)

/-- A small file of its own keeps what it was filled with. -/
theorem openForReading_small (h : run.Fills made destination small large) (hne : small ≠ large) :
    (run.filledAt made small large).openForReading (Layout.of destination).small =
      .ok (small, .file run.smallDrawn.1) := by
  obtain ⟨hsmall, hlarge⟩ := h.fillable
  have hfilled := openForReading_put_of_denotes hsmall run.smallDrawn.1 h.denotes.1
  exact openForReading_put_of_ne hlarge _ hfilled hne

end Run.Fills

/-- Whether artifacts are one file is whether their locations are the same. -/
theorem apart_iff_of_denotes {fs : FileSystem} {destination : String}
    {small large archive : Location} (hsmall : fs.Denotes (Layout.of destination).small small)
    (hlarge : fs.Denotes (Layout.of destination).large large)
    (harchive : fs.Denotes (Layout.of destination).archive archive) :
    Apart fs destination ↔ small ≠ large ∧ small ≠ archive ∧ large ≠ archive := by
  rw [Apart, sameFile_iff hsmall hlarge, sameFile_iff hsmall harchive, sameFile_iff hlarge harchive]

/-- What an archive finds in itself behind a small file is no more than what has been written of
it. -/
theorem Archive.size_ownContent_pair_le {compression : Compression} {small own : ByteArray}
    (hsmall : small.size = smallSize)
    (h : ownContent compression
      (localPart [memberOf smallName compression small, openMember largeName compression]) =
        .ok own) :
    2 * own.size ≤ 3 * smallSize + 396 := by
  have hsmallName : smallName.toUTF8.size = 5 := by decide
  have hlargeName : largeName.toUTF8.size = 5 := by decide
  have hlittle : 3 * smallSize + 396 < 2 * Buffer.capacity := by decide
  have hlocal := size_localPart_membersOf_le compression [(smallName, small)]
  have hflushed := size_flushedPart compression [(smallName, small)] largeName
  rw [namesSize_cons, namesSize_nil, contentsSize_cons, contentsSize_nil, hsmallName, hsmall,
    List.length_singleton] at hlocal
  rw [hlargeName] at hflushed
  have hown : ownContent compression (flushedPart compression [(smallName, small)] largeName) =
      .ok own := h
  rw [ownContent_of_lt compression (by omega)] at hown
  obtain rfl := Except.ok.inj hown
  omega

namespace Run.Opens

variable {run : Run} {made : FileSystem} {destination : String} {small large archive : Location}

/-! ### What the paths lead to -/

/-- A run that opens all three opens its two files. -/
theorem fills (h : run.Opens made destination small large archive) :
    run.Fills made destination small large :=
  ⟨h.forSmall, h.forLarge⟩

/-- What a run opens can be filled, each in its turn. -/
theorem fillable (h : run.Opens made destination small large archive) :
    made.Fillable small ∧ (made.put small (.file run.smallDrawn.1)).Fillable large ∧
      (run.filledAt made small large).Fillable archive :=
  ⟨h.fills.fillable.1, h.fills.fillable.2, (find_of_openForWriting h.forArchive).1⟩

/-- A run that opens all three leaves what a path denotes as it was when it fills its files. -/
theorem denotes_filledAt_iff (h : run.Opens made destination small large archive) {text : String}
    {location : Location} :
    (run.filledAt made small large).Denotes text location ↔ made.Denotes text location :=
  h.fills.denotes_filledAt_iff

/-- The files that are opened are what the paths have denoted from the start. -/
theorem denotes (h : run.Opens made destination small large archive) :
    made.Denotes (Layout.of destination).small small ∧
      made.Denotes (Layout.of destination).large large ∧
      made.Denotes (Layout.of destination).archive archive :=
  ⟨h.fills.denotes.1, h.fills.denotes.2,
    h.denotes_filledAt_iff.1 (denotes_of_openForWriting h.forArchive)⟩

/-- Whether artifacts are one file shows in what a run opens. -/
theorem apart_iff (h : run.Opens made destination small large archive) :
    Apart made destination ↔ small ≠ large ∧ small ≠ archive ∧ large ≠ archive :=
  apart_iff_of_denotes h.denotes.1 h.denotes.2.1 h.denotes.2.2

/-! ### What they read -/

/-- Before the archive is opened, the large file is the last one filled. -/
theorem openForReading_large (h : run.Opens made destination small large archive) :
    (run.filledAt made small large).openForReading (Layout.of destination).large =
      .ok (large, .file run.largeDrawn.1) :=
  h.fills.openForReading_large

/-- Before the archive is opened, a small file of its own holds what it was filled with. -/
theorem openForReading_small (h : run.Opens made destination small large archive)
    (hne : small ≠ large) :
    (run.filledAt made small large).openForReading (Layout.of destination).small =
      .ok (small, .file run.smallDrawn.1) :=
  h.fills.openForReading_small hne

/-- A small file that is also the large one holds the large one's bytes. -/
theorem openForReading_small_of_eq (h : run.Opens made destination small large archive)
    (heq : small = large) :
    (run.filledAt made small large).openForReading (Layout.of destination).small =
      .ok (large, .file run.largeDrawn.1) := by
  obtain ⟨hsmall, hlarge, -⟩ := h.fillable
  refine openForReading_put_of_denotes hlarge _ ((denotes_put_iff hsmall _).2 ?_)
  rw [← heq]
  exact h.denotes.1

/-- Whatever denotes the archive reads the archive. -/
theorem openForReading_archive (h : run.Opens made destination small large archive)
    (image : ByteArray) {text : String} (hdenotes : made.Denotes text archive) :
    ((run.filledAt made small large).put archive (.file image)).openForReading text =
      .ok (archive, .file image) :=
  openForReading_put_of_denotes h.fillable.2.2 _ (h.denotes_filledAt_iff.2 hdenotes)

/-- Whatever leads elsewhere reads what it has read before. -/
theorem openForReading_other (h : run.Opens made destination small large archive)
    (image : ByteArray) {text : String} {location : Location} {object : Object}
    (hread : (run.filledAt made small large).openForReading text = .ok (location, object))
    (hne : location ≠ archive) :
    ((run.filledAt made small large).put archive (.file image)).openForReading text =
      .ok (location, object) :=
  openForReading_put_of_ne h.fillable.2.2 _ hread hne

/-! ### Three files of their own -/

/-- When neither file is the archive, it is packed from what the two paths read. -/
theorem exists_packedAt (h : run.Opens made destination small large archive)
    {first second : ByteArray} {firstAt secondAt : Location}
    (hfirst : (run.filledAt made small large).openForReading (Layout.of destination).small =
      .ok (firstAt, .file first))
    (hfirstAt : firstAt ≠ archive) (hfirstSize : first.size ≤ sizeLimit)
    (hsecond : (run.filledAt made small large).openForReading (Layout.of destination).large =
      .ok (secondAt, .file second))
    (hsecondAt : secondAt ≠ archive) (hsecondSize : second.size ≤ sizeLimit) :
    ∃ added, run.packedAt made destination small large =
      ⟨.ok (), (run.filledAt made small large).put archive (.file (encode
        (membersOf run.compression [(smallName, first), (largeName, second)]))), added⟩ := by
  let content (entry : Entry) : ByteArray := if entry.name = smallName then first else second
  have hnames : ((Layout.of destination).entries.map Entry.name).Nodup := by
    rw [Layout.names_entries]
    decide
  have hsources : ∀ entry ∈ (Layout.of destination).entries,
      Supplies ((run.filledAt made small large).put archive (.file ByteArray.empty)) archive
        entry.source (content entry) := by
    simp only [Layout.entries, List.forall_mem_cons]
    exact ⟨⟨firstAt, hfirstAt, h.openForReading_other _ hfirst hfirstAt⟩,
      ⟨secondAt, hsecondAt, h.openForReading_other _ hsecond hsecondAt⟩, List.forall_mem_nil _⟩
  have hsizes : ∀ entry ∈ (Layout.of destination).entries, (content entry).size ≤ sizeLimit := by
    simp only [Layout.entries, List.forall_mem_cons]
    exact ⟨hfirstSize, hsecondSize, List.forall_mem_nil _⟩
  rw [packedAt, buildArchive_of_supplies run.compression h.forArchive hnames hsources hsizes]
  simp only [put_put]
  exact ⟨_, rfl⟩

/-- Three files of their own hold what the run has made. -/
theorem kept (h : run.Opens made destination small large archive) (hfiles : small ≠ large)
    (hsmall : small ≠ archive) (hlarge : large ≠ archive) :
    Kept (run.packedAt made destination small large).files destination run := by
  have hfirst := h.openForReading_small hfiles
  have hsecond := h.openForReading_large
  obtain ⟨added, hpacked⟩ := h.exists_packedAt hfirst hsmall
    (by rw [run.size_smallDrawn]; decide) hsecond hlarge (by rw [run.size_largeDrawn]; decide)
  rw [hpacked]
  have hreadSmall := h.openForReading_other run.image hfirst hsmall
  have hreadLarge := h.openForReading_other run.image hsecond hlarge
  have hreadArchive := h.openForReading_archive run.image h.denotes.2.2
  exact ⟨contentOf_of_openForReading hreadSmall, contentOf_of_openForReading hreadLarge,
    contentOf_of_openForReading hreadArchive⟩

/-! ### Shared files -/

/-- The archive file holds what adding the files has led to. -/
theorem files_packedAt (h : run.Opens made destination small large archive) :
    (run.packedAt made destination small large).files =
      (run.filledAt made small large).put archive
        (.file (encode (run.packingAt made destination small large archive).members)) := by
  rw [packedAt, buildArchive_eq, writeArchive_of_openForWriting h.forArchive rfl, put_put]
  rfl

/-- A packing without failure holds what has been copied from the small file and then from the
large one. -/
theorem exists_members (h : run.Opens made destination small large archive)
    (hresult : (run.packedAt made destination small large).result = .ok ())
    {first second : Location × Object}
    (hfirst : ((run.filledAt made small large).put archive
      (.file ByteArray.empty)).openForReading (Layout.of destination).small = .ok first)
    (hsecond : ((run.filledAt made small large).put archive
      (.file ByteArray.empty)).openForReading (Layout.of destination).large = .ok second) :
    ∃ smallContent largeContent,
      sourceContent archive run.compression [] (openMember smallName run.compression) first =
          .ok smallContent ∧
        sourceContent archive run.compression [memberOf smallName run.compression smallContent]
          (openMember largeName run.compression) second = .ok largeContent ∧
        (run.packingAt made destination small large archive).members =
          membersOf run.compression [(smallName, smallContent), (largeName, largeContent)] := by
  have hfailure := failure_none_of_result_ok h.forArchive hresult
  obtain ⟨_, _, smallContent, hopen, -, hsmallContent, hmembers, hrest⟩ :=
    exists_of_failure_none hfailure
  obtain ⟨_, _, largeContent, hopen', -, hlargeContent, hmembers', -⟩ :=
    exists_of_failure_none hrest
  obtain rfl := Except.ok.inj (hopen.symm.trans hfirst)
  obtain rfl := Except.ok.inj (hopen'.symm.trans hsecond)
  exact ⟨smallContent, largeContent, hsmallContent, hlargeContent, hmembers.trans hmembers'⟩

/-- An archive in the place of the large file is not large: it finds little more in itself than the
small file. -/
theorem size_encode_lt (h : run.Opens made destination small large archive)
    (hresult : (run.packedAt made destination small large).result = .ok ())
    (hsmall : small ≠ archive) (hlarge : large = archive) :
    (encode (run.packingAt made destination small large archive).members).size < largeSize := by
  have hfirst := h.openForReading_other ByteArray.empty
    (h.openForReading_small fun heq => hsmall (heq.trans hlarge)) hsmall
  have hsecond := h.openForReading_archive ByteArray.empty (hlarge ▸ h.denotes.2.1)
  obtain ⟨smallContent, largeContent, hsmallContent, hlargeContent, hmembers⟩ :=
    h.exists_members hresult hfirst hsecond
  have hdrawn : smallContent = run.smallDrawn.1 := by
    rcases sourceContent_eq_ok hsmallContent with ⟨heq, -⟩ | ⟨-, hobject, -⟩
    · exact absurd heq hsmall
    · exact (Object.file.inj hobject).symm
  have hsmallSize : smallContent.size = smallSize := by rw [hdrawn, run.size_smallDrawn]
  have hown : 2 * largeContent.size ≤ 3 * smallSize + 396 := by
    rcases sourceContent_eq_ok hlargeContent with ⟨-, hown⟩ | ⟨hne, -⟩
    · exact size_ownContent_pair_le hsmallSize hown
    · exact absurd rfl hne
  have hsize := size_encode_pair_le run.compression smallContent largeContent
  have hlittle : 6 * smallSize + 3 * (3 * smallSize + 396) + 1800 < 4 * largeSize := by decide
  rw [hsmallSize] at hsize
  rw [hmembers]
  omega

/-- If the sizes in the report are right, no file is shared. -/
theorem ne_of_sizes (h : run.Opens made destination small large archive)
    (hresult : (run.packedAt made destination small large).result = .ok ()) {report : Report}
    (hreport : (run.packedAt made destination small large).files.report (Layout.of destination) =
      .ok report)
    (hsmallSize : report.small.size = 8) (hlargeSize : report.large.size = 10485760) :
    small ≠ large ∧ small ≠ archive ∧ large ≠ archive := by
  obtain ⟨hdenotesSmall, hdenotesLarge, -⟩ := h.denotes
  have hlittle := h.size_encode_lt hresult
  rw [h.files_packedAt] at hreport
  generalize (run.packingAt made destination small large archive).members = members
    at hreport hlittle
  obtain ⟨hsmallArtifact, hlargeArtifact, -⟩ := report_eq_ok_iff.1 hreport
  have hsmall : small ≠ archive := by
    intro heq
    have hread := h.openForReading_archive (encode members) (heq ▸ hdenotesSmall)
    have hsize := size_of_artifact hsmallArtifact (contentOf_of_openForReading hread)
    have hend := size_encode members
    omega
  have hlarge : large ≠ archive := by
    intro heq
    have hread := h.openForReading_archive (encode members) (heq ▸ hdenotesLarge)
    have hsize := size_of_artifact hlargeArtifact (contentOf_of_openForReading hread)
    have hless : (encode members).size < 10485760 := hlittle hsmall heq
    omega
  have hfiles : small ≠ large := by
    intro heq
    have hread := h.openForReading_other (encode members) (h.openForReading_small_of_eq heq) hlarge
    have hsize := size_of_artifact hsmallArtifact (contentOf_of_openForReading hread)
    have hdrawn : run.largeDrawn.1.size = 10485760 := run.size_largeDrawn
    omega
  exact ⟨hfiles, hsmall, hlarge⟩

end Run.Opens

/-- **Generate, then verify, whatever stood there.** A run that succeeds delivers a small file of
eight bytes and a large one of ten mebibytes, and verifies with its own report, exactly if no two
of the artifacts are one file, where links are followed in the destination as it is once it is a
directory. -/
theorem generate_delivers_iff {run : Run} {fs files : FileSystem} {destination : String}
    {report : Report} (h : run.generate fs destination = (.ok report, files)) :
    (report.small.size = 8 ∧ report.large.size = 10485760 ∧
        verify files destination = .ok report) ↔
      Apart (ensureDirectory fs destination).2 destination := by
  obtain ⟨small, large, archive, hopens, hresult, rfl, hreport⟩ := exists_opens_of_generate h
  rw [hopens.apart_iff]
  constructor
  · rintro ⟨hsmall, hlarge, -⟩
    exact hopens.ne_of_sizes hresult hreport hsmall hlarge
  · rintro ⟨hfiles, hsmall, hlarge⟩
    have hkept := hopens.kept hfiles hsmall hlarge
    obtain rfl : run.report destination = report :=
      Except.ok.inj (hkept.report.symm.trans hreport)
    exact ⟨rfl, rfl, hkept.verify⟩

/-! ### A destination with files of its own -/

/-- The three paths of the destination denote locations of their own. -/
theorem apart_staleFiles : Apart staleFiles "out/" := by
  have hsmall : staleFiles.Denotes (Layout.of "out/").small ["small", "d", "w"] := ⟨_, rfl, rfl⟩
  have hlarge : staleFiles.Denotes (Layout.of "out/").large ["large", "d", "w"] := ⟨_, rfl, rfl⟩
  have harchive : staleFiles.Denotes (Layout.of "out/").archive ["test.zip", "d", "w"] :=
    ⟨_, rfl, rfl⟩
  rw [apart_iff_of_denotes hsmall hlarge harchive]
  decide

/-- A run to the destination delivers: its report has the two sizes, and the destination
verifies. -/
theorem generate_delivers_stale :
    let run := constantRun 7 .deflated
    ∃ files, run.generate staleFiles "out/" = (.ok (run.report "out/"), files) ∧
      (run.report "out/").small.size = 8 ∧ (run.report "out/").large.size = 10485760 ∧
      verify files "out/" = .ok (run.report "out/") := by
  intro run
  have hdirectory : ensureDirectory staleFiles "out/" = (.ok (), staleFiles) := rfl
  obtain ⟨location, hready⟩ := exists_ready_of_plain hdirectory plain_staleFiles
  have hgenerate := generate_of_ready hdirectory hready run
  exact ⟨_, hgenerate, (generate_delivers_iff hgenerate).2 apart_staleFiles⟩

/-! ### A large file that is the small one -/

/-- When the two files are one, apart from the archive, a run succeeds all the same, with a small
file as large as the large one, and does not verify. -/
theorem Run.Opens.generate_of_eq {run : Run} {fs made : FileSystem} {destination : String}
    {shared archive : Location} (hdirectory : ensureDirectory fs destination = (.ok (), made))
    (h : run.Opens made destination shared shared archive) (hne : shared ≠ archive) :
    ∃ report files, run.generate fs destination = (.ok report, files) ∧
      report.small.size = largeSize ∧ ∀ other, verify files destination ≠ .ok other := by
  have hfirst := h.openForReading_small_of_eq rfl
  have hsecond := h.openForReading_large
  have hlimit : run.largeDrawn.1.size ≤ sizeLimit := by
    rw [run.size_largeDrawn]
    decide
  obtain ⟨added, hpacked⟩ := h.exists_packedAt hfirst hne hlimit hsecond hne hlimit
  have hreport (image : ByteArray) := report_of_contentOf
    (contentOf_of_openForReading (h.openForReading_other image hfirst hne))
    (contentOf_of_openForReading (h.openForReading_other image hsecond hne))
    (contentOf_of_openForReading (h.openForReading_archive image h.denotes.2.2))
  rw [run.generate_of_openForWriting hdirectory h.forSmall h.forLarge, hpacked]
  simp only [hreport]
  refine ⟨_, _, rfl, ?_, ?_⟩
  · simp only [run.size_largeDrawn]
  · intro other hverify
    obtain ⟨hother, hsmall, -⟩ := verify_eq_ok_iff_checks.1 hverify
    obtain rfl := Except.ok.inj ((hreport _).symm.trans hother)
    have hsize := expectSize_eq_ok_iff.1 hsmall
    simp only [run.size_largeDrawn] at hsize
    exact absurd hsize (by decide)

/-- A destination in which the large file is a link to the small one. -/
def linkedDestination : FileSystem where
  workingDirectory := ["w"]
  objects := [(["d", "w"], .directory), (["large", "d", "w"], .link "small")]

/-- The run through the link succeeds with a small file of ten mebibytes, and the destination does
not verify. -/
theorem generate_linked :
    let run := constantRun 7 .stored
    ∃ report files, run.generate linkedDestination "d" = (.ok report, files) ∧
      report.small.size = 10485760 ∧ ∀ other, verify files "d" ≠ .ok other := by
  intro run
  have hdirectory : ensureDirectory linkedDestination "d" = (.ok (), linkedDestination) := rfl
  have hopens : run.Opens linkedDestination "d" ["small", "d", "w"] ["small", "d", "w"]
      ["test.zip", "d", "w"] := by
    generalize run = any
    exact ⟨rfl, rfl, rfl⟩
  exact hopens.generate_of_eq hdirectory (by decide)

end FixtureKit
