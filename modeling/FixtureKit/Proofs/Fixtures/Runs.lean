import FixtureKit.Fixtures.Generate
import FixtureKit.Fixtures.Verify
import FixtureKit.Proofs.Archive.Packing
import FixtureKit.Proofs.Archive.Sizes
import FixtureKit.Proofs.FileSystem.Destination
import FixtureKit.Proofs.Fixtures.Verified
import FixtureKit.Proofs.RandomFile.Requests

/-!
# Making Fixtures Again and Again

One run of the generator needs a destination in which every artifact is a plain file or
missing. It fills the two files, packs them, and leaves a destination of the same kind, so
the next run finds what it needs whatever the runs before it have drawn and packed. What is
verified is therefore always the work of the last run.

## Main results

* `generate_of_ready`: what one run leaves in a destination that is ready for it.
* `Ready.put`: a destination stays ready when files are filled.
* `generateRuns_verify`: after any row of runs, the last one verifies.
-/

namespace FixtureKit

open Archive FileSystem

/-! ### Runs -/

/-- A generator in some state, of whatever kind the state is. -/
structure RandomSource where
  {σ : Type}
  generator : Generator σ
  state : σ

/-- What one run is made with. -/
structure Run where
  source : RandomSource
  compression : Compression

namespace Run

/-- Makes the fixtures of a destination. -/
def generate (run : Run) (fs : FileSystem) (destination : String) :
    Except FixtureError Report × FileSystem :=
  let made := FixtureKit.generate run.source.generator run.source.state fs destination
    run.compression
  (made.result, made.files)

/-- What is drawn for the small file, and the state after it. -/
def smallDrawn (run : Run) : ByteArray × run.source.σ :=
  run.source.generator.replies run.source.state (RandomFile.requestsFor smallSize)

/-- What is drawn for the large file, behind the small one, and the state after it. -/
def largeDrawn (run : Run) : ByteArray × run.source.σ :=
  run.source.generator.replies run.smallDrawn.2 (RandomFile.requestsFor largeSize)

/-- A small file is as large as it should be, whatever the generator. -/
theorem size_smallDrawn (run : Run) : run.smallDrawn.1.size = smallSize := by
  rw [smallDrawn, Generator.size_replies, RandomFile.requestsFor, RandomFile.sum_requestsUpTo]

/-- A large file is as large as it should be, whatever the generator. -/
theorem size_largeDrawn (run : Run) : run.largeDrawn.1.size = largeSize := by
  rw [largeDrawn, Generator.size_replies, RandomFile.requestsFor, RandomFile.sum_requestsUpTo]

/-- The contents of the archive that a run packs. -/
def contents (run : Run) : List (String × ByteArray) :=
  [(smallName, run.smallDrawn.1), (largeName, run.largeDrawn.1)]

/-- The bytes that an entry of that archive is packed with. -/
def entryContent (run : Run) (entry : Entry) : ByteArray :=
  if entry.name = smallName then run.smallDrawn.1 else run.largeDrawn.1

/-- What is packed is no larger than the large file, so an archive of it stays far below its
limit. -/
theorem size_entryContent_le (run : Run) (entry : Entry) :
    (run.entryContent entry).size ≤ sizeLimit := by
  have hsmall : smallSize ≤ sizeLimit := by decide
  have hlarge : largeSize ≤ sizeLimit := by decide
  rw [entryContent]
  split
  · rwa [run.size_smallDrawn]
  · rwa [run.size_largeDrawn]

/-- The archive that a run packs. -/
def image (run : Run) : ByteArray :=
  encode (membersOf run.compression run.contents)

end Run

/-- Makes the fixtures of a destination once for every run, and answers all results. -/
def generateRuns (fs : FileSystem) (destination : String) :
    List Run → List (Except FixtureError Report) × FileSystem
  | [] => ([], fs)
  | run :: rest =>
    let (result, made) := run.generate fs destination
    let (results, files) := generateRuns made destination rest
    (result :: results, files)

/-! ### The size of the archive -/

/-- An archive of two contents under the names of the files is not much larger than these, however
badly they are compressed. -/
theorem Archive.size_encode_pair_le (compression : Compression) (small large : ByteArray) :
    2 * (encode (membersOf compression [(smallName, small), (largeName, large)])).size ≤
      3 * (small.size + large.size) + 900 := by
  have hsmallName : smallName.toUTF8.size = 5 := by decide
  have hlargeName : largeName.toUTF8.size = 5 := by decide
  have hsize := size_encode_membersOf_le compression [(smallName, small), (largeName, large)]
  rw [namesSize_cons, namesSize_cons, namesSize_nil, contentsSize_cons, contentsSize_cons,
    contentsSize_nil, hsmallName, hlargeName] at hsize
  simp only [List.length_cons, List.length_nil] at hsize
  omega

/-- The archive of a run is far from the limit of the format. -/
theorem Run.size_image_lt (run : Run) : run.image.size < 0xFFFFFFFF := by
  have hsize : 2 * run.image.size ≤ _ :=
    Archive.size_encode_pair_le run.compression run.smallDrawn.1 run.largeDrawn.1
  rw [run.size_smallDrawn, run.size_largeDrawn, smallSize, largeSize] at hsize
  omega

/-- An archive can hold the two files of a run. -/
theorem Run.holdable_contents (run : Run) : Holdable (membersOf run.compression run.contents) := by
  have hnames : [smallName, largeName].Nodup := by decide
  have hlengths : ∀ name ∈ [smallName, largeName], (nameBytes name).length ≤ 0xFFFF := by decide
  have hsmall : smallSize < 0xFFFFFFFF := by decide
  have hlarge : largeSize < 0xFFFFFFFF := by decide
  have hcount : run.contents.length < 0xFFFF := by simp [Run.contents]
  refine holdable_membersOf hnames hcount ?_ run.size_image_lt
  intro named hnamed
  refine ⟨hlengths named.1 (List.mem_map_of_mem hnamed), ?_⟩
  simp only [Run.contents, List.mem_cons, List.not_mem_nil, or_false] at hnamed
  rcases hnamed with rfl | rfl
  · rwa [run.size_smallDrawn]
  · rwa [run.size_largeDrawn]

/-! ### Destinations that are ready -/

/-- The names of the artifacts. -/
def artifactNames : List String :=
  [smallName, largeName, archiveName]

/-- The small file is an artifact. -/
theorem smallName_mem : smallName ∈ artifactNames := by decide

/-- The large file is an artifact. -/
theorem largeName_mem : largeName ∈ artifactNames := by decide

/-- The archive is an artifact. -/
theorem archiveName_mem : archiveName ∈ artifactNames := by decide

/-- The artifacts have names that are one step each. -/
theorem isName_of_mem_artifactNames {name : String} (h : name ∈ artifactNames) :
    Path.IsName name := by
  simp only [artifactNames, List.mem_cons, List.not_mem_nil, or_false] at h
  rcases h with rfl | rfl | rfl
  · exact ⟨rfl, by decide⟩
  · exact ⟨rfl, by decide⟩
  · exact ⟨rfl, by decide⟩

/-- A destination that is there, at a location with room for every artifact. -/
structure Ready (fs : FileSystem) (destination : String) (location : Location) : Prop where
  parse : destination.isEmpty = true ∨ Path.parse destination = .ok (Path.ofText destination)
  home : fs.Home destination location
  reaches : ∀ name ∈ artifactNames,
    fs.Reaches (Path.join destination name) (name :: location)

section Ready

variable {fs : FileSystem} {destination : String} {location : Location}

/-- A destination stays ready when one of its artifacts is filled. -/
theorem Ready.put (h : Ready fs destination location) {name : String}
    (hname : name ∈ artifactNames) (content : ByteArray) :
    Ready (fs.put (name :: location) (.file content)) destination location := by
  have hfill := (h.reaches name hname).1
  refine ⟨h.parse, h.home.put hfill content, ?_⟩
  intro other hother
  exact (h.reaches other hother).put hfill content

/-- A destination is ready once it is a directory and no artifact is hindered by a link or a
directory. -/
theorem exists_ready_of_plain {made : FileSystem}
    (hdirectory : ensureDirectory fs destination = (.ok (), made))
    (hplain : ∀ name ∈ artifactNames, made.Plain (Path.join destination name)) :
    ∃ location, Ready made destination location := by
  have hreaches (name : String) (hname : name ∈ artifactNames) :=
    reaches_of_plain (isName_of_mem_artifactNames hname) (hplain name hname)
  obtain ⟨location, hhome, -⟩ := hreaches smallName smallName_mem
  refine ⟨location, parse_of_ensureDirectory hdirectory, hhome, ?_⟩
  intro name hname
  obtain ⟨other, hother, hreach⟩ := hreaches name hname
  rwa [hhome.unique hother]

/-- An artifact that has been filled is read by its path. -/
theorem Ready.openForReading_put (h : Ready fs destination location) {name : String}
    (hname : name ∈ artifactNames) (content : ByteArray) :
    (fs.put (name :: location) (.file content)).openForReading (Path.join destination name) =
      .ok (name :: location, .file content) :=
  (h.reaches name hname).openForReading_put content

/-- An artifact can be written anew. -/
theorem Ready.writeFile (h : Ready fs destination location) {name : String}
    (hname : name ∈ artifactNames) (content : ByteArray) :
    fs.writeFile (Path.join destination name) content =
      (.ok (), fs.put (name :: location) (.file content)) := by
  rw [FileSystem.writeFile, (h.reaches name hname).openForWriting]
  simp only [put_put]

/-- The other artifacts are read as before. -/
theorem Ready.openForReading_put_of_ne (h : Ready fs destination location) {name other : String}
    {object : Object} (hname : name ∈ artifactNames) (hne : other ≠ name) (content : ByteArray)
    (hother : fs.openForReading (Path.join destination other) = .ok (other :: location, object)) :
    (fs.put (name :: location) (.file content)).openForReading (Path.join destination other) =
      .ok (other :: location, object) :=
  FileSystem.openForReading_put_of_ne (h.reaches name hname).1 content hother (by simpa using hne)

/-- An artifact is filled with the replies to the requests of its size. -/
theorem Ready.writeRandomFile (h : Ready fs destination location) {name : String}
    (hname : name ∈ artifactNames) {σ : Type} (generator : Generator σ) (state : σ) (size : Nat) :
    writeRandomFile generator state fs (Path.join destination name) size =
      let drawn := generator.replies state (RandomFile.requestsFor size)
      ⟨.ok (), fs.put (name :: location) (.file drawn.1), drawn.2,
        RandomFile.requestsFor size⟩ :=
  writeRandomFile_of_opens generator state size (h.reaches name hname).openForWriting

end Ready

/-! ### One run -/

/-- The report on what a run makes. -/
def Run.report (run : Run) (destination : String) : Report :=
  let layout := Layout.of destination
  ⟨⟨layout.small, smallSize⟩, ⟨layout.large, largeSize⟩, ⟨layout.archive, run.image.size⟩⟩

/-- A file system with the two files of a run. -/
def Run.drawnTo (run : Run) (fs : FileSystem) (location : Location) : FileSystem :=
  (fs.put (smallName :: location) (.file run.smallDrawn.1)).put (largeName :: location)
    (.file run.largeDrawn.1)

/-- A file system with the two files of a run and their archive. -/
def Run.packedTo (run : Run) (fs : FileSystem) (location : Location) : FileSystem :=
  (run.drawnTo fs location).put (archiveName :: location) (.file run.image)

/-- What the paths of a destination read after a run. -/
structure Holds (fs : FileSystem) (destination : String) (location : Location) (run : Run) :
    Prop where
  small : fs.openForReading (Layout.of destination).small =
    .ok (smallName :: location, .file run.smallDrawn.1)
  large : fs.openForReading (Layout.of destination).large =
    .ok (largeName :: location, .file run.largeDrawn.1)
  archive : fs.openForReading (Layout.of destination).archive =
    .ok (archiveName :: location, .file run.image)

/-- What the paths of a destination give back after a run, wherever the files are. -/
structure Kept (fs : FileSystem) (destination : String) (run : Run) : Prop where
  small : fs.contentOf (Layout.of destination).small = .ok run.smallDrawn.1
  large : fs.contentOf (Layout.of destination).large = .ok run.largeDrawn.1
  archive : fs.contentOf (Layout.of destination).archive = .ok run.image

section OneRun

variable {fs made : FileSystem} {destination : String} {location : Location}

/-- A destination stays ready when the two files have been drawn. -/
theorem Ready.drawnTo (h : Ready fs destination location) (run : Run) :
    Ready (run.drawnTo fs location) destination location :=
  (h.put smallName_mem _).put largeName_mem _

/-- A destination stays ready when the archive has been packed, so another run can follow. -/
theorem Ready.packedTo (h : Ready fs destination location) (run : Run) :
    Ready (run.packedTo fs location) destination location :=
  (h.drawnTo run).put archiveName_mem _

/-- The two files that have been drawn can be read, each by its own path. -/
theorem Ready.openForReading_drawnTo (h : Ready fs destination location) (run : Run) :
    (run.drawnTo fs location).openForReading (Layout.of destination).small =
        .ok (smallName :: location, .file run.smallDrawn.1) ∧
      (run.drawnTo fs location).openForReading (Layout.of destination).large =
        .ok (largeName :: location, .file run.largeDrawn.1) := by
  have hsmall := h.openForReading_put smallName_mem run.smallDrawn.1
  have hfilled := h.put smallName_mem run.smallDrawn.1
  exact ⟨hfilled.openForReading_put_of_ne largeName_mem (by decide) _ hsmall,
    hfilled.openForReading_put largeName_mem _⟩

/-- After a run, every artifact reads what the run has made. -/
theorem Ready.holds (h : Ready fs destination location) (run : Run) :
    Holds (run.packedTo fs location) destination location run := by
  obtain ⟨hsmall, hlarge⟩ := h.openForReading_drawnTo run
  have hdrawn := h.drawnTo run
  exact ⟨hdrawn.openForReading_put_of_ne archiveName_mem (by decide) _ hsmall,
    hdrawn.openForReading_put_of_ne archiveName_mem (by decide) _ hlarge,
    hdrawn.openForReading_put archiveName_mem _⟩

/-- What a run reports about its destination is what can be read there. -/
theorem Kept.report {run : Run} (h : Kept fs destination run) :
    fs.report (Layout.of destination) = .ok (run.report destination) := by
  rw [report_of_contentOf h.small h.large h.archive, run.size_smallDrawn, run.size_largeDrawn]
  rfl

/-- The archive of a run delivers the two files. -/
theorem Kept.delivers {run : Run} (h : Kept fs destination run) :
    Delivers fs (Layout.of destination).archive run.contents :=
  delivers_of_holdable run.holdable_contents h.archive

/-- A destination that keeps what a run left verifies, with the report of the run. -/
theorem Kept.verify {run : Run} (h : Kept fs destination run) :
    verify fs destination = .ok (run.report destination) := by
  have hdelivers := h.delivers
  have hentries : expectEntries fs (Layout.of destination).archive [smallName, largeName] =
      .ok () := expectEntries_eq_ok_iff.2 ⟨_, hdelivers.list, rfl⟩
  have hcontents : expectContents fs (Layout.of destination).archive
      (Layout.of destination).entries = .ok () := by
    simp only [expectContents_eq_ok_iff, expectContent_eq_ok_iff, Layout.entries,
      List.forall_mem_cons]
    refine ⟨⟨_, h.small, ?_⟩, ⟨_, h.large, ?_⟩, List.forall_mem_nil _⟩
    · exact hdelivers.read _ _ List.mem_cons_self
    · exact hdelivers.read _ _ (List.mem_cons_of_mem _ List.mem_cons_self)
  exact verify_eq_ok_iff_checks.2
    ⟨h.report, expectSize_eq_ok_iff.2 rfl, expectSize_eq_ok_iff.2 rfl, hentries, hcontents⟩

/-- What stands at a destination after a run is kept there. -/
theorem Holds.kept {run : Run} (h : Holds fs destination location run) :
    Kept fs destination run where
  small := contentOf_of_openForReading h.small
  large := contentOf_of_openForReading h.large
  archive := contentOf_of_openForReading h.archive

/-- The archive of a run gives back what was packed. -/
theorem Holds.delivers {run : Run} (h : Holds fs destination location run) :
    Delivers fs (Layout.of destination).archive run.contents :=
  h.kept.delivers

/-- A destination verifies after a run. -/
theorem Holds.verify {run : Run} (h : Holds fs destination location run) :
    verify fs destination = .ok (run.report destination) :=
  h.kept.verify

/-- While the archive is packed its sources are the files that have been drawn, and neither is the
archive. -/
theorem Ready.supplies (h : Ready fs destination location) (run : Run) :
    ∀ entry ∈ (Layout.of destination).entries,
      Supplies ((run.drawnTo fs location).put (archiveName :: location) (.file ByteArray.empty))
        (archiveName :: location) entry.source (run.entryContent entry) := by
  obtain ⟨hsmall, hlarge⟩ := h.openForReading_drawnTo run
  have hdrawn := h.drawnTo run
  simp only [Layout.entries, List.forall_mem_cons]
  refine ⟨⟨smallName :: location, ?_, ?_⟩, ⟨largeName :: location, ?_, ?_⟩, List.forall_mem_nil _⟩
  · simp [smallName, archiveName]
  · exact hdrawn.openForReading_put_of_ne archiveName_mem (by decide) _ hsmall
  · simp [largeName, archiveName]
  · exact hdrawn.openForReading_put_of_ne archiveName_mem (by decide) _ hlarge

/-- The two files are packed into the archive of the run. -/
theorem Ready.buildArchive (h : Ready fs destination location) (run : Run) :
    ∃ added, buildArchive (run.drawnTo fs location) (Layout.of destination).archive
      (Layout.of destination).entries run.compression =
        ⟨.ok (), run.packedTo fs location, added⟩ := by
  have hopen : (run.drawnTo fs location).openForWriting (Layout.of destination).archive =
      .ok (.file (archiveName :: location), _) :=
    ((h.drawnTo run).reaches archiveName archiveName_mem).openForWriting
  have hnames : ((Layout.of destination).entries.map Entry.name).Nodup := by
    rw [Layout.names_entries]
    decide
  rw [buildArchive_of_supplies run.compression hopen hnames (h.supplies run)
    fun entry _ => run.size_entryContent_le entry]
  simp only [put_put]
  exact ⟨_, rfl⟩

/-- Packing the fixtures of a ready destination succeeds, with the report of the run, and leaves
the state of the generator alone. -/
theorem Ready.packFixtures (h : Ready fs destination location) (run : Run) {σ : Type} (state : σ)
    (events : List Event) :
    ∃ told, packFixtures state (run.drawnTo fs location) destination run.compression events =
      ⟨.ok (run.report destination), run.packedTo fs location, state, told⟩ := by
  obtain ⟨added, hbuild⟩ := h.buildArchive run
  rw [FixtureKit.packFixtures]
  simp only [hbuild, (h.holds run).kept.report]
  exact ⟨_, rfl⟩

/-- A run for a destination that is ready fills both files, packs them and reports on all
three. -/
theorem generate_of_ready (hdirectory : ensureDirectory fs destination = (.ok (), made))
    (h : Ready made destination location) (run : Run) :
    run.generate fs destination =
      (.ok (run.report destination), run.packedTo made location) := by
  have hsmall : writeRandomFile run.source.generator run.source.state made
      (Layout.of destination).small smallSize =
        ⟨.ok (), made.put (smallName :: location) (.file run.smallDrawn.1), run.smallDrawn.2,
          RandomFile.requestsFor smallSize⟩ :=
    h.writeRandomFile smallName_mem _ _ _
  have hlarge : writeRandomFile run.source.generator run.smallDrawn.2
      (made.put (smallName :: location) (.file run.smallDrawn.1)) (Layout.of destination).large
      largeSize =
        ⟨.ok (), run.drawnTo made location, run.largeDrawn.2, RandomFile.requestsFor largeSize⟩ :=
    (h.put smallName_mem run.smallDrawn.1).writeRandomFile largeName_mem _ _ _
  obtain ⟨told, hpack⟩ := h.packFixtures run run.largeDrawn.2
    [.directoryReady destination, .fileWritten (Layout.of destination).small smallSize,
      .fileWritten (Layout.of destination).large largeSize]
  rw [Run.generate, FixtureKit.generate, hdirectory]
  simp only [hsmall, hlarge, hpack]

end OneRun

/-! ### Many runs -/

/-- A destination that can be made ready for a run, or is already. -/
def Usable (fs : FileSystem) (destination : String) (location : Location) : Prop :=
  ∃ made, ensureDirectory fs destination = (.ok (), made) ∧ Ready made destination location

section ManyRuns

variable {fs : FileSystem} {destination : String} {location : Location}

/-- A ready destination can be used. -/
theorem Ready.usable (h : Ready fs destination location) : Usable fs destination location :=
  ⟨fs, ensureDirectory_of_home h.parse h.home, h⟩

/-- A usable destination is ready after a run, and holds what the run has made. -/
theorem Usable.generate (h : Usable fs destination location) (run : Run) :
    ∃ files, run.generate fs destination = (.ok (run.report destination), files) ∧
      Ready files destination location ∧ Holds files destination location run := by
  obtain ⟨made, hdirectory, hready⟩ := h
  exact ⟨run.packedTo made location, generate_of_ready hdirectory hready run,
    hready.packedTo run, hready.holds run⟩

/-- A row of runs is one part of it followed by the other. -/
theorem generateRuns_append (fs : FileSystem) (destination : String) (earlier later : List Run) :
    generateRuns fs destination (earlier ++ later) =
      let before := generateRuns fs destination earlier
      let after := generateRuns before.2 destination later
      (before.1 ++ after.1, after.2) := by
  induction earlier generalizing fs with
  | nil => rfl
  | cons run earlier ih => simp only [List.cons_append, generateRuns, ih]

/-- However many runs there are, each of them succeeds, and the destination stays usable. -/
theorem generateRuns_of_usable (h : Usable fs destination location) (runs : List Run) :
    (generateRuns fs destination runs).1 = runs.map (fun run => .ok (run.report destination)) ∧
      Usable (generateRuns fs destination runs).2 destination location := by
  induction runs generalizing fs with
  | nil => exact ⟨rfl, h⟩
  | cons run runs ih =>
      obtain ⟨files, hgenerate, hready, -⟩ := h.generate run
      obtain ⟨hresults, husable⟩ := ih hready.usable
      rw [generateRuns, hgenerate]
      exact ⟨congrArg _ hresults, husable⟩

/-- **Generate, then verify.** When the destination can be made a directory in which every
artifact is missing or a plain file, any row of runs succeeds, with whatever compressions and
random bytes; after the last one, both files hold the bytes that it has drawn, the archive lists
the two and gives them back, and the fixtures verify with the report of the last run. -/
theorem generateRuns_verify {made : FileSystem}
    (hdirectory : ensureDirectory fs destination = (.ok (), made))
    (hplain : ∀ name ∈ ["small", "large", "test.zip"], made.Plain (Path.join destination name))
    (earlier : List Run) (last : Run) :
    let done := generateRuns fs destination (earlier ++ [last])
    let small := Path.join destination "small"
    let large := Path.join destination "large"
    let archive := Path.join destination "test.zip"
    done.1 = (earlier ++ [last]).map (fun run => .ok (run.report destination)) ∧
      last.smallDrawn.1.size = 8 ∧ last.largeDrawn.1.size = 10485760 ∧
      done.2.contentOf small = .ok last.smallDrawn.1 ∧
      done.2.contentOf large = .ok last.largeDrawn.1 ∧
      listEntries done.2 archive = .ok [⟨"small", 8⟩, ⟨"large", 10485760⟩] ∧
      readEntry done.2 archive "small" = .ok last.smallDrawn.1 ∧
      readEntry done.2 archive "large" = .ok last.largeDrawn.1 ∧
      verify done.2 destination = .ok (last.report destination) := by
  obtain ⟨location, hready⟩ := exists_ready_of_plain hdirectory hplain
  obtain ⟨hresults, husable⟩ := generateRuns_of_usable ⟨made, hdirectory, hready⟩ earlier
  obtain ⟨files, hgenerate, -, hholds⟩ := husable.generate last
  have hsmall : last.smallDrawn.1.size = 8 := last.size_smallDrawn
  have hlarge : last.largeDrawn.1.size = 10485760 := last.size_largeDrawn
  have hdone : generateRuns fs destination (earlier ++ [last]) =
      ((earlier ++ [last]).map fun run => .ok (run.report destination), files) := by
    rw [generateRuns_append]
    simp only [generateRuns, hgenerate, hresults, List.map_append, List.map_cons, List.map_nil]
  have hlist := hholds.delivers.list
  have hread := hholds.delivers.read
  simp only [Run.contents, List.map_cons, List.map_nil, hsmall, hlarge] at hlist
  rw [hdone]
  refine ⟨rfl, hsmall, hlarge, contentOf_of_openForReading hholds.small,
    contentOf_of_openForReading hholds.large, hlist, ?_, ?_, hholds.verify⟩
  · exact hread smallName _ (by simp [Run.contents])
  · exact hread largeName _ (by simp [Run.contents])

end ManyRuns

/-! ### An instance

The destination is a link to a directory that holds an old small file and something else. The
fixtures are made twice, with either compression. -/

/-- A working directory with the link and the directory. -/
def staleFiles : FileSystem where
  workingDirectory := ["w"]
  objects :=
    [(["d", "w"], .directory), (["small", "d", "w"], .file ⟨#[1, 2, 3]⟩),
      (["notes", "d", "w"], .file ⟨#[4]⟩), (["out", "w"], .link "d")]

/-- A run with one byte repeated. -/
def constantRun (seed : UInt64) (compression : Compression) : Run where
  source := ⟨Generator.constant, seed⟩
  compression := compression

/-- Behind the link there is an old small file in one place and nothing in the other two. -/
theorem plain_staleFiles :
    ∀ name ∈ ["small", "large", "test.zip"], staleFiles.Plain (Path.join "out/" name) := by
  simp only [List.forall_mem_cons]
  exact ⟨.inr ⟨["small", "d", "w"], ⟨#[1, 2, 3]⟩, rfl⟩, .inl ⟨["d", "w"], "large", rfl⟩,
    .inl ⟨["d", "w"], "test.zip", rfl⟩, List.forall_mem_nil _⟩

/-- After both runs the destination holds the fixtures of the last one, and verifies with its
report. -/
theorem generateRuns_verify_stale :
    let first := constantRun 7 .deflated
    let last := constantRun 80 .stored
    let done := generateRuns staleFiles "out/" [first, last]
    ensureDirectory staleFiles "out/" = (.ok (), staleFiles) ∧
      done.2.contentOf "out/small" = .ok last.smallDrawn.1 ∧
      listEntries done.2 "out/test.zip" = .ok [⟨"small", 8⟩, ⟨"large", 10485760⟩] ∧
      verify done.2 "out/" = .ok (last.report "out/") := by
  have hdirectory : ensureDirectory staleFiles "out/" = (.ok (), staleFiles) := rfl
  obtain ⟨-, -, -, hsmall, -, hlist, -, -, hverify⟩ := generateRuns_verify hdirectory
    plain_staleFiles [constantRun 7 .deflated] (constantRun 80 .stored)
  exact ⟨hdirectory, hsmall, hlist, hverify⟩

end FixtureKit
