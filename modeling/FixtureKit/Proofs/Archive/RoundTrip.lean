import FixtureKit.Proofs.Archive.Packing

/-!
# The Round Trip of an Archive

What is packed is what is unpacked. The conditions are those of the format alone: names
differ and have room in their field, there are fewer entries than the count field tells,
and no size reaches the placeholder. Nothing is asked of the bytes, which may hold any
signature, nor of the alphabet of the names.

## Main results

* `buildArchive_roundTrip`: the archive lists every entry, gives each back, and has no other.
-/

namespace FixtureKit

open Archive

variable {fs opened : FileSystem} {archive : String} {target : Location}

/-- **Archive round trip.** When the archive can be made and every source is a readable file
other than the archive, the write succeeds, the archive lists all names with the sizes of their
sources in the order given, each entry reads back as the bytes of its source, and any other
name is not found. -/
theorem buildArchive_roundTrip {entries : List Entry} {compression : Compression}
    {content : Entry → ByteArray}
    (hopen : fs.openForWriting archive = .ok (.file target, opened))
    (hcount : entries.length < 65535)
    (hnames : (entries.map Entry.name).Nodup)
    (hlengths : ∀ entry ∈ entries, entry.name.toUTF8.size ≤ 65535)
    (hsources : ∀ entry ∈ entries, ∃ location, location ≠ target ∧
      fs.openForReading entry.source = .ok (location, .file (content entry)))
    (hsizes : ∀ entry ∈ entries, (content entry).size < 2 ^ 32 - 1)
    (harchive : ∀ bytes,
      (buildArchive fs archive entries compression).files.contentOf archive = .ok bytes →
      bytes.size < 2 ^ 32 - 1) :
    let written := buildArchive fs archive entries compression
    written.result = .ok () ∧
      listEntries written.files archive =
        .ok (entries.map fun entry => ⟨entry.name, (content entry).size⟩) ∧
      (∀ entry ∈ entries, readEntry written.files archive entry.name = .ok (content entry)) ∧
      ∀ name, name ∉ entries.map Entry.name →
        readEntry written.files archive name = .error (.format archive .entryNotFound) := by
  have hsupplies : ∀ entry ∈ entries, Supplies opened target entry.source (content entry) :=
    fun entry hmem => supplies_of_openForWriting hopen (hsources entry hmem)
  have hbuild := buildArchive_of_supplies compression hopen hnames hsupplies
    fun entry hmem => Nat.le_of_lt (hsizes entry hmem)
  rw [hbuild] at harchive ⊢
  have hfile := FileSystem.contentOf_of_openForReading
    (FileSystem.openForReading_of_openForWriting hopen
      (encode (membersOf compression (namedContents content entries))))
  have hdelivers := delivers_of_contentOf hfile (by rwa [map_fst_namedContents])
    (by rwa [namedContents, List.length_map])
    (fun named hmem => by
      obtain ⟨entry, hentry, rfl⟩ := List.mem_map.1 hmem
      rw [nameBytes, Bytes.length_toList]
      exact ⟨hlengths entry hentry, hsizes entry hentry⟩)
    (harchive _ hfile)
  refine ⟨rfl, ?_, ?_, ?_⟩
  · rw [hdelivers.list, namedContents, List.map_map]
    rfl
  · intro entry hmem
    exact hdelivers.read _ _ (List.mem_map.2 ⟨entry, hmem, rfl⟩)
  · intro name hname
    exact hdelivers.other name (by rwa [map_fst_namedContents])

/-! ### A hostile instance

The archive path is a link, one source starts like an end record, and the names are empty, with
a slash and outside ASCII, and an ordinary one for a source that is packed a second time. -/

/-- A working directory with the link, the sources and a directory for the archive. -/
def Archive.linkedFiles : FileSystem where
  workingDirectory := ["w"]
  objects :=
    [(["a", "w"], .file ⟨#[0x50, 0x4B, 0x05, 0x06]⟩), (["d", "w"], .directory),
      (["b", "d", "w"], .file ⟨#[1, 2, 3]⟩), (["out.zip", "w"], .link "d/real.zip")]

/-- The entries to be packed. -/
def Archive.oddEntries : List Entry :=
  [⟨"a", ""⟩, ⟨"d/b", "ä/é"⟩, ⟨"a", "x"⟩]

/-- The bytes of the sources. -/
def Archive.oddContent (entry : Entry) : ByteArray :=
  if entry.source = "a" then ⟨#[0x50, 0x4B, 0x05, 0x06]⟩ else ⟨#[1, 2, 3]⟩

/-- Opening the link opens the file that it names, which is made in the directory. -/
theorem Archive.openForWriting_linkedFiles :
    linkedFiles.openForWriting "out.zip" = .ok (.file ["real.zip", "d", "w"],
      linkedFiles.put ["real.zip", "d", "w"] (.file ByteArray.empty)) := rfl

/-- The archive of the three entries is a small one. -/
theorem Archive.size_oddArchive (bytes : ByteArray)
    (h : (buildArchive linkedFiles "out.zip" oddEntries .stored).files.contentOf "out.zip" =
      .ok bytes) : bytes.size < 2 ^ 32 - 1 := by
  have hsize : ((buildArchive linkedFiles "out.zip" oddEntries .stored).files.contentOf
      "out.zip").toOption.all (·.size < 2 ^ 32 - 1) = true := by decide +kernel
  rw [h] at hsize
  simpa [Except.toOption] using hsize

/-- The archive lists the three odd names, and each gives back its bytes. The part of a name behind
its slash is not found by itself. -/
theorem buildArchive_roundTrip_odd :
    (∀ entry ∈ oddEntries, ∃ location, location ≠ ["real.zip", "d", "w"] ∧
      linkedFiles.openForReading entry.source = .ok (location, .file (oddContent entry))) ∧
      let written := buildArchive linkedFiles "out.zip" oddEntries .stored
      written.result = .ok () ∧
        listEntries written.files "out.zip" = .ok [⟨"", 4⟩, ⟨"ä/é", 3⟩, ⟨"x", 4⟩] ∧
        readEntry written.files "out.zip" "ä/é" = .ok ⟨#[1, 2, 3]⟩ ∧
        readEntry written.files "out.zip" "é" =
          .error (.format "out.zip" .entryNotFound) := by
  have hsources : ∀ entry ∈ oddEntries, ∃ location, location ≠ ["real.zip", "d", "w"] ∧
      linkedFiles.openForReading entry.source = .ok (location, .file (oddContent entry)) := by
    simp only [oddEntries, List.forall_mem_cons]
    exact ⟨⟨["a", "w"], by decide, rfl⟩, ⟨["b", "d", "w"], by decide, rfl⟩,
      ⟨["a", "w"], by decide, rfl⟩, nofun⟩
  have hall := buildArchive_roundTrip openForWriting_linkedFiles (by decide) (by decide)
    (by decide) hsources (by decide) size_oddArchive
  obtain ⟨hresult, hlist, hread, hother⟩ := hall
  exact ⟨hsources, hresult, hlist, hread ⟨"d/b", "ä/é"⟩ (by decide), hother "é" (by decide)⟩

end FixtureKit
