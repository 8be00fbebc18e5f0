import FixtureKit.Proofs.Archive.Completed

/-!
# The Entries That Get In

A write may stop at any of its entries, and the archive is finished all the same. What is in it
then are the entries in front of that one, with the bytes of their sources, and possibly that one
itself: a directory can be opened, so that its entry has begun before its bytes cannot be read.
A source without end, or with more bytes than the size fields can tell, leaves nothing.

No source is the archive itself here. What counts is the file system in which the archive file has
just been made.

## Main results

* `exists_admits`: which entries get in, and what is in the archive then.
* `contentOf_buildArchive`: the archive file holds the image of their contents.
-/

namespace FixtureKit

namespace Archive

/-- Which of some entries get in: those that have been `added`, with the bytes of their sources,
and the one that is `broken` because its source is a directory, without bytes. -/
structure Admits (fs : FileSystem) (entries : List Entry) (packing : Packing) (added : List Entry)
    (broken : Option Entry) : Prop where
  front : added ++ broken.toList <+: entries
  sizes : packing.added = added.map fun entry => (entry, (fs.bytesOf entry.source).size)
  readable : ∀ entry ∈ added, fs.contentOf entry.source = .ok (fs.bytesOf entry.source)
  directory : ∀ entry ∈ broken, fs.contentOf entry.source = .error .isADirectory ∧
    packing.failure = some (.file entry.source .isADirectory)
  complete : packing.failure = none ↔ added = entries

/-- The contents of an archive into which some entries got. -/
def admittedContents (fs : FileSystem) (added : List Entry) (broken : Option Entry) :
    List (String × ByteArray) :=
  namedContents (fun entry => fs.bytesOf entry.source) (added ++ broken.toList)

section Adding

variable {fs : FileSystem} {source : String} {target location : Location} {object : Object}

/-- What is copied from an opened source that is not the archive: the bytes of a file, if they are
not too many, and nothing from anything else. -/
theorem sourceContent_cases (compression : Compression) (members : List Member) (fresh : Member)
    (hopen : fs.openForReading source = .ok (location, object)) (hne : location ≠ target) :
    (fs.contentOf source = .ok (fs.bytesOf source) ∧
        sourceContent target compression members fresh (location, object) =
          .ok (fs.bytesOf source)) ∨
      (fs.contentOf source = .error .isADirectory ∧
        sourceContent target compression members fresh (location, object) =
          .error .isADirectory) ∨
      sourceContent target compression members fresh (location, object) =
        .error .entryTooLarge := by
  have hcontent : fs.contentOf source = object.content := by
    rw [FileSystem.contentOf, FileSystem.object?, hopen]
    rfl
  cases object with
  | directory => exact .inr (.inl ⟨hcontent, rfl⟩)
  | link text => exact absurd rfl (FileSystem.openForReading_ne_link hopen text)
  | fullDevice => exact .inr (.inr rfl)
  | file content =>
      have hbytes : fs.bytesOf source = content := by
        rw [FileSystem.bytesOf, hcontent]
        rfl
      rw [hbytes, sourceContent, if_neg hne]
      by_cases hsize : sizeLimit < content.size
      · rw [if_pos hsize]
        exact .inr (.inr rfl)
      · rw [if_neg hsize]
        exact .inl ⟨hcontent, rfl⟩

/-- An entry that does not get in ends the packing. -/
theorem Admits.refused (entry : Entry) (rest : List Entry) (members : List Member)
    (e : ArchiveError) : Admits fs (entry :: rest) ⟨members, [], some e⟩ [] none where
  front := List.nil_prefix
  sizes := rfl
  readable := List.forall_mem_nil _
  directory := nofun
  complete := by simp

/-- A directory gets in without bytes and ends the packing. -/
theorem Admits.broken (entry : Entry) (rest : List Entry) (members : List Member)
    (hdirectory : fs.contentOf entry.source = .error .isADirectory) :
    Admits fs (entry :: rest) ⟨members, [], some (.file entry.source .isADirectory)⟩ []
      (some entry) where
  front := ⟨rest, rfl⟩
  sizes := rfl
  readable := List.forall_mem_nil _
  directory := by
    rintro other ⟨rfl⟩
    exact ⟨hdirectory, rfl⟩
  complete := by simp

/-- An entry that is added is in front of what gets in behind it. -/
theorem Admits.cons {entry : Entry} {rest : List Entry} {packing : Packing} {added : List Entry}
    {broken : Option Entry} (h : Admits fs rest packing added broken)
    (hreadable : fs.contentOf entry.source = .ok (fs.bytesOf entry.source)) :
    Admits fs (entry :: rest)
      { packing with added := (entry, (fs.bytesOf entry.source).size) :: packing.added }
      (entry :: added) broken where
  front := List.cons_prefix_cons.2 ⟨rfl, h.front⟩
  sizes := by rw [List.map_cons, h.sizes]
  readable := List.forall_mem_cons.2 ⟨hreadable, h.readable⟩
  directory := h.directory
  complete := by rw [List.cons.injEq, eq_self, true_and, h.complete]

/-- Which entries get in when none is the archive itself, and what is in the archive then. -/
theorem exists_admits (path : String) (compression : Compression) (members : List Member)
    {entries : List Entry}
    (hself : ∀ entry ∈ entries, ∀ object, fs.openForReading entry.source ≠ .ok (target, object)) :
    ∃ added broken,
      Admits fs entries (addEntries fs path target compression members entries) added broken ∧
      (addEntries fs path target compression members entries).members =
        members ++ membersOf compression (admittedContents fs added broken) := by
  induction entries generalizing members with
  | nil =>
      refine ⟨[], none, ?_, (List.append_nil members).symm⟩
      exact ⟨List.nil_prefix, rfl, List.forall_mem_nil _, nofun, by simp [addEntries]⟩
  | cons entry rest ih =>
      obtain ⟨hnotSelf, hothers⟩ := List.forall_mem_cons.1 hself
      -- of these ways only that of a readable source goes on, with one member more in front
      rw [addEntries]
      split
      · next cause hopen =>
          exact ⟨[], none, Admits.refused entry rest members _, (List.append_nil members).symm⟩
      · next opened hopen =>
          obtain ⟨location, object⟩ := opened
          have hne : location ≠ target := by
            rintro rfl
            exact hnotSelf object hopen
          split
          · exact ⟨[], none, Admits.refused entry rest members _, (List.append_nil members).symm⟩
          · rcases sourceContent_cases compression members (openMember entry.name compression)
                hopen hne with ⟨hreadable, hcontent⟩ | ⟨hdirectory, hcontent⟩ | hcontent
            · simp only [hcontent]
              obtain ⟨added, broken, hadmits, hmembers⟩ := ih _ hothers
              refine ⟨entry :: added, broken, hadmits.cons hreadable, ?_⟩
              rw [hmembers, List.append_assoc]
              rfl
            · simp only [hcontent]
              have hempty : fs.bytesOf entry.source = ByteArray.empty := by
                rw [FileSystem.bytesOf, hdirectory]
              refine ⟨[], some entry, Admits.broken entry rest _ hdirectory, ?_⟩
              rw [admittedContents, namedContents, List.nil_append, Option.toList_some,
                List.map_singleton, hempty]
              rfl
            · simp only [hcontent]
              exact ⟨[], none, Admits.refused entry rest _ _, (List.append_nil members).symm⟩

end Adding

/-- The archive file holds the image of the contents that got in. -/
theorem contentOf_buildArchive {fs opened : FileSystem} {archive : String} {target : Location}
    {entries : List Entry} {compression : Compression}
    (hopen : fs.openForWriting archive = .ok (.file target, opened)) :
    (buildArchive fs archive entries compression).files.contentOf archive =
      .ok (encode (addEntries opened archive target compression [] entries).members) := by
  rw [buildArchive_eq, writeArchive_of_openForWriting hopen rfl]
  exact FileSystem.contentOf_of_openForReading
    (FileSystem.openForReading_of_openForWriting hopen _)

end Archive

end FixtureKit
