import FixtureKit.Proofs.Archive.Interrupted
import FixtureKit.Proofs.Archive.OwnContent
import FixtureKit.Proofs.Archive.Sizes

/-!
# Completed Writes

A write that succeeds has added every entry. Each source has opened, with bytes that could
be copied, and each name was fresh. So success alone says of sources and names what the
lemmas about packing ask of them; only whether a source is the archive itself, which may
feed on what it has got, is left open.

## Main results

* `exists_of_failure_none`: what the first of some entries was when all have been added.
* `supplies_of_failure_none`: sources and names of entries that have all been added.
* `openForWriting_of_result_ok`: the archive of a write that succeeds is a file.
* `stored_of_result_ok`: what stored entries leave that have been written without failure.
-/

namespace FixtureKit

namespace Archive

/-- Bytes that are copied are those of a file, or what the archive finds in itself. -/
theorem sourceContent_eq_ok {target location : Location} {compression : Compression}
    {members : List Member} {fresh : Member} {object : Object} {content : ByteArray}
    (h : sourceContent target compression members fresh (location, object) = .ok content) :
    (location = target ∧
        ownContent compression (localPart (members ++ [fresh])) = .ok content) ∨
      (location ≠ target ∧ object = .file content ∧ content.size ≤ sizeLimit) := by
  cases object with
  | directory => cases h
  | link text => cases h
  | fullDevice => cases h
  | file bytes =>
      rw [sourceContent] at h
      split at h
      · next heq => exact .inl ⟨heq, h⟩
      · next hne =>
          split at h
          · cases h
          · next hsize =>
              cases h
              exact .inr ⟨hne, rfl, Nat.le_of_not_lt hsize⟩

section Adding

variable {fs : FileSystem} {path : String} {target : Location} {compression : Compression}

/-- When all entries have been added, the first has a source that opened, a fresh name and bytes
that were copied, and the others have been added behind it. -/
theorem exists_of_failure_none {members : List Member} {entry : Entry} {rest : List Entry}
    (h : (addEntries fs path target compression members (entry :: rest)).failure = none) :
    ∃ location object content,
      fs.openForReading entry.source = .ok (location, object) ∧
      entry.name ∉ members.map Member.name ∧
      sourceContent target compression members (openMember entry.name compression)
        (location, object) = .ok content ∧
      (addEntries fs path target compression members (entry :: rest)).members =
        (addEntries fs path target compression
          (members ++ [memberOf entry.name compression content]) rest).members ∧
      (addEntries fs path target compression
        (members ++ [memberOf entry.name compression content]) rest).failure = none := by
  rw [addEntries] at h ⊢
  cases hopen : fs.openForReading entry.source with
  | error cause => rw [hopen] at h; cases h
  | ok source =>
      obtain ⟨location, object⟩ := source
      rw [hopen] at h
      simp only at h ⊢
      split at h
      · cases h
      · next hany =>
          rw [if_neg hany]
          have hname : entry.name ∉ members.map Member.name :=
            fun hmem => hany (any_name_iff.2 hmem)
          cases hcontent : sourceContent target compression members
              (openMember entry.name compression) (location, object) with
          | error cause => rw [hcontent] at h; cases h
          | ok content =>
              rw [hcontent] at h
              exact ⟨location, object, content, rfl, hname, hcontent, rfl, h⟩

/-- When all entries have been added and none is the archive itself, every source is a readable
file that is not too large, and the names are fresh and differ. -/
theorem supplies_of_failure_none {members : List Member} {entries : List Entry}
    (hself : ∀ entry ∈ entries, ∀ object, fs.openForReading entry.source ≠ .ok (target, object))
    (hmembers : (members.map Member.name).Nodup)
    (h : (addEntries fs path target compression members entries).failure = none) :
    (∀ entry ∈ entries, Supplies fs target entry.source (fs.bytesOf entry.source)) ∧
      (∀ entry ∈ entries, (fs.bytesOf entry.source).size ≤ sizeLimit) ∧
      (members.map Member.name ++ entries.map Entry.name).Nodup := by
  induction entries generalizing members with
  | nil =>
      refine ⟨List.forall_mem_nil _, List.forall_mem_nil _, ?_⟩
      rwa [List.map_nil, List.append_nil]
  | cons entry rest ih =>
      obtain ⟨hnotSelf, hothers⟩ := List.forall_mem_cons.1 hself
      obtain ⟨location, object, content, hopen, hname, hcontent, -, hrest⟩ :=
        exists_of_failure_none h
      rcases sourceContent_eq_ok hcontent with ⟨rfl, -⟩ | ⟨hne, rfl, hsize⟩
      · exact absurd hopen (hnotSelf object)
      · have hbytes : fs.bytesOf entry.source = content := by
          rw [FileSystem.bytesOf, FileSystem.contentOf_of_openForReading hopen]
        have hfresh : ((members ++ [memberOf entry.name compression content]).map
            Member.name).Nodup := by
          rw [List.map_append, List.map_singleton, ← List.concat_eq_append]
          exact List.Nodup.concat hname hmembers
        obtain ⟨hsources, hsizes, hnames⟩ := ih hothers hfresh hrest
        refine ⟨List.forall_mem_cons.2 ⟨?_, hsources⟩, List.forall_mem_cons.2 ⟨?_, hsizes⟩, ?_⟩
        · rw [hbytes]
          exact ⟨location, hne, hopen⟩
        · rwa [hbytes]
        · rw [List.map_append, List.append_assoc] at hnames
          exact hnames

end Adding

section Writing

variable {fs : FileSystem} {archive : String} {entries : List Entry} {compression : Compression}

/-- The archive of a write that succeeds is a file. -/
theorem openForWriting_of_result_ok
    (h : (buildArchive fs archive entries compression).result = .ok ()) :
    ∃ target opened, fs.openForWriting archive = .ok (.file target, opened) := by
  rw [buildArchive_eq, writeArchive] at h
  split at h
  · cases h
  · cases h
  · next target opened hopen => exact ⟨target, opened, hopen⟩

/-- Where no file can be made for the archive, nothing is written. -/
theorem exists_of_openForWriting_ne (entries : List Entry) (compression : Compression)
    (h : ∀ target opened, fs.openForWriting archive ≠ .ok (.file target, opened)) :
    ∃ cause, buildArchive fs archive entries compression = ⟨.error cause, fs, []⟩ := by
  rw [buildArchive_eq]
  cases hopen : fs.openForWriting archive with
  | error cause => exact ⟨_, writeArchive_of_error hopen⟩
  | ok opening =>
      obtain ⟨sink, opened⟩ := opening
      rcases FileSystem.openForWriting_eq_ok hopen with ⟨target, rfl, -⟩ | ⟨rfl, rfl⟩
      · exact absurd hopen (h target opened)
      · rw [writeArchive, hopen]
        exact ⟨_, rfl⟩

/-- A write that succeeds has added all entries. -/
theorem failure_none_of_result_ok {opened : FileSystem} {target : Location}
    (hopen : fs.openForWriting archive = .ok (.file target, opened))
    (h : (buildArchive fs archive entries compression).result = .ok ()) :
    (addEntries opened archive target compression [] entries).failure = none := by
  rw [buildArchive_eq, writeArchive_of_openForWriting hopen rfl] at h
  cases hfailure : (addEntries opened archive target compression [] entries).failure with
  | none => rfl
  | some e => rw [hfailure] at h; cases h

end Writing

/-! ### Stored archives -/

/-- When stored entries have been written without failure, none of them the archive itself, the
archive is the image of their contents. It can hold these, delivers them, and no name stands for
two. -/
theorem stored_of_result_ok {fs opened : FileSystem} {archive : String} {target : Location}
    {entries : List Entry} {bytes : ByteArray}
    (hopen : fs.openForWriting archive = .ok (.file target, opened))
    (hself : ∀ entry ∈ entries, ∀ object,
      opened.openForReading entry.source ≠ .ok (target, object))
    (hcount : entries.length < 65535)
    (hlengths : ∀ entry ∈ entries, entry.name.toUTF8.size ≤ 65535)
    (hresult : (buildArchive fs archive entries .stored).result = .ok ())
    (hbytes : (buildArchive fs archive entries .stored).files.contentOf archive = .ok bytes)
    (hsize : bytes.size < 2 ^ 32 - 1) :
    let contents := namedContents (fun entry => opened.bytesOf entry.source) entries
    bytes = encode (membersOf .stored contents) ∧ Holdable (membersOf .stored contents) ∧
      Delivers (buildArchive fs archive entries .stored).files archive contents ∧
      (entries.map Entry.name).Nodup := by
  intro contents
  have hfailure := failure_none_of_result_ok hopen hresult
  have hnone : (([] : List Member).map Member.name).Nodup := List.nodup_nil
  obtain ⟨hsources, hsizes, hnames⟩ := supplies_of_failure_none hself hnone hfailure
  rw [List.map_nil, List.nil_append] at hnames
  have hbuild := buildArchive_of_supplies .stored hopen hnames hsources hsizes
  have hfile : (buildArchive fs archive entries .stored).files.contentOf archive =
      .ok (encode (membersOf .stored contents)) := by
    rw [hbuild]
    exact FileSystem.contentOf_of_openForReading
      (FileSystem.openForReading_of_openForWriting hopen _)
  obtain rfl := Except.ok.inj (hbytes.symm.trans hfile)
  have hdistinct : (contents.map Prod.fst).Nodup := by rwa [map_fst_namedContents]
  have hfew : contents.length < 0xFFFF := by
    rwa [show contents.length = entries.length from List.length_map _]
  have hfits : ∀ named ∈ contents,
      (nameBytes named.1).length ≤ 0xFFFF ∧ named.2.size < 0xFFFFFFFF := by
    intro named hnamed
    refine ⟨?_, Nat.lt_trans (size_lt_size_encode_stored hnamed) hsize⟩
    obtain ⟨entry, hentry, rfl⟩ := List.mem_map.1 hnamed
    rw [nameBytes, Bytes.length_toList]
    exact hlengths entry hentry
  exact ⟨rfl, holdable_membersOf hdistinct hfew hfits hsize,
    delivers_of_contentOf hfile hdistinct hfew hfits hsize, hnames⟩

end Archive

end FixtureKit
