import FixtureKit.Proofs.Archive.Admitted

/-!
# Where an Archive Ends

An archive is opened from its end, so its length matters. When bytes are missing from the end, the
end record is cut short wherever it starts, and if nothing else in the archive looks like one, there
is nothing left to open. Bytes that are added behind the end record are stepped over by the search,
as long as no other end record can be seen in them. None can start in the archive and end in them
either, because the end record ends with two zeros, which are in no signature.

This holds of what any write leaves, whether it succeeded or not and whatever the sources, the
archive itself included: what has been packed can be held, if the archive is not too large.

## Main results

* `holdable_addEntries`: members that have been packed can be held.
* `exists_directory_extract_eq_error`: an archive that has been cut short does not open.
* `indexed_encode_append`: an archive with bytes behind it is indexed as before.
* `buildArchive_boundary`: what a write leaves is refused when it is cut short and reads the same
  when it is continued.
-/

namespace FixtureKit

namespace Archive

/-! ### What has been packed -/

/-- Members as they are packed: the names differ, and each stands for no more bytes than the size
fields can tell. -/
structure Packed (members : List Member) : Prop where
  names : (members.map Member.name).Nodup
  sizes : ∀ member ∈ members, member.size ≤ sizeLimit

/-- An archive of no members is packed. -/
theorem packed_nil : Packed [] where
  names := List.nodup_nil
  sizes := List.forall_mem_nil _

section Adding

variable {fs : FileSystem} {path : String} {target : Location} {compression : Compression}
  {members : List Member} {name : String} {content : ByteArray}

/-- A member with a fresh name is packed behind others, if what it stands for has been copied. -/
theorem Packed.concat (h : Packed members) (hname : name ∉ members.map Member.name)
    (hsize : content.size ≤ sizeLimit) :
    Packed (members ++ [memberOf name compression content]) where
  names := by
    rw [List.map_append, List.map_singleton, ← List.concat_eq_append]
    exact List.Nodup.concat hname h.names
  sizes := by
    intro member hmem
    rcases List.mem_append.1 hmem with hold | hnew
    · exact h.sizes member hold
    · obtain rfl := List.mem_singleton.1 hnew
      exact hsize

/-- What is copied from a source is no larger than the size fields can tell. -/
theorem size_sourceContent_le {fresh : Member} {source : Location × Object}
    (h : sourceContent target compression members fresh source = .ok content) :
    content.size ≤ sizeLimit := by
  rcases sourceContent_eq_ok h with ⟨-, hown⟩ | ⟨-, -, hlimit⟩
  · exact size_ownContent_le hown
  · exact hlimit

/-- Of a copy that fails at most one member is left, and behind all the others. -/
theorem keptAfter_cases (cause : IoError) (members : List Member) (fresh : Member) :
    keptAfter cause members fresh = members ∨
      keptAfter cause members fresh = members ++ [fresh] := by
  unfold keptAfter
  split
  · exact .inl rfl
  · exact .inr rfl

/-- Adding entries to members that are packed leaves members that are packed. -/
theorem packed_addEntries {entries : List Entry} (h : Packed members) :
    Packed (addEntries fs path target compression members entries).members := by
  fun_induction addEntries fs path target compression members entries with
  | case1 members => exact h
  | case2 members entry rest cause hopen => exact h
  | case3 members entry rest source hopen hused => exact h
  | case4 members entry rest source hopen hfresh fresh cause hcause kept =>
      have hname : entry.name ∉ members.map Member.name := fun hmem => hfresh (any_name_iff.2 hmem)
      rcases keptAfter_cases cause members kept with hkept | hkept
      · rwa [hkept]
      · rw [hkept]
        exact h.concat hname (Nat.zero_le _)
  | case5 members entry rest source hopen hfresh fresh content hcontent packing ih =>
      have hname : entry.name ∉ members.map Member.name := fun hmem => hfresh (any_name_iff.2 hmem)
      exact ih (h.concat hname (size_sourceContent_le hcontent))

/-- The names of what has been packed are those of the first entries, in order. -/
theorem map_name_addEntries {entries : List Entry} :
    (addEntries fs path target compression members entries).members.map Member.name <+:
      members.map Member.name ++ entries.map Entry.name := by
  fun_induction addEntries fs path target compression members entries with
  | case1 members => exact List.prefix_append _ _
  | case2 members entry rest cause hopen => exact List.prefix_append _ _
  | case3 members entry rest source hopen hused => exact List.prefix_append _ _
  | case4 members entry rest source hopen hfresh fresh cause hcause kept =>
      rcases keptAfter_cases cause members kept with hkept | hkept
      · rw [hkept]
        exact List.prefix_append _ _
      · rw [hkept, List.map_append, List.prefix_append_right_inj]
        exact ⟨rest.map Entry.name, rfl⟩
  | case5 members entry rest source hopen hfresh fresh content hcontent packing ih =>
      rw [List.map_append, List.append_assoc] at ih
      exact ih

end Adding

/-- Members that have been packed can be held, if their names have room, they are not too many and
the archive is not too large. -/
theorem holdable_addEntries {fs : FileSystem} {path : String} {target : Location}
    {compression : Compression} {entries : List Entry} {members : List Member}
    (hmembers : (addEntries fs path target compression [] entries).members = members)
    (hcount : entries.length < 0xFFFF)
    (hlengths : ∀ member ∈ members, member.name.toUTF8.size ≤ 0xFFFF)
    (hsize : (encode members).size < 0xFFFFFFFF) : Holdable members := by
  have hpacked : Packed members := hmembers ▸ packed_addEntries packed_nil
  have hnames : members.map Member.name <+: [] ++ entries.map Entry.name :=
    hmembers ▸ map_name_addEntries
  have hfew := hnames.length_le
  rw [List.nil_append, List.length_map, List.length_map] at hfew
  refine holdable_of_size_encode hpacked.names ?_ ?_ (Nat.lt_of_le_of_lt hfew hcount) hsize
  · intro member hmem
    rw [nameBytes, Bytes.length_toList]
    exact hlengths member hmem
  · exact fun member hmem => Nat.lt_succ_of_le (hpacked.sizes member hmem)

/-! ### Bytes that are missing -/

/-- An archive that has been cut short does not open, if the signature of an end record stands in it
at the true one only. -/
theorem exists_directory_extract_eq_error {bytes : ByteArray} {length : Nat}
    (honly : ∀ place, Bytes.StandsAt bytes endSignature place → place + 22 = bytes.size)
    (hlength : length < bytes.size) : ∃ e, directory (bytes.extract 0 length) = .error e := by
  refine exists_directory_eq_error fun place hstands => ?_
  have hplace := honly place (Bytes.standsAt_of_extract hstands)
  refine ⟨_, readEndRecord_of_cutShort ?_⟩
  rw [ByteArray.size_extract]
  omega

/-! ### Bytes that follow -/

/-- The end record ends with two zeros, the length of a comment that is not there. -/
theorem standsAt_zeros_of_endRecord {bytes : ByteArray} {count size offset position : Nat}
    (h : Bytes.StandsAt bytes (endRecord count size offset) position) :
    Bytes.StandsAt bytes [0, 0] (position + 20) := by
  have hsplit : endRecord count size offset =
      (endSignature ++ Bytes.fields
        [(2, 0), (2, 0), (2, count), (2, count), (4, size), (4, offset)]) ++ [0, 0] := by
    rw [endRecord, List.append_assoc]
    rfl
  rw [hsplit, Bytes.standsAt_append, List.length_append, Bytes.length_fields] at h
  exact h.2

/-- Behind two zeros, no signature of an end record starts in front of the end and goes on in the
bytes that follow. -/
theorem not_standsAt_across {bytes behind : ByteArray} {position place : Nat}
    (hzeros : Bytes.StandsAt bytes [0, 0] position) (hsize : bytes.size = position + 2)
    (hfront : place < bytes.size) (hacross : bytes.size < place + 4) :
    ¬Bytes.StandsAt (bytes ++ behind) endSignature place := by
  intro hstands
  have hkept := hzeros.append behind
  simp only [endSignature, Bytes.standsAt_cons] at hstands hkept
  obtain ⟨hfirst, hsecond, -⟩ := hstands
  obtain ⟨hzero, hzero', -⟩ := hkept
  -- the last byte in front of the end and the one before it are no part of the signature
  have hplace : place + 1 = position ∨ place = position ∨ place = position + 1 := by omega
  rcases hplace with rfl | rfl | rfl
  · rw [hzero] at hsecond; cases hsecond
  · rw [hzero] at hfirst; cases hfirst
  · rw [hzero'] at hfirst; cases hfirst

/-- An archive with bytes behind it is indexed as before, if the signature of an end record stands
in the archive at the true one only, and nowhere in the bytes behind. -/
theorem indexed_encode_append {members : List Member} {behind : ByteArray}
    (honly : ∀ place, Bytes.StandsAt (encode members) endSignature place →
      place = endPosition members)
    (hbehind : ∀ place, ¬Bytes.StandsAt behind endSignature place) :
    Indexed (encode members ++ behind) members where
  directory := (directory_encode members).append behind
  endRecord := (endRecord_encode members).append behind
  later := by
    intro place hplace _ hstands
    have hsize := size_encode members
    exfalso
    by_cases hfront : place < (encode members).size
    · by_cases hinside : place + 4 ≤ (encode members).size
      · have := honly place (Bytes.standsAt_of_append hinside hstands)
        omega
      · exact not_standsAt_across (standsAt_zeros_of_endRecord (endRecord_encode members))
          hsize hfront (by omega) hstands
    · exact hbehind _ (Bytes.standsAt_of_append_of_le (by omega) hstands)

end Archive

open Archive

/-- **Truncation is refused, trailing bytes are not seen.** Take what a write left at a path where a
file can be made, with or without failure and whatever the sources, with names, a count and a size
for which the fields have room, and let the signature of an end record stand in it at the start of
the true one only. Then its first bytes, however few are missing, are refused with the same format
error for the listing and for every name. With bytes behind it in which no such signature stands, it
is listed, and answers every name, exactly as by itself. -/
theorem buildArchive_boundary {fs opened : FileSystem} {archive : String} {target : Location}
    {entries : List Entry} {compression : Compression} {bytes : ByteArray}
    (hopen : fs.openForWriting archive = .ok (.file target, opened))
    (hcount : entries.length < 65535)
    (hlengths : ∀ member ∈ (addEntries opened archive target compression [] entries).members,
      member.name.toUTF8.size ≤ 65535)
    (hbytes : (buildArchive fs archive entries compression).files.contentOf archive = .ok bytes)
    (hsize : bytes.size < 2 ^ 32 - 1)
    (honly : ∀ place, Bytes.StandsAt bytes endSignature place → place + 22 = bytes.size) :
    let files := (buildArchive fs archive entries compression).files
    Bytes.StandsAt bytes endSignature (bytes.size - 22) ∧
      (∃ infos, listEntries files archive = .ok infos) ∧
      (∀ (cut : FileSystem) (path : String) (length : Nat), length < bytes.size →
        cut.contentOf path = .ok (bytes.extract 0 length) →
        ∃ e, listEntries cut path = .error (.format path e) ∧
          ∀ name, readEntry cut path name = .error (.format path e)) ∧
      ∀ (continued : FileSystem) (behind : ByteArray),
        (∀ place, ¬Bytes.StandsAt behind endSignature place) →
        continued.contentOf archive = .ok (bytes ++ behind) →
        listEntries continued archive = listEntries files archive ∧
          ∀ name, readEntry continued archive name = readEntry files archive name := by
  intro files
  generalize hmembers : (addEntries opened archive target compression [] entries).members = members
    at hlengths
  have himage : (buildArchive fs archive entries compression).files.contentOf archive = _ :=
    contentOf_buildArchive hopen
  rw [hmembers] at himage
  obtain rfl : bytes = encode members := Except.ok.inj (hbytes.symm.trans himage)
  have hholdable := holdable_addEntries hmembers hcount hlengths hsize
  have hend := size_encode members
  have hlist : listEntries files archive = .ok (members.map Member.info) :=
    (listEntries_of_contentOf himage).trans
      (infosOfEntries_of_headersStand archive hholdable (indexed_encode members)
        (headersStand_encode members))
  refine ⟨?_, ⟨_, hlist⟩, ?_, ?_⟩
  · rw [hend]
    exact (standsAt_endRecord (endRecord_encode members)).1
  · intro cut path length hlength hcut
    obtain ⟨e, hdirectory⟩ := exists_directory_extract_eq_error honly hlength
    refine ⟨e, ?_, fun name => ?_⟩
    · rw [listEntries_of_contentOf hcut, infosOfEntries, hdirectory]
    · rw [readEntry_of_contentOf hcut, contentOfEntry, hdirectory]
  · intro continued behind hbehind hcontinued
    have hindexed : Indexed (encode members ++ behind) members := by
      refine indexed_encode_append (fun place hstands => ?_) hbehind
      have := honly place hstands
      omega
    have hstands := (localPart_encode members).append behind
    refine ⟨?_, fun name => ?_⟩
    · rw [hlist, listEntries_of_contentOf hcontinued]
      exact infosOfEntries_of_headersStand archive hholdable hindexed
        (headersStand_of_standsAt hstands)
    · rw [readEntry_of_contentOf hcontinued, readEntry_of_contentOf himage]
      exact contentOfEntry_eq_encode archive name hholdable hindexed hstands

/-! ### A write that failed

The last of three sources is missing. What follows the archive is the end of a signature and the
start of another one, and the last byte of the archive is cut off. -/

/-- A working directory with two of three sources. -/
def Archive.partedFiles : FileSystem where
  workingDirectory := ["w"]
  objects := [(["a", "w"], .file ⟨#[1, 2, 3, 1, 2, 3]⟩), (["b", "w"], .file ⟨#[9, 8, 7]⟩)]

/-- The entries to be packed. -/
def Archive.partedEntries : List Entry :=
  [⟨"b", "x"⟩, ⟨"a", "é"⟩, ⟨"c", "y"⟩]

/-- The archive that is left. -/
def Archive.partedImage : ByteArray :=
  encode (membersOf .stored [("x", ⟨#[9, 8, 7]⟩), ("é", ⟨#[1, 2, 3, 1, 2, 3]⟩)])

/-- Bytes that follow the archive. -/
def Archive.partedBehind : ByteArray :=
  ⟨#[0x05, 0x06, 0x50, 0x4B, 0x05]⟩

/-- The files with other bytes for the archive. -/
def Archive.partedFilesWith (bytes : ByteArray) : FileSystem :=
  partedFiles.put ["out.zip", "w"] (.file bytes)

/-- The archive holds one signature of an end record, that of its own. -/
theorem Archive.standsAt_partedImage (place : Nat)
    (h : Bytes.StandsAt partedImage endSignature place) : place + 22 = partedImage.size := by
  have hplace := h.le_size (by decide)
  have hall : ∀ place < partedImage.size, Bytes.hasAt partedImage endSignature place = true →
      place + 22 = partedImage.size := by decide +kernel
  exact hall place (by simp only [endSignature, List.length] at hplace; omega)
    (Bytes.hasAt_eq_true_iff.2 h)

/-- The bytes that follow hold the starts and ends of signatures, and none in whole. -/
theorem Archive.not_standsAt_partedBehind (place : Nat) :
    ¬Bytes.StandsAt partedBehind endSignature place := by
  intro h
  have hplace : place + 4 ≤ 5 := h.le_size (by decide)
  have hall : ∀ place < 2, Bytes.hasAt partedBehind endSignature place = false := by decide
  have hhas := Bytes.hasAt_eq_true_iff.2 h
  rw [hall place (by omega)] at hhas
  cases hhas

/-- The archive of the failed write is listed, refused without its last byte, and read as before
when the pieces of signatures follow it. -/
theorem buildArchive_boundary_parted :
    let files := (buildArchive partedFiles "out.zip" partedEntries .stored).files
    files.contentOf "out.zip" = .ok partedImage ∧
      (∃ infos, listEntries files "out.zip" = .ok infos) ∧
      (∃ e, listEntries (partedFilesWith (partedImage.extract 0 (partedImage.size - 1))) "out.zip" =
        .error (.format "out.zip" e)) ∧
      readEntry (partedFilesWith (partedImage ++ partedBehind)) "out.zip" "é" =
        readEntry files "out.zip" "é" := by
  have hopen : partedFiles.openForWriting "out.zip" =
      .ok (.file ["out.zip", "w"], partedFilesWith ByteArray.empty) := rfl
  have hbytes : (buildArchive partedFiles "out.zip" partedEntries .stored).files.contentOf
      "out.zip" = .ok partedImage := rfl
  have hlengths : ∀ member ∈ (addEntries (partedFilesWith ByteArray.empty) "out.zip"
      ["out.zip", "w"] .stored [] partedEntries).members, member.name.toUTF8.size ≤ 65535 := by
    decide +kernel
  have hsize : partedImage.size < 2 ^ 32 - 1 := by decide +kernel
  obtain ⟨-, hlist, hcut, hcontinued⟩ := buildArchive_boundary hopen (by decide) hlengths hbytes
    hsize standsAt_partedImage
  obtain ⟨e, hrefused, -⟩ := hcut
    (partedFilesWith (partedImage.extract 0 (partedImage.size - 1))) "out.zip" _
    (by decide +kernel) rfl
  obtain ⟨-, hread⟩ := hcontinued (partedFilesWith (partedImage ++ partedBehind)) partedBehind
    not_standsAt_partedBehind rfl
  exact ⟨hbytes, hlist, ⟨e, hrefused⟩, hread "é"⟩

end FixtureKit
