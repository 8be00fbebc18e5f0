import FixtureKit.Proofs.Archive.Damage
import FixtureKit.Proofs.Fixtures.SharedFiles

/-!
# What Verification Catches

After a run, each file is in the destination twice, by itself and in the archive. Whoever changes
one of the two is caught by verification. Other bytes in a file are told by its size or by the
comparison with its entry, in this order. Other bytes in the data of a stored entry are told by
the checksum, and if that is the same by chance or by intent, by the comparison with the file;
that they may look like headers or end records makes no difference.

The artifacts are plain files here, so that writing one of them leaves the others alone.

## Main results

* `verify_of_contentOf`: verification as a row of checks on what the paths read.
* `exists_ready_of_generate`: a destination of plain files is ready for what comes after a run.
* `verify_catches_tampering`: other bytes in a file or in a stored entry do not verify.
-/

namespace FixtureKit

open Archive FileSystem

/-! ### The checks in their order -/

section Checks

variable {fs : FileSystem} {destination : String} {small large archive : ByteArray}

/-- A size that is expected passes. -/
theorem expectSize_of_eq {path : String} {size expected : Nat} (h : size = expected) :
    expectSize ⟨path, size⟩ expected = .ok () :=
  if_pos h

/-- A size that is not expected is reported with the one that is. -/
theorem expectSize_of_ne {path : String} {size expected : Nat} (h : size ≠ expected) :
    expectSize ⟨path, size⟩ expected = .error (.mismatch (.size path size expected)) :=
  if_neg h

/-- An entry that cannot be read is refused with its own error. -/
theorem expectContent_of_error {archive : String} {entry : Entry} {onDisk : ByteArray}
    {e : ArchiveError} (hdisk : fs.contentOf entry.source = .ok onDisk)
    (hread : readEntry fs archive entry.name = .error e) :
    expectContent fs archive entry = .error (.archive e) := by
  rw [expectContent, hdisk]
  simp only [hread]

/-- An entry that reads as other bytes than its file is refused. -/
theorem expectContent_of_ne {archive : String} {entry : Entry} {onDisk content : ByteArray}
    (hdisk : fs.contentOf entry.source = .ok onDisk)
    (hread : readEntry fs archive entry.name = .ok content) (hne : content ≠ onDisk) :
    expectContent fs archive entry = .error (.mismatch (.content entry.name entry.source)) := by
  rw [expectContent, hdisk]
  simp only [hread, if_neg hne]

/-- The first entry that is refused is the answer. -/
theorem expectContents_of_error {archive : String} {entry : Entry} {rest : List Entry}
    {e : FixtureError} (h : expectContent fs archive entry = .error e) :
    expectContents fs archive (entry :: rest) = .error e := by
  rw [expectContents, h]

/-- Behind an entry that passes the others are checked. -/
theorem expectContents_of_ok {archive : String} {entry : Entry} {rest : List Entry}
    (h : expectContent fs archive entry = .ok ()) :
    expectContents fs archive (entry :: rest) = expectContents fs archive rest := by
  rw [expectContents, h]

section Reading

variable (hsmall : fs.contentOf (Layout.of destination).small = .ok small)
  (hlarge : fs.contentOf (Layout.of destination).large = .ok large)
  (harchive : fs.contentOf (Layout.of destination).archive = .ok archive)

include hsmall hlarge harchive

/-- Where the three paths read something, verification is a row of checks on it. -/
theorem verify_of_contentOf :
    verify fs destination = do
      let layout := Layout.of destination
      expectSize ⟨layout.small, small.size⟩ smallSize
      expectSize ⟨layout.large, large.size⟩ largeSize
      expectEntries fs layout.archive [smallName, largeName]
      expectContents fs layout.archive layout.entries
      return ⟨⟨layout.small, small.size⟩, ⟨layout.large, large.size⟩,
        ⟨layout.archive, archive.size⟩⟩ := by
  rw [verify, report_of_contentOf hsmall hlarge harchive]
  rfl

/-- The size of the small file is looked at first. -/
theorem verify_of_small_size_ne (hsize : small.size ≠ smallSize) :
    verify fs destination =
      .error (.mismatch (.size (Layout.of destination).small small.size smallSize)) := by
  rw [verify_of_contentOf hsmall hlarge harchive]
  simp only [expectSize_of_ne hsize, bind, Except.bind]

/-- The size of the large file is looked at next. -/
theorem verify_of_large_size_ne (hsmallSize : small.size = smallSize)
    (hsize : large.size ≠ largeSize) :
    verify fs destination =
      .error (.mismatch (.size (Layout.of destination).large large.size largeSize)) := by
  rw [verify_of_contentOf hsmall hlarge harchive]
  simp only [expectSize_of_eq hsmallSize, expectSize_of_ne hsize, bind, Except.bind]

/-- When sizes and names are right, the first entry that is refused is the answer. -/
theorem verify_of_expectContents_error (hsmallSize : small.size = smallSize)
    (hlargeSize : large.size = largeSize)
    (hentries : expectEntries fs (Layout.of destination).archive [smallName, largeName] = .ok ())
    {e : FixtureError}
    (hcontents : expectContents fs (Layout.of destination).archive
      (Layout.of destination).entries = .error e) :
    verify fs destination = .error e := by
  rw [verify_of_contentOf hsmall hlarge harchive]
  simp only [expectSize_of_eq hsmallSize, expectSize_of_eq hlargeSize, hentries, hcontents, bind,
    Except.bind]

end Reading

end Checks

/-! ### Other bytes in a file -/

section Files

variable {run : Run} {fs : FileSystem} {destination : String} {content : ByteArray}

/-- An archive that delivers the two files lists the two names. -/
theorem expectEntries_of_delivers {path : String} (h : Delivers fs path run.contents) :
    expectEntries fs path [smallName, largeName] = .ok () :=
  expectEntries_eq_ok_iff.2 ⟨_, h.list, rfl⟩

/-- Other bytes in the small file do not verify. -/
theorem verify_of_small_ne (hsmall : fs.contentOf (Layout.of destination).small = .ok content)
    (hlarge : fs.contentOf (Layout.of destination).large = .ok run.largeDrawn.1)
    (harchive : fs.contentOf (Layout.of destination).archive = .ok run.image)
    (hne : content ≠ run.smallDrawn.1) :
    verify fs destination =
      .error (.mismatch (if content.size = smallSize then
        .content smallName (Layout.of destination).small
      else .size (Layout.of destination).small content.size smallSize)) := by
  by_cases hsize : content.size = smallSize
  · have hdelivers := delivers_of_holdable run.holdable_contents harchive
    have hread := hdelivers.read smallName run.smallDrawn.1 (by simp [Run.contents])
    rw [if_pos hsize]
    exact verify_of_expectContents_error hsmall hlarge harchive hsize run.size_largeDrawn
      (expectEntries_of_delivers hdelivers)
      (expectContents_of_error (expectContent_of_ne hsmall hread hne.symm))
  · rw [if_neg hsize]
    exact verify_of_small_size_ne hsmall hlarge harchive hsize

/-- Other bytes in the large file do not verify. -/
theorem verify_of_large_ne
    (hsmall : fs.contentOf (Layout.of destination).small = .ok run.smallDrawn.1)
    (hlarge : fs.contentOf (Layout.of destination).large = .ok content)
    (harchive : fs.contentOf (Layout.of destination).archive = .ok run.image)
    (hne : content ≠ run.largeDrawn.1) :
    verify fs destination =
      .error (.mismatch (if content.size = largeSize then
        .content largeName (Layout.of destination).large
      else .size (Layout.of destination).large content.size largeSize)) := by
  by_cases hsize : content.size = largeSize
  · have hdelivers := delivers_of_holdable run.holdable_contents harchive
    have hreadSmall := hdelivers.read smallName run.smallDrawn.1 (by simp [Run.contents])
    have hread := hdelivers.read largeName run.largeDrawn.1 (by simp [Run.contents])
    have hfirst : expectContent fs (Layout.of destination).archive
        ⟨(Layout.of destination).small, smallName⟩ = .ok () :=
      expectContent_eq_ok_iff.2 ⟨_, hsmall, hreadSmall⟩
    rw [if_pos hsize]
    refine verify_of_expectContents_error hsmall hlarge harchive run.size_smallDrawn hsize
      (expectEntries_of_delivers hdelivers) ?_
    rw [Layout.entries, expectContents_of_ok hfirst]
    exact expectContents_of_error (expectContent_of_ne hlarge hread hne.symm)
  · rw [if_neg hsize]
    exact verify_of_large_size_ne hsmall hlarge harchive run.size_smallDrawn hsize

end Files

/-! ### Other bytes in the data of an entry -/

section Data

variable {fs : FileSystem} {archive source : String} {before after : List (String × ByteArray)}
  {name : String} {content new : ByteArray} {start : Nat}
  (hholdable : Holdable (membersOf .stored (before ++ (name, content) :: after)))
  (hstart : start = (localPart (membersOf .stored before)).size +
    (memberOf name .stored content).localHeader.length)
  (harchive : fs.contentOf archive = .ok (Bytes.replaced
    (encode (membersOf .stored (before ++ (name, content) :: after))) start new))
  (hsize : new.size = content.size)

include hholdable hstart harchive hsize

/-- Other bytes in the data of a stored entry do not change the names that are listed. -/
theorem expectEntries_of_replaced :
    expectEntries fs archive ((before ++ (name, content) :: after).map Prod.fst) = .ok () := by
  obtain ⟨hover, -⟩ := overwritten_replaced_stored after hstart hsize
  have hinfos := infosOfEntries_of_overwritten hholdable hstart hover archive
  refine expectEntries_eq_ok_iff.2 ⟨_, (listEntries_of_contentOf harchive).trans hinfos, ?_⟩
  rw [List.map_map]
  rfl

/-- Another entry than the one with other bytes is still that of its file. -/
theorem expectContent_of_replaced_of_mem {entry : Entry} {other : ByteArray}
    (hdisk : fs.contentOf entry.source = .ok other)
    (hmem : (entry.name, other) ∈ before ++ after) : expectContent fs archive entry = .ok () := by
  obtain ⟨hover, -⟩ := overwritten_replaced_stored after hstart hsize
  have hread : readEntry fs archive entry.name = .ok other :=
    (readEntry_of_contentOf harchive entry.name).trans
      (contentOfEntry_of_overwritten_of_mem hholdable hstart hover archive hmem)
  exact expectContent_eq_ok_iff.2 ⟨other, hdisk, hread⟩

/-- The entry with other bytes is refused for its checksum, or if that is the same, for its
content. -/
theorem expectContent_of_replaced (hdisk : fs.contentOf source = .ok content)
    (hne : new ≠ content) :
    expectContent fs archive ⟨source, name⟩ =
      .error (if crc32 new = crc32 content then .mismatch (.content name source)
        else .archive (.file archive .wrongChecksum)) := by
  obtain ⟨hover, hslice⟩ := overwritten_replaced_stored after hstart hsize
  have hread : readEntry fs archive name =
      if crc32 new = crc32 content then .ok new else .error (.file archive .wrongChecksum) := by
    rw [readEntry_of_contentOf harchive]
    simp only [contentOfEntry_of_overwritten hholdable hstart hover, hslice]
  by_cases hsame : crc32 new = crc32 content
  · rw [if_pos hsame] at hread ⊢
    exact expectContent_of_ne hdisk hread hne
  · rw [if_neg hsame] at hread ⊢
    exact expectContent_of_error hdisk hread

end Data

section Archives

variable {run : Run} {fs : FileSystem} {destination : String} {new : ByteArray}

/-- The first entry of a run, with the other one behind it. -/
theorem Run.contents_eq_small (run : Run) :
    run.contents = [] ++ (smallName, run.smallDrawn.1) :: [(largeName, run.largeDrawn.1)] := rfl

/-- The second entry of a run, with the other one in front of it. -/
theorem Run.contents_eq_large (run : Run) :
    run.contents = [(smallName, run.smallDrawn.1)] ++ (largeName, run.largeDrawn.1) :: [] := rfl

/-- The small file is the first in a stored archive. -/
theorem Run.smallStart_eq (run : Run) :
    35 = (localPart (membersOf .stored [])).size +
      (memberOf smallName .stored run.smallDrawn.1).localHeader.length := by
  have hname : (nameBytes smallName).length = 5 := by decide
  rw [length_localHeader, memberOf, hname]
  rfl

/-- The large file is behind it. -/
theorem Run.largeStart_eq (run : Run) :
    78 = (localPart (membersOf .stored [(smallName, run.smallDrawn.1)])).size +
      (memberOf largeName .stored run.largeDrawn.1).localHeader.length := by
  have hsmallName : smallName.toUTF8.size = 5 := by decide
  have hlargeName : (nameBytes largeName).length = 5 := by decide
  rw [size_localPart_membersOf_stored, length_localHeader]
  simp only [List.map_cons, List.map_nil, List.sum_cons, List.sum_nil, memberOf, hsmallName,
    hlargeName, run.size_smallDrawn, smallSize, Nat.reduceAdd]

variable (hcompression : run.compression = .stored)
  (hsmall : fs.contentOf (Layout.of destination).small = .ok run.smallDrawn.1)
  (hlarge : fs.contentOf (Layout.of destination).large = .ok run.largeDrawn.1)

include hcompression

/-- The small file is at its place in the archive. -/
theorem Run.slice_image_small : Bytes.slice run.image 35 smallSize = run.smallDrawn.1 := by
  rw [Run.image, hcompression, run.contents_eq_small, ← run.size_smallDrawn]
  exact slice_encode_stored run.smallStart_eq

/-- The large file is at its place in the archive. -/
theorem Run.slice_image_large : Bytes.slice run.image 78 largeSize = run.largeDrawn.1 := by
  rw [Run.image, hcompression, run.contents_eq_large, ← run.size_largeDrawn]
  exact slice_encode_stored run.largeStart_eq

include hsmall hlarge

/-- Other bytes in the data of the first entry do not verify. -/
theorem verify_of_small_replaced
    (harchive : fs.contentOf (Layout.of destination).archive =
      .ok (Bytes.replaced run.image 35 new))
    (hsize : new.size = smallSize) (hne : new ≠ run.smallDrawn.1) :
    verify fs destination =
      .error (if crc32 new = crc32 run.smallDrawn.1 then
        .mismatch (.content smallName (Layout.of destination).small)
      else .archive (.file (Layout.of destination).archive .wrongChecksum)) := by
  have hholdable := run.holdable_contents
  have harchive' := harchive
  rw [Run.image, hcompression, run.contents_eq_small] at harchive'
  rw [hcompression, run.contents_eq_small] at hholdable
  have hsame := hsize.trans run.size_smallDrawn.symm
  refine verify_of_expectContents_error hsmall hlarge harchive run.size_smallDrawn
    run.size_largeDrawn ?_ ?_
  · exact expectEntries_of_replaced hholdable run.smallStart_eq harchive' hsame
  · exact expectContents_of_error
      (expectContent_of_replaced hholdable run.smallStart_eq harchive' hsame hsmall hne)

/-- Other bytes in the data of the second entry do not verify. -/
theorem verify_of_large_replaced
    (harchive : fs.contentOf (Layout.of destination).archive =
      .ok (Bytes.replaced run.image 78 new))
    (hsize : new.size = largeSize) (hne : new ≠ run.largeDrawn.1) :
    verify fs destination =
      .error (if crc32 new = crc32 run.largeDrawn.1 then
        .mismatch (.content largeName (Layout.of destination).large)
      else .archive (.file (Layout.of destination).archive .wrongChecksum)) := by
  have hholdable := run.holdable_contents
  have harchive' := harchive
  rw [Run.image, hcompression, run.contents_eq_large] at harchive'
  rw [hcompression, run.contents_eq_large] at hholdable
  have hsame := hsize.trans run.size_largeDrawn.symm
  refine verify_of_expectContents_error hsmall hlarge harchive run.size_smallDrawn
    run.size_largeDrawn ?_ ?_
  · exact expectEntries_of_replaced hholdable run.largeStart_eq harchive' hsame
  · have hfirst : expectContent fs (Layout.of destination).archive
        ⟨(Layout.of destination).small, smallName⟩ = .ok () :=
      expectContent_of_replaced_of_mem hholdable run.largeStart_eq harchive' hsame hsmall (by simp)
    rw [Layout.entries, expectContents_of_ok hfirst]
    exact expectContents_of_error
      (expectContent_of_replaced hholdable run.largeStart_eq harchive' hsame hlarge hne)

end Archives

/-! ### After a run -/

section AfterRun

variable {run : Run} {fs files : FileSystem} {destination : String} {report : Report}

/-- What is a plain file after a run, or missing, was so before. -/
theorem plain_of_generate {text : String} (h : run.generate fs destination = (.ok report, files))
    (hplain : files.Plain text) : (ensureDirectory fs destination).2.Plain text := by
  obtain ⟨small, large, archive, hopens, -, rfl, -⟩ := exists_opens_of_generate h
  obtain ⟨hsmall, hlarge, harchive⟩ := hopens.fillable
  rw [hopens.files_packedAt] at hplain
  exact ((hplain.of_put harchive).of_put hlarge).of_put hsmall

/-- A destination of plain files is ready for what comes after a run, and holds what the run has
made. -/
theorem exists_ready_of_generate (h : run.generate fs destination = (.ok report, files))
    (hplain : ∀ name ∈ artifactNames, files.Plain (Path.join destination name)) :
    ∃ location, Ready files destination location ∧ Holds files destination location run ∧
      report = run.report destination := by
  obtain ⟨made, small, large, hdirectory, -, -⟩ :=
    exists_openForWriting_of_generate (congrArg Prod.fst h)
  have hbefore : ∀ name ∈ artifactNames, made.Plain (Path.join destination name) := by
    intro name hname
    have hmade := plain_of_generate h (hplain name hname)
    rwa [hdirectory] at hmade
  obtain ⟨location, hready⟩ := exists_ready_of_plain hdirectory hbefore
  have hgenerate := generate_of_ready hdirectory hready run
  rw [h] at hgenerate
  cases hgenerate
  exact ⟨location, hready.packedTo run, hready.holds run, rfl⟩

end AfterRun

/-- **Verification catches one-sided tampering.** After a run without failure into a destination of
plain files, the fixtures verify. Once other bytes have been written to one of the two files, they
do not: the answer is the size if that is another one, and otherwise the entry that differs. In a
stored archive the two files are entries at fixed places. Once as many other bytes have been written
to one of these places, the fixtures do not verify either: the answer is the checksum, and if that
is the same, the entry that differs. -/
theorem verify_catches_tampering {run : Run} {fs files : FileSystem} {destination : String}
    {report : Report} (h : run.generate fs destination = (.ok report, files))
    (hplain : ∀ name ∈ ["small", "large", "test.zip"],
      files.Plain (Path.join destination name)) :
    let small := Path.join destination "small"
    let large := Path.join destination "large"
    let archive := Path.join destination "test.zip"
    verify files destination = .ok report ∧
      files.contentOf small = .ok run.smallDrawn.1 ∧
      files.contentOf large = .ok run.largeDrawn.1 ∧
      files.contentOf archive = .ok run.image ∧
      (∀ content, content ≠ run.smallDrawn.1 →
        ∃ changed, files.writeFile small content = (.ok (), changed) ∧
          verify changed destination = .error (.mismatch
            (if content.size = 8 then .content "small" small
              else .size small content.size 8))) ∧
      (∀ content, content ≠ run.largeDrawn.1 →
        ∃ changed, files.writeFile large content = (.ok (), changed) ∧
          verify changed destination = .error (.mismatch
            (if content.size = 10485760 then .content "large" large
              else .size large content.size 10485760))) ∧
      (run.compression = .stored →
        (Bytes.slice run.image 35 8 = run.smallDrawn.1 ∧
          ∀ data : ByteArray, data.size = 8 → data ≠ run.smallDrawn.1 →
            ∃ changed,
              files.writeFile archive (Bytes.replaced run.image 35 data) = (.ok (), changed) ∧
              verify changed destination =
                .error (if crc32 data = crc32 run.smallDrawn.1 then
                  .mismatch (.content "small" small)
                else .archive (.file archive .wrongChecksum))) ∧
        Bytes.slice run.image 78 10485760 = run.largeDrawn.1 ∧
          ∀ data : ByteArray, data.size = 10485760 → data ≠ run.largeDrawn.1 →
            ∃ changed,
              files.writeFile archive (Bytes.replaced run.image 78 data) = (.ok (), changed) ∧
              verify changed destination =
                .error (if crc32 data = crc32 run.largeDrawn.1 then
                  .mismatch (.content "large" large)
                else .archive (.file archive .wrongChecksum))) := by
  intro small large archive
  obtain ⟨location, hready, hholds, rfl⟩ := exists_ready_of_generate h hplain
  have hkept := hholds.kept
  -- each of the three files can be written anew, and the others read as before
  have hwriteSmall (content : ByteArray) := hready.writeFile smallName_mem content
  have hwriteLarge (content : ByteArray) := hready.writeFile largeName_mem content
  have hwriteArchive (content : ByteArray) := hready.writeFile archiveName_mem content
  have hself {name : String} (hname : name ∈ artifactNames) (content : ByteArray) :=
    contentOf_of_openForReading (hready.openForReading_put hname content)
  have hother {name other : String} {object : ByteArray} (hname : name ∈ artifactNames)
      (hne : other ≠ name) (content : ByteArray)
      (hread : files.openForReading (Path.join destination other) =
        .ok (other :: location, .file object)) :=
    contentOf_of_openForReading (hready.openForReading_put_of_ne hname hne content hread)
  refine ⟨hkept.verify, hkept.small, hkept.large, hkept.archive, ?_, ?_, ?_⟩
  · intro content hne
    exact ⟨_, hwriteSmall content, verify_of_small_ne (hself smallName_mem content)
      (hother smallName_mem (by decide) content hholds.large)
      (hother smallName_mem (by decide) content hholds.archive) hne⟩
  · intro content hne
    exact ⟨_, hwriteLarge content, verify_of_large_ne
      (hother largeName_mem (by decide) content hholds.small) (hself largeName_mem content)
      (hother largeName_mem (by decide) content hholds.archive) hne⟩
  · intro hstored
    refine ⟨⟨run.slice_image_small hstored, ?_⟩, run.slice_image_large hstored, ?_⟩
    · intro data hsize hne
      exact ⟨_, hwriteArchive _, verify_of_small_replaced hstored
        (hother archiveName_mem (by decide) _ hholds.small)
        (hother archiveName_mem (by decide) _ hholds.large) (hself archiveName_mem _) hsize hne⟩
    · intro data hsize hne
      exact ⟨_, hwriteArchive _, verify_of_large_replaced hstored
        (hother archiveName_mem (by decide) _ hholds.small)
        (hother archiveName_mem (by decide) _ hholds.large) (hself archiveName_mem _) hsize hne⟩

/-! ### Bytes that look like an end record

A file is replaced by a shorter one, and the data of the small entry by the start of an end
record. -/

/-- The shorter file is caught by its size, and the start of an end record inside of the archive by
an error. -/
theorem verify_catches_tampering_stale :
    let run := constantRun 80 .stored
    let forged : ByteArray := ⟨#[0x50, 0x4B, 0x05, 0x06, 0, 0, 0, 0]⟩
    ∃ files, run.generate staleFiles "out/" = (.ok (run.report "out/"), files) ∧
      (∀ name ∈ ["small", "large", "test.zip"], files.Plain (Path.join "out/" name)) ∧
      (∃ changed, files.writeFile "out/small" ⟨#[1, 2, 3]⟩ = (.ok (), changed) ∧
        verify changed "out/" = .error (.mismatch (.size "out/small" 3 8))) ∧
      ∃ changed e,
        files.writeFile "out/test.zip" (Bytes.replaced run.image 35 forged) = (.ok (), changed) ∧
          verify changed "out/" = .error e := by
  intro run forged
  have hdirectory : ensureDirectory staleFiles "out/" = (.ok (), staleFiles) := rfl
  obtain ⟨location, hready⟩ := exists_ready_of_plain hdirectory plain_staleFiles
  have hgenerate := generate_of_ready hdirectory hready run
  have hplain : ∀ name ∈ ["small", "large", "test.zip"],
      (run.packedTo staleFiles location).Plain (Path.join "out/" name) :=
    fun name hname => ((hready.packedTo run).reaches name hname).plain
  have hdrawn : run.smallDrawn.1 = ⟨#[80, 80, 80, 80, 80, 80, 80, 80]⟩ := by decide
  obtain ⟨-, -, -, -, hsmall, -, harchive⟩ := verify_catches_tampering hgenerate hplain
  obtain ⟨⟨-, hdata⟩, -⟩ := harchive rfl
  obtain ⟨changed, hwrite, hrefused⟩ := hsmall ⟨#[1, 2, 3]⟩ (by rw [hdrawn]; decide)
  obtain ⟨forgery, hforge, hcaught⟩ := hdata forged rfl (by rw [hdrawn]; decide)
  exact ⟨_, hgenerate, hplain, ⟨changed, hwrite, hrefused⟩, forgery, _, hforge, hcaught⟩

end FixtureKit
