import FixtureKit.Proofs.Archive.Headers
import FixtureKit.Proofs.Archive.OwnContent
import FixtureKit.Proofs.Archive.Packing
import FixtureKit.Proofs.Archive.Sizes
import FixtureKit.Proofs.FileSystem.Denoting
import Mathlib.Algebra.Order.BigOperators.Group.List
import Mathlib.Algebra.Order.Group.Nat

/-!
# Archives That Hold Themselves

An archive may list itself among its sources. When its turn comes, the entries in front of it and
its own local header have been flushed, and that is what the archive finds in itself, if nothing of
its own data gets past the buffer while it is read. Then all is well: the archive is built, and the
entry holds exactly what had been flushed. Otherwise the archive reads on into its own data, and it
holds some of that too, or there is no end to it and the write fails.

Nothing is asked of the encoder but its laws, so the results hold whenever it hands on its output.

## Main results

* `addEntries_of_own`, `addEntries_of_overfed`: the two ways in which the entry itself is packed.
* `buildArchive_of_held`, `buildArchive_of_overfed`: what becomes of the archive in either case.
* `buildArchive_of_itself`: when an archive that lists itself can be built, and what it holds then.
* `buildArchive_of_itself_alone`: what becomes of one that holds nothing else and overtakes itself.
-/

namespace FixtureKit

namespace Archive

/-! ### The entry itself -/

section Adding

variable [Deflate.Encoder] {fs : FileSystem} {path : String} {target : Location}
  {compression : Compression} {contents : List (String × ByteArray)} {own : Entry}
  {bytes held : ByteArray}

/-- What is copied of the archive is what it finds in itself. -/
theorem sourceContent_target (members : List Member) (fresh : Member) :
    sourceContent target compression members fresh (target, .file bytes) =
      ownContent compression (localPart (members ++ [fresh])) := by
  rw [sourceContent, if_pos rfl]

/-- An archive is added to itself with what it finds in itself. -/
theorem addEntries_of_own (rest : List Entry)
    (hopen : fs.openForReading own.source = .ok (target, .file bytes))
    (hname : own.name ∉ (membersOf compression contents).map Member.name)
    (hheld : ownContent compression (flushedPart compression contents own.name) = .ok held) :
    addEntries fs path target compression (membersOf compression contents) (own :: rest) =
      let packing := addEntries fs path target compression
        (membersOf compression contents ++ [memberOf own.name compression held]) rest
      { packing with added := (own, held.size) :: packing.added } :=
  addEntries_of_copied rest hopen hname ((sourceContent_target _ _).trans hheld)

/-- An archive that does not come to an end of itself is not added, and nothing behind it. -/
theorem addEntries_of_overfed (rest : List Entry)
    (hopen : fs.openForReading own.source = .ok (target, .file bytes))
    (hname : own.name ∉ (membersOf compression contents).map Member.name)
    (hoverfed : ownContent compression (flushedPart compression contents own.name) =
      .error .entryTooLarge) :
    addEntries fs path target compression (membersOf compression contents) (own :: rest) =
      ⟨membersOf compression contents, [], some (.file own.source .entryTooLarge)⟩ :=
  addEntries_of_not_copied rest hopen hname ((sourceContent_target _ _).trans hoverfed)

end Adding

/-! ### The archive -/

section Building

variable {fs opened : FileSystem} {archive : String} {target : Location} {before after : List Entry}
  {own : Entry} {compression : Compression} {content : Entry → ByteArray} {held : ByteArray}

/-- What has been flushed of an archive, behind some of its entries, when it comes to its own. -/
def flushedOf [Deflate.Encoder] (compression : Compression) (content : Entry → ByteArray)
    (before : List Entry) (own : Entry) : ByteArray :=
  flushedPart compression (namedContents content before) own.name

/-- The name of the entry itself ends what has been flushed. -/
theorem standsAt_name_flushedOf [Deflate.Encoder] (compression : Compression)
    (content : Entry → ByteArray) (before : List Entry) (own : Entry) :
    Bytes.StandsAt (flushedOf compression content before own) (nameBytes own.name)
      ((localPart (membersOf compression (namedContents content before))).size + 30) := by
  have hdata : (openMember own.name compression).data = ByteArray.empty := rfl
  have hheader : Bytes.StandsAt (flushedOf compression content before own)
      (openMember own.name compression).localHeader
      (localPart (membersOf compression (namedContents content before))).size := by
    have hbytes : (flushedOf compression content before own).data.toList =
        (localPart (membersOf compression (namedContents content before))).data.toList ++
          ((openMember own.name compression).localHeader ++ []) := by
      rw [flushedOf, flushedPart, localPart_append, localPart_cons, Member.block, hdata,
        localPart_nil, ByteArray.append_empty, ByteArray.append_empty,
        ByteArray.toList_data_append, List.toList_data_toByteArray, List.append_nil]
    exact Bytes.standsAt_of_eq hbytes (Bytes.length_toList _).symm
  exact standsAt_localName hheader

/-- The contents of an archive that holds some bytes as its own, behind some of its entries. -/
def contentsHolding (content : Entry → ByteArray) (before : List Entry) (own : Entry)
    (held : ByteArray) (after : List Entry) : List (String × ByteArray) :=
  namedContents content before ++ (own.name, held) :: namedContents content after

/-- The names in the archive are those of all its entries. -/
theorem map_fst_contentsHolding :
    (contentsHolding content before own held after).map Prod.fst =
      (before ++ own :: after).map Entry.name := by
  rw [contentsHolding, List.map_append, List.map_cons, map_fst_namedContents,
    map_fst_namedContents, List.map_append, List.map_cons]

/-- The name of the archive's own entry is not among those in front of it. -/
theorem own_name_notMem [Deflate.Encoder]
    (hnames : ((before ++ own :: after).map Entry.name).Nodup) :
    own.name ∉ (membersOf compression (namedContents content before)).map Member.name := by
  rw [List.map_append, List.map_cons, List.nodup_append] at hnames
  rw [map_name_membersOf, map_fst_namedContents]
  exact fun hmem => hnames.2.2 _ hmem _ List.mem_cons_self rfl

variable (hopen : fs.openForWriting archive = .ok (.file target, opened))

include hopen

/-- The archive itself is read as an empty file when it has been opened. -/
theorem openForReading_own (hown : fs.Denotes own.source target) :
    opened.openForReading own.source = .ok (target, .file ByteArray.empty) := by
  obtain ⟨hfill, rfl, -⟩ := FileSystem.find_of_openForWriting hopen
  exact FileSystem.openForReading_put_of_denotes hfill _ hown

variable [Deflate.Encoder] (hnames : ((before ++ own :: after).map Entry.name).Nodup)
  (hothers : ∀ entry ∈ before ++ after, ∃ location, location ≠ target ∧
    fs.openForReading entry.source = .ok (location, .file (content entry)))
  (hsizes : ∀ entry ∈ before ++ after, (content entry).size ≤ sizeLimit)

include hnames hothers hsizes

/-- The entries in front of the archive itself are added, and then it is its turn. -/
theorem addEntries_before :
    addEntries opened archive target compression [] (before ++ own :: after) =
      let packing := addEntries opened archive target compression
        (membersOf compression (namedContents content before)) (own :: after)
      { packing with
        added := before.map (fun entry => (entry, (content entry).size)) ++ packing.added } := by
  have hfront : (([] : List Member).map Member.name ++ before.map Entry.name).Nodup := by
    rw [List.map_append] at hnames
    exact (List.nodup_append.1 hnames).1
  exact addEntries_append (own :: after)
    (fun entry hmem => supplies_of_openForWriting hopen (hothers entry (by simp [hmem])))
    (fun entry hmem => hsizes entry (by simp [hmem])) hfront

variable (hown : fs.Denotes own.source target)

include hown

/-- An archive that comes to an end of itself is built, and holds what it has found. -/
theorem buildArchive_of_held
    (hheld : ownContent compression (flushedOf compression content before own) = .ok held) :
    (buildArchive fs archive (before ++ own :: after) compression).result = .ok () ∧
      (buildArchive fs archive (before ++ own :: after) compression).files =
        opened.put target (.file (encode (membersOf compression
          (contentsHolding content before own held after)))) := by
  have hbehind : ((membersOf compression (namedContents content before) ++
      [memberOf own.name compression held]).map Member.name ++ after.map Entry.name).Nodup := by
    rw [List.map_append, map_name_membersOf, map_fst_namedContents, List.append_assoc]
    rw [List.map_append] at hnames
    exact hnames
  have hafter : addEntries opened archive target compression
      (membersOf compression (namedContents content before) ++ [memberOf own.name compression held])
      (after ++ []) = _ :=
    addEntries_append []
      (fun entry hmem => supplies_of_openForWriting hopen (hothers entry (by simp [hmem])))
      (fun entry hmem => hsizes entry (by simp [hmem])) hbehind
  have hmembers : (membersOf compression (namedContents content before) ++
      [memberOf own.name compression held]) ++ membersOf compression (namedContents content after) =
      membersOf compression (contentsHolding content before own held after) := by
    rw [contentsHolding, membersOf_append_cons, List.append_assoc, List.singleton_append]
  rw [List.append_nil, hmembers] at hafter
  have hturn : addEntries opened archive target compression
      (membersOf compression (namedContents content before)) (own :: after) = _ :=
    addEntries_of_own after (openForReading_own hopen hown) (own_name_notMem hnames) hheld
  have hpacking : addEntries opened archive target compression [] (before ++ own :: after) = _ :=
    addEntries_before hopen hnames hothers hsizes
  rw [hturn] at hpacking
  simp only [hafter] at hpacking
  rw [buildArchive_eq, writeArchive_of_openForWriting hopen hpacking]
  exact ⟨rfl, rfl⟩

/-- An archive that does not come to an end of itself is not built. -/
theorem buildArchive_of_overfed
    (hoverfed : ownContent compression (flushedOf compression content before own) =
      .error .entryTooLarge) :
    (buildArchive fs archive (before ++ own :: after) compression).result =
      .error (.file own.source .entryTooLarge) := by
  have hturn : addEntries opened archive target compression
      (membersOf compression (namedContents content before)) (own :: after) = _ :=
    addEntries_of_overfed after (openForReading_own hopen hown) (own_name_notMem hnames) hoverfed
  have hpacking : addEntries opened archive target compression [] (before ++ own :: after) = _ :=
    addEntries_before hopen hnames hothers hsizes
  rw [hturn] at hpacking
  rw [buildArchive_eq, writeArchive_of_openForWriting hopen hpacking]
  rfl

end Building

/-! ### The size of the archive -/

section Size

variable {before after : List Entry} {own : Entry} {content : Entry → ByteArray}

/-- The names of contents are as long as those of the entries. -/
theorem namesSize_namedContents (content : Entry → ByteArray) (entries : List Entry) :
    namesSize (namedContents content entries) =
      (entries.map fun entry => entry.name.toUTF8.size).sum := by
  rw [namesSize, namedContents, List.map_map]
  rfl

/-- The contents are as long as those that the entries are given. -/
theorem contentsSize_namedContents (content : Entry → ByteArray) (entries : List Entry) :
    contentsSize (namedContents content entries) =
      (entries.map fun entry => (content entry).size).sum := by
  rw [contentsSize, namedContents, List.map_map]
  rfl

variable [Deflate.Encoder] [Deflate.Encoder.Lawful]

/-- What has been flushed of an archive, and the archive with that, stay below the limits of the
format when the other contents and the names are not too large. -/
theorem size_contentsHolding_flushed_lt (compression : Compression)
    (hcount : (before ++ own :: after).length < 65535)
    (htotal : ((before ++ own :: after).map fun entry => entry.name.toUTF8.size).sum +
      ((before ++ after).map fun entry => (content entry).size).sum < 2 ^ 30) :
    (flushedOf compression content before own).size < 0xFFFFFFFF ∧
      (encode (membersOf compression (contentsHolding content before own
        (flushedOf compression content before own) after))).size < 0xFFFFFFFF := by
  have hflushed : (flushedOf compression content before own).size = _ :=
    size_flushedPart compression (namedContents content before) own.name
  generalize flushedOf compression content before own = flushed at hflushed ⊢
  have hlocal := size_localPart_membersOf_le compression (namedContents content before)
  have hwhole := size_encode_membersOf_le compression
    (contentsHolding content before own flushed after)
  have hlength : (contentsHolding content before own flushed after).length =
      (before ++ own :: after).length := by
    simp [contentsHolding, namedContents]
  have hbefore : (namedContents content before).length ≤ (before ++ own :: after).length := by
    simp [namedContents]
  rw [hlength, contentsHolding, namesSize_append, namesSize_cons, contentsSize_append,
    contentsSize_cons, namesSize_namedContents, namesSize_namedContents,
    contentsSize_namedContents, contentsSize_namedContents] at hwhole
  rw [namesSize_namedContents, contentsSize_namedContents] at hlocal
  rw [List.map_append, List.map_cons, List.sum_append, List.sum_cons, List.map_append,
    List.sum_append] at htotal
  rw [contentsHolding]
  omega

end Size

end Archive

open Archive

variable {fs opened : FileSystem} {archive : String} {target : Location}

/-- An archive that holds some bytes as its own delivers its contents if it stays below the limits
of the format. -/
theorem Archive.delivers_contentsHolding [Deflate.Encoder] [Deflate.Encoder.Lawful]
    {before after : List Entry} {own : Entry} {compression : Compression}
    {content : Entry → ByteArray} {held : ByteArray}
    (hfile : fs.contentOf archive = .ok (encode (membersOf compression
      (contentsHolding content before own held after))))
    (hcount : (before ++ own :: after).length < 65535)
    (hnames : ((before ++ own :: after).map Entry.name).Nodup)
    (hlengths : ∀ entry ∈ before ++ own :: after, entry.name.toUTF8.size ≤ 65535)
    (hsmall : ∀ entry ∈ before ++ after, (content entry).size < 0xFFFFFFFF)
    (hheld : held.size < 0xFFFFFFFF)
    (hsize : (encode (membersOf compression
      (contentsHolding content before own held after))).size < 0xFFFFFFFF) :
    Delivers fs archive (contentsHolding content before own held after) := by
  refine delivers_of_contentOf hfile ?_ ?_ ?_ hsize
  · rwa [map_fst_contentsHolding]
  · simpa [contentsHolding, namedContents] using hcount
  · have hnamed : ∀ entry ∈ before ++ own :: after, (nameBytes entry.name).length ≤ 0xFFFF := by
      intro entry hmem
      rw [nameBytes, Bytes.length_toList]
      exact hlengths entry hmem
    rw [List.forall_mem_append, List.forall_mem_cons] at hnamed
    rw [List.forall_mem_append] at hsmall
    obtain ⟨hnamedBefore, hnamedOwn, hnamedAfter⟩ := hnamed
    obtain ⟨hsmallBefore, hsmallAfter⟩ := hsmall
    rw [contentsHolding, List.forall_mem_append, List.forall_mem_cons, namedContents,
      namedContents, List.forall_mem_map, List.forall_mem_map]
    exact ⟨fun entry hmem => ⟨hnamedBefore entry hmem, hsmallBefore entry hmem⟩,
      ⟨hnamedOwn, hheld⟩, fun entry hmem => ⟨hnamedAfter entry hmem, hsmallAfter entry hmem⟩⟩

/-- **An archive that lists itself**, written with any lawful encoder. If nothing of the entry's own
data has got past the buffer when all that had been flushed has been read, the archive is built, the
entry holds exactly what had been flushed, with the header of the entry itself, and the other
entries hold their sources. Otherwise the write fails because there is too much to be held, or the
entry holds what had been flushed and the start of its own compressed data behind it. Stored data
has got past the buffer as soon as what had been flushed fills it. -/
theorem buildArchive_of_itself [Deflate.Encoder] [Deflate.Encoder.Lawful]
    {before after : List Entry} {own : Entry} {compression : Compression}
    {content : Entry → ByteArray}
    (hopen : fs.openForWriting archive = .ok (.file target, opened))
    (hcount : (before ++ own :: after).length < 65535)
    (hnames : ((before ++ own :: after).map Entry.name).Nodup)
    (hlengths : ∀ entry ∈ before ++ own :: after, entry.name.toUTF8.size ≤ 65535)
    (hown : fs.Denotes own.source target)
    (hothers : ∀ entry ∈ before ++ after, ∃ location, location ≠ target ∧
      fs.openForReading entry.source = .ok (location, .file (content entry)))
    (htotal : ((before ++ own :: after).map fun entry => entry.name.toUTF8.size).sum +
      ((before ++ after).map fun entry => (content entry).size).sum < 2 ^ 30) :
    let flushed := flushedOf compression content before own
    let holding := fun held => contentsHolding content before own held after
    let written := buildArchive fs archive (before ++ own :: after) compression
    (HeldBack compression flushed →
        written.result = .ok () ∧ readEntry written.files archive own.name = .ok flushed ∧
          Delivers written.files archive (holding flushed)) ∧
      (¬HeldBack compression flushed →
        written.result = .error (.file own.source .entryTooLarge) ∨
          compression = .deflated ∧ written.result = .ok () ∧
            ∃ more rest, 0 < more.size ∧
              Deflate.Encoder.compress (flushed ++ more) = more ++ rest ∧
              let image := encode (membersOf compression (holding (flushed ++ more)))
              written.files = opened.put target (.file image) ∧
                ((flushed ++ more).size < 0xFFFFFFFF → image.size < 0xFFFFFFFF →
                  Delivers written.files archive (holding (flushed ++ more)))) ∧
      (compression = .stored →
        (HeldBack compression flushed ↔ flushed.size < Buffer.capacity)) := by
  intro flushed holding written
  have hsmall : ∀ entry ∈ before ++ after, (content entry).size < 0xFFFFFFFF := by
    intro entry hmem
    have hcontent := List.le_sum_of_mem
      (List.mem_map_of_mem (f := fun entry => (content entry).size) hmem)
    omega
  have hsizes : ∀ entry ∈ before ++ after, (content entry).size ≤ sizeLimit :=
    fun entry hmem => Nat.le_of_lt (hsmall entry hmem)
  have hread {image : ByteArray} (hfiles : written.files = opened.put target (.file image)) :
      written.files.contentOf archive = .ok image := by
    rw [hfiles]
    exact FileSystem.contentOf_of_openForReading
      (FileSystem.openForReading_of_openForWriting hopen image)
  refine ⟨fun hheld => ?_, fun hheld => ?_, ?_⟩
  · obtain ⟨hflushed, hsize⟩ := size_contentsHolding_flushed_lt compression hcount htotal
    have hfound := ownContent_of_heldBack (Nat.le_of_lt hflushed) hheld
    obtain ⟨hresult, hfiles⟩ := buildArchive_of_held hopen hnames hothers hsizes hown hfound
    have hdelivers := delivers_contentsHolding (hread hfiles) hcount hnames hlengths hsmall
      hflushed hsize
    exact ⟨hresult, hdelivers.read _ _ (List.mem_append_right _ List.mem_cons_self), hdelivers⟩
  · rcases ownContent_of_not_heldBack hheld with hoverfed | ⟨hdeflated, more, rest, hpositive,
        hfound, hstart⟩
    · exact .inl (buildArchive_of_overfed hopen hnames hothers hsizes hown hoverfed)
    · obtain ⟨hresult, hfiles⟩ := buildArchive_of_held hopen hnames hothers hsizes hown hfound
      exact .inr ⟨hdeflated, hresult, more, rest, hpositive, hstart, hfiles,
        delivers_contentsHolding (hread hfiles) hcount hnames hlengths hsmall⟩
  · rintro rfl
    exact heldBack_stored_iff

/-- An archive of nothing but itself that is not held back fails, or holds more than what had been
flushed. -/
theorem Archive.buildArchive_of_itself_alone [Deflate.Encoder] [Deflate.Encoder.Lawful]
    {own : Entry} {compression : Compression} {content : Entry → ByteArray}
    (hopen : fs.openForWriting archive = .ok (.file target, opened))
    (hown : fs.Denotes own.source target)
    (hheld : ¬HeldBack compression (flushedOf compression content [] own)) :
    (buildArchive fs archive [own] compression).result =
        .error (.file own.source .entryTooLarge) ∨
      ∃ more, 0 < more.size ∧ (buildArchive fs archive [own] compression).files =
        opened.put target (.file (encode (membersOf compression
          [(own.name, flushedOf compression content [] own ++ more)]))) := by
  have hnames : (([] ++ own :: []).map Entry.name).Nodup := List.pairwise_singleton _ _
  rcases ownContent_of_not_heldBack hheld with hoverfed | ⟨-, more, -, hpositive, hfound, -⟩
  · have hresult : (buildArchive fs archive ([] ++ own :: []) compression).result = _ :=
      buildArchive_of_overfed hopen hnames nofun nofun hown hoverfed
    rw [List.nil_append] at hresult
    exact .inl hresult
  · have hbuilt : (buildArchive fs archive ([] ++ own :: []) compression).result = .ok () ∧ _ :=
      buildArchive_of_held hopen hnames nofun nofun hown hfound
    rw [List.nil_append] at hbuilt
    exact .inr ⟨more, hpositive, hbuilt.2⟩

/-! ### A short archive and a long one

Both list themselves behind the entry of one source. The short one is compressed, and too short for
the encoder to hand anything on; the long one is stored, and more than a buffer. -/

/-- The entry of the source. -/
def Archive.plainEntry : Entry := ⟨"a", "a"⟩

/-- The entry of the archive itself. -/
def Archive.ownEntry : Entry := ⟨"x.zip", "self"⟩

/-- The place of the archive. -/
def Archive.ownPlace : Location := ["x.zip", "w"]

/-- A working directory with the source. -/
def Archive.filesWith (content : ByteArray) : FileSystem where
  workingDirectory := ["w"]
  objects := [(["a", "w"], .file content)]

/-- What is asked of that directory, whatever the source holds. -/
theorem Archive.filesWith_opens (content : ByteArray) :
    (filesWith content).openForWriting "x.zip" =
        .ok (.file ownPlace, (filesWith content).put ownPlace (.file ByteArray.empty)) ∧
      (filesWith content).Denotes ownEntry.source ownPlace ∧
      (filesWith content).openForReading plainEntry.source = .ok (["a", "w"], .file content) :=
  ⟨rfl, ⟨.vacant ["w"] "x.zip", rfl, rfl⟩, rfl⟩

/-- The sources other than the archive are the one file there is. -/
theorem Archive.filesWith_others (content : ByteArray) :
    ∀ entry ∈ [plainEntry] ++ [], ∃ location, location ≠ ownPlace ∧
      (filesWith content).openForReading entry.source =
        .ok (location, .file ((fun _ => content) entry)) := by
  obtain ⟨-, -, hread⟩ := filesWith_opens content
  rw [List.append_nil, List.forall_mem_singleton]
  exact ⟨["a", "w"], by decide, hread⟩

/-- The encoder at hand hands nothing on while it reads the short archive. -/
theorem Archive.heldBack_short :
    HeldBack .deflated (flushedOf .deflated (fun _ => ⟨#[1, 2, 3]⟩) [plainEntry] ownEntry) := by
  have hsegment : 1000 < Deflate.segmentSize := by decide
  have hplain : plainEntry.name.toUTF8.size = 1 := by decide
  have hown : ownEntry.name.toUTF8.size = 4 := by decide
  have hcontent : ByteArray.size ⟨#[1, 2, 3]⟩ = 3 := rfl
  have hlocal := size_localPart_membersOf_le .deflated
    [(plainEntry.name, ByteArray.mk #[1, 2, 3])]
  have hflushed := size_flushedPart .deflated [(plainEntry.name, ByteArray.mk #[1, 2, 3])]
    ownEntry.name
  rw [namesSize_cons, namesSize_nil, contentsSize_cons, contentsSize_nil, hplain, hcontent,
    List.length_singleton] at hlocal
  refine heldBack_deflated_of_lt ?_
  rw [flushedOf, namedContents, List.map_singleton, hflushed, hown]
  omega

/-- An archive that lists itself and is compressed holds what had been flushed of it. -/
theorem buildArchive_of_itself_short :
    let fs := filesWith ⟨#[1, 2, 3]⟩
    let flushed := flushedOf .deflated (fun _ => ⟨#[1, 2, 3]⟩) [plainEntry] ownEntry
    let written := buildArchive fs "x.zip" [plainEntry, ownEntry] .deflated
    fs.Denotes ownEntry.source ownPlace ∧ HeldBack .deflated flushed ∧ written.result = .ok () ∧
      readEntry written.files "x.zip" "self" = .ok flushed ∧
      readEntry written.files "x.zip" "a" = .ok ⟨#[1, 2, 3]⟩ := by
  intro fs flushed written
  obtain ⟨hopen, hown, -⟩ := filesWith_opens ⟨#[1, 2, 3]⟩
  have hnames : (([plainEntry] ++ ownEntry :: []).map Entry.name).Nodup := by decide
  have hall : (HeldBack .deflated flushed → (buildArchive fs "x.zip"
      ([plainEntry] ++ ownEntry :: []) .deflated).result = .ok () ∧ _) ∧ _ :=
    buildArchive_of_itself hopen (by decide) hnames (by decide) hown (filesWith_others _)
      (by decide)
  obtain ⟨hresult, hself, hdelivers⟩ := hall.1 heldBack_short
  rw [List.singleton_append] at hresult hself hdelivers
  exact ⟨hown, heldBack_short, hresult, hself, hdelivers.read "a" _ List.mem_cons_self⟩

/-- A source as large as a buffer. -/
def Archive.bufferOfZeros : ByteArray :=
  ⟨Array.replicate Buffer.capacity 0⟩

/-- It is as large as a buffer. -/
theorem Archive.size_bufferOfZeros : bufferOfZeros.size = Buffer.capacity :=
  Array.size_replicate

/-- What is flushed of the long archive fills the buffer. -/
theorem Archive.capacity_le_flushedOf_bufferOfZeros :
    Buffer.capacity ≤ (flushedOf .stored (fun _ => bufferOfZeros) [plainEntry] ownEntry).size := by
  have hsize := size_bufferOfZeros
  rw [flushedOf, size_flushedPart, size_localPart_membersOf_stored, namedContents, List.map_map,
    List.map_singleton, List.sum_singleton, Function.comp_apply]
  simp only
  omega

/-! ### A name that does not get shorter

The name is a row of numbers, each written with three digits. No four bytes of it in a row come
twice, so that an archive of nothing but itself under that name fills more than a segment which
does not get shorter. -/

/-- The digits of a number to the base of thirty-one, the highest first, each in a range of its
own. -/
def Archive.digitOf (count kind : Nat) : Nat :=
  if kind = 0 then 33 + count / 961 else if kind = 1 then 64 + count / 31 % 31 else 95 + count % 31

/-- The byte at a place in a row of numbers, each written with its three digits. -/
def Archive.digitAt (place : Nat) : Nat :=
  digitOf (place / 3) (place % 3)

/-- Such a byte is an ordinary character. -/
theorem Archive.digitAt_lt {place : Nat} (h : place < 65540) : digitAt place < 128 := by
  rw [digitAt, digitOf]
  split
  · omega
  · split <;> omega

/-- The digits of a number stand where it is written. -/
theorem Archive.digitAt_eq (count : Nat) {kind : Nat} (h : kind < 3) :
    digitAt (3 * count + kind) = digitOf count kind := by
  rw [digitAt, Nat.mul_add_div (by decide), Nat.mul_add_mod, Nat.div_eq_of_lt h,
    Nat.mod_eq_of_lt h, Nat.add_zero]

/-- A digit tells which one it is. -/
theorem Archive.kind_of_digitOf {first second kind other : Nat} (hfirst : first < 29791)
    (hsecond : second < 29791) (hkind : kind < 3) (hother : other < 3)
    (h : digitOf first kind = digitOf second other) : kind = other := by
  unfold digitOf at h
  grind

/-- The digits of a number tell it. -/
theorem Archive.eq_of_digitOf {first second : Nat}
    (h : ∀ kind < 3, digitOf first kind = digitOf second kind) : first = second := by
  have hhigh : 33 + first / 961 = 33 + second / 961 := h 0 (by decide)
  have hmiddle : 64 + first / 31 % 31 = 64 + second / 31 % 31 := h 1 (by decide)
  have hlow : 95 + first % 31 = 95 + second % 31 := h 2 (by decide)
  omega

/-- The last digit tells that of the next number. -/
theorem Archive.digitOf_succ {first second : Nat} (h : digitOf first 2 = digitOf second 2) :
    digitOf (first + 1) 2 = digitOf (second + 1) 2 := by
  change 95 + first % 31 = 95 + second % 31 at h
  change 95 + (first + 1) % 31 = 95 + (second + 1) % 31
  omega

/-- Four digits in a row tell their place: they are the digits of one number, or enough of two that
follow each other. -/
theorem Archive.eq_of_digitAt {first second : Nat} (hfirst : first < 65536)
    (hsecond : second < 65536) (h : ∀ i < 4, digitAt (first + i) = digitAt (second + i)) :
    first = second := by
  have hkind : first % 3 = second % 3 := kind_of_digitOf (by omega) (by omega)
    (Nat.mod_lt _ (by decide)) (Nat.mod_lt _ (by decide)) (h 0 (by decide))
  obtain ⟨a, kind, hlt, rfl⟩ : ∃ a kind, kind < 3 ∧ first = 3 * a + kind :=
    ⟨first / 3, first % 3, Nat.mod_lt _ (by decide), (Nat.div_add_mod first 3).symm⟩
  obtain ⟨b, rfl⟩ : ∃ b, second = 3 * b + kind := ⟨second / 3, by omega⟩
  have hdigit {i digit : Nat} (hi : i < 4) (next : Nat) (hdigit : digit < 3)
      (hplace : kind + i = 3 * next + digit) :
      digitOf (a + next) digit = digitOf (b + next) digit := by
    have hsame := h i hi
    rwa [Nat.add_assoc, Nat.add_assoc, hplace, ← Nat.add_assoc, ← Nat.add_assoc, ← Nat.mul_add,
      ← Nat.mul_add, digitAt_eq _ hdigit, digitAt_eq _ hdigit] at hsame
  obtain rfl | rfl | rfl : kind = 0 ∨ kind = 1 ∨ kind = 2 := by omega
  · have hnumber : a = b := eq_of_digitOf fun digit hlt =>
      hdigit (by omega : digit < 4) 0 hlt (by omega)
    rw [hnumber]
  · -- of the second number the last digit is missing, and the first one tells it
    have hnumber : a + 1 = b + 1 := by
      refine eq_of_digitOf fun digit hlt => ?_
      obtain rfl | hhigh : digit = 2 ∨ digit < 2 := by omega
      · exact digitOf_succ (hdigit (by decide : 1 < 4) 0 (by decide) rfl)
      · exact hdigit (by omega : digit + 2 < 4) 1 hlt (by omega)
    omega
  · have hnumber : a + 1 = b + 1 := eq_of_digitOf fun digit hlt =>
      hdigit (by omega : digit + 1 < 4) 1 hlt (by omega)
    omega

/-- The longest name there can be, made of such bytes. -/
def Archive.longName : String :=
  String.ofList ((List.range 65535).map fun place => Char.ofNat (digitAt place))

/-- An ordinary character is one byte of a name. -/
theorem Archive.utf8EncodeChar_ofNat :
    ∀ n < 128, String.utf8EncodeChar (Char.ofNat n) = [UInt8.ofNat n] := by
  decide +kernel

/-- The bytes of the name are the digits. -/
theorem Archive.nameBytes_longName :
    nameBytes longName = (List.range 65535).map fun place => UInt8.ofNat (digitAt place) := by
  rw [nameBytes, toList_toUTF8, longName, String.toList_ofList, List.flatMap_map,
    List.map_eq_flatMap]
  refine List.flatMap_congr fun place hplace => ?_
  have hinside := List.mem_range.1 hplace
  exact utf8EncodeChar_ofNat _ (digitAt_lt (by omega))

/-- It is the longest name that can be packed. -/
theorem Archive.size_longName : longName.toUTF8.size = 65535 := by
  rw [← Bytes.length_toList, ← nameBytes, nameBytes_longName, List.length_map, List.length_range]

/-- The entry of the archive itself under the long name. -/
def Archive.longOwnEntry : Entry := ⟨"x.zip", longName⟩

/-- The digits stand behind the thirty bytes of the header. -/
theorem Archive.byteAt_flushedOf_longOwnEntry (content : Entry → ByteArray) {place : Nat}
    (h : place < 65535) :
    Deflate.byteAt (flushedOf .deflated content [] longOwnEntry) (30 + place) =
      UInt8.ofNat (digitAt place) := by
  have hname := standsAt_name_flushedOf .deflated content [] longOwnEntry
  have hfront : (localPart (membersOf .deflated (namedContents content []))).size = 0 := rfl
  rw [hfront, Nat.zero_add] at hname
  refine Deflate.byteAt_of_standsAt hname ?_
  rw [longOwnEntry, nameBytes_longName, List.getElem?_map, List.getElem?_range h, Option.map_some]

/-- Behind the header nothing is repeated. -/
theorem Archive.unrepeated_longOwnEntry (content : Entry → ByteArray) :
    Deflate.Unrepeated (flushedOf .deflated content [] longOwnEntry) (1 * Deflate.segmentSize)
      ((1 + 1) * Deflate.segmentSize) := by
  have hsegment : Deflate.segmentSize = 31745 := rfl
  intro first second hfirst hsecond hstop
  obtain ⟨first, rfl⟩ : ∃ place, first = 30 + place := ⟨first - 30, by omega⟩
  obtain ⟨second, rfl⟩ : ∃ place, second = 30 + place := ⟨second - 30, by omega⟩
  by_contra hsame
  have hdigits : ∀ i < 4, digitAt (first + i) = digitAt (second + i) := by
    intro i hi
    have hfirstDigit := digitAt_lt (by omega : first + i < 65540)
    have hsecondDigit := digitAt_lt (by omega : second + i < 65540)
    have hbytes : UInt8.ofNat (digitAt (first + i)) = UInt8.ofNat (digitAt (second + i)) := by
      rw [← byteAt_flushedOf_longOwnEntry content (by omega),
        ← byteAt_flushedOf_longOwnEntry content (by omega), ← Nat.add_assoc, ← Nat.add_assoc]
      by_contra hne
      exact hsame ⟨i, hi, hne⟩
    have hnumbers := congrArg UInt8.toNat hbytes
    rwa [UInt8.toNat_ofNat_of_lt' (Nat.lt_trans hfirstDigit (by decide)),
      UInt8.toNat_ofNat_of_lt' (Nat.lt_trans hsecondDigit (by decide))] at hnumbers
  have hplaces := eq_of_digitAt (by omega) (by omega) hdigits
  omega

/-- The encoder at hand does not hold the archive back under the long name. -/
theorem Archive.not_heldBack_longOwnEntry (content : Entry → ByteArray) :
    ¬HeldBack .deflated (flushedOf .deflated content [] longOwnEntry) := by
  have hsegment : Deflate.segmentSize = 31745 := rfl
  have hcapacity : Buffer.capacity = 8192 := rfl
  have hsize := size_flushedPart .deflated (namedContents content []) longName
  have hempty : (localPart (membersOf .deflated (namedContents content []))).size = 0 := rfl
  rw [hempty, size_longName] at hsize
  refine not_heldBack_deflated ?_ (unrepeated_longOwnEntry content)
  rw [flushedOf, longOwnEntry, hsize, hsegment, hcapacity]
  decide

/-- Archives that list themselves overtake themselves, with all sources readable and everything far
from the limits of the format: stored, when what has been flushed is longer than a buffer, and
compressed, when it does not get shorter. -/
theorem buildArchive_overtakes_itself :
    let fs := filesWith bufferOfZeros
    let opened := fs.put ownPlace (.file ByteArray.empty)
    let entries := [plainEntry, ownEntry]
    let flushed := flushedOf .deflated (fun _ => bufferOfZeros) [] longOwnEntry
    let written := buildArchive fs "x.zip" [longOwnEntry] .deflated
    fs.openForWriting "x.zip" = .ok (.file ownPlace, opened) ∧
      entries.length < 65535 ∧ (entries.map Entry.name).Nodup ∧
      (∀ entry ∈ entries, entry.name.toUTF8.size ≤ 65535) ∧
      fs.Denotes ownEntry.source ownPlace ∧
      fs.openForReading plainEntry.source = .ok (["a", "w"], .file bufferOfZeros) ∧
      (entries.map fun entry => entry.name.toUTF8.size).sum + bufferOfZeros.size < 2 ^ 30 ∧
      (buildArchive fs "x.zip" entries .stored).result =
        .error (.file "x.zip" .entryTooLarge) ∧
      longOwnEntry.name.toUTF8.size = 65535 ∧ fs.Denotes longOwnEntry.source ownPlace ∧
      (written.result = .error (.file longOwnEntry.source .entryTooLarge) ∨
        ∃ more, 0 < more.size ∧ written.files = opened.put ownPlace
          (.file (encode (membersOf .deflated [(longOwnEntry.name, flushed ++ more)])))) := by
  intro fs opened entries flushed written
  obtain ⟨hopen, hown, hread⟩ := filesWith_opens bufferOfZeros
  have hnames : (([plainEntry] ++ ownEntry :: []).map Entry.name).Nodup := by decide
  have hsizes : ∀ entry ∈ [plainEntry] ++ [],
      ((fun _ => bufferOfZeros) entry).size ≤ sizeLimit := by
    intro entry _
    rw [size_bufferOfZeros]
    decide
  have hoverfed : ownContent .stored (flushedOf .stored (fun _ => bufferOfZeros) [plainEntry]
      ownEntry) = .error .entryTooLarge := by
    rw [ownContent_eq, portionsOf, copyFromOutput_of_full capacity_le_flushedOf_bufferOfZeros]
  have hresult := buildArchive_of_overfed hopen hnames (filesWith_others _) hsizes hown hoverfed
  have hlongOwn : fs.Denotes longOwnEntry.source ownPlace := ⟨.vacant ["w"] "x.zip", rfl, rfl⟩
  refine ⟨hopen, by decide, hnames, by decide, hown, hread, ?_, hresult, size_longName, hlongOwn,
    ?_⟩
  · rw [size_bufferOfZeros]
    decide
  · exact buildArchive_of_itself_alone hopen hlongOwn
      (not_heldBack_longOwnEntry fun _ => bufferOfZeros)

end FixtureKit
