import FixtureKit.Archive.Read
import FixtureKit.Proofs.Archive.Index
import FixtureKit.Proofs.Deflate.Encoder

/-!
# Reading Entries Back

Once an archive is open, an entry is read in two steps: its local header is looked at for
the place of the data, and the data is turned back into content. Both steps give back what
a member was made of when its local header and its data stand where the directory says.

The lemmas ask for no more of the bytes than one entry needs. An archive that is damaged
in the data of one entry keeps its index and all headers, so its listing and its other
entries are read by the same lemmas.

## Main results

* `listAll_of_headersStand`: the listing of members whose local headers stand.
* `contentOfEntry_of_indexed`: what is read under the name of a member is decided by its data.
* `contentOfEntry_eq_encode`: bytes in which members and index stand are read as the image is.
* `infosOfEntries_encode`, `contentOfEntry_encode`, `contentOfEntry_encode_of_notMem`: an
  archive of named contents lists the names with their sizes, gives each content back, and
  has no other entry.
-/

namespace FixtureKit

namespace Archive

/-! ### Local headers -/

/-- The signature and the fields of a local header stand one behind the other. -/
theorem standsAt_localHeader {bytes : ByteArray} {member : Member} {place : Nat}
    (h : Bytes.StandsAt bytes member.localHeader place) :
    Bytes.StandsAt bytes localSignature place ∧
      Bytes.StandsAt bytes (Bytes.fields (member.commonFields ++ [(2, 0)])) (place + 4) := by
  rw [Member.localHeader, Bytes.standsAt_append, Bytes.standsAt_append] at h
  exact h.1

/-- The name of a member stands at the end of its local header. -/
theorem standsAt_localName {bytes : ByteArray} {member : Member} {place : Nat}
    (h : Bytes.StandsAt bytes member.localHeader place) :
    Bytes.StandsAt bytes (nameBytes member.name) (place + 30) := by
  rw [Member.localHeader, Bytes.standsAt_append, List.length_append, Bytes.length_fields] at h
  simpa [localSignature, Member.commonFields] using h.2

/-- Where the local header of a member stands, its data starts behind the header. -/
theorem dataStart_of_standsAt {bytes : ByteArray} {member : Member} {place : Nat}
    (hfits : member.Fits) (hstands : Bytes.StandsAt bytes member.localHeader place) :
    dataStart bytes (member.listed place) = .ok (place + member.localHeader.length) := by
  have hend := hstands.le_size (by simp [Member.localHeader, localSignature])
  have heven := nameFlags_even member.name
  obtain ⟨hsignature, hfields⟩ := standsAt_localHeader hstands
  rw [Member.commonFields] at hfields
  simp only [List.cons_append, List.nil_append] at hfields
  have hlength : Bytes.number bytes (place + 26) 2 = (nameBytes member.name).length :=
    Bytes.number_of_standsAt_fields hfields 8 22 rfl (by simp) hfits.name
  have hextra : Bytes.number bytes (place + 28) 2 = 0 :=
    Bytes.number_of_standsAt_fields hfields 9 24 rfl (by simp) (by decide)
  have hmethod : ¬(member.compression.method ≠ Compression.stored.method ∧
      member.compression.method ≠ Compression.deflated.method) := by
    cases member.compression <;> decide
  have hhas := Bytes.hasAt_eq_true_iff.2 hsignature
  rw [length_localHeader] at hend ⊢
  rw [dataStart]
  simp only [Member.listed, hlength, hextra, hhas]
  rw [if_neg (by omega), if_neg (by omega), if_neg (by decide), if_neg hmethod,
    if_neg (by decide), Nat.add_zero, Nat.add_assoc]

/-- A member as a listing shows it. -/
def Member.info (member : Member) : EntryInfo :=
  ⟨member.name, member.size⟩

/-- Members whose local headers stand are all listed, in order. -/
theorem listAll_of_headersStand {bytes : ByteArray} {place : Nat} {members : List Member}
    (hfits : ∀ member ∈ members, member.Fits) (hstand : HeadersStand bytes place members) :
    listAll bytes (listedFrom place members) = .ok (members.map Member.info) := by
  induction members generalizing place with
  | nil => rfl
  | cons member members ih =>
      obtain ⟨hheader, hothers⟩ := hstand
      have hstart := dataStart_of_standsAt (hfits member List.mem_cons_self) hheader
      have hrest := ih (fun other h => hfits other (List.mem_cons_of_mem member h)) hothers
      rw [listedFrom, listAll, hstart, hrest]
      rfl

/-- An indexed archive lists its members when their local headers stand. -/
theorem infosOfEntries_of_headersStand (path : String) {bytes : ByteArray} {members : List Member}
    (hholdable : Holdable members) (hindexed : Indexed bytes members)
    (hstand : HeadersStand bytes 0 members) :
    infosOfEntries path bytes = .ok (members.map Member.info) := by
  rw [infosOfEntries, directory_of_indexed hholdable hindexed]
  simp only [listAll_of_headersStand hholdable.fits hstand]

/-! ### One entry -/

/-- A name that no entry has is not found. -/
theorem find?_name_of_notMem {entries : List Listed} {name : String}
    (h : name ∉ entries.map Listed.name) : entries.find? (·.name = name) = none := by
  rw [List.find?_eq_none]
  intro listed hmem hname
  exact h (List.mem_map.2 ⟨listed, hmem, by simpa using hname⟩)

/-- Where names differ, each entry is found under its own. -/
theorem find?_name_of_nodup {before after : List Listed} {listed : Listed}
    (hnames : ((before ++ listed :: after).map Listed.name).Nodup) :
    (before ++ listed :: after).find? (·.name = listed.name) = some listed := by
  have hother : listed.name ∉ before.map Listed.name := by
    rw [List.map_append, List.map_cons, List.nodup_append] at hnames
    exact fun hmem => hnames.2.2 _ hmem _ List.mem_cons_self rfl
  rw [List.find?_append, find?_name_of_notMem hother, Option.none_or,
    List.find?_cons_of_pos (by simp)]

/-- Under the name of a member its own entry is found, with the place where the members in
front of it end. -/
theorem find?_listedFrom {before after : List Member} {member : Member}
    (hnames : ((before ++ member :: after).map Member.name).Nodup) :
    (listedFrom 0 (before ++ member :: after)).find? (·.name = member.name) =
      some (member.listed (localPart before).size) := by
  rw [← map_name_listedFrom 0] at hnames
  rw [listedFrom_append, listedFrom, Nat.zero_add] at hnames ⊢
  exact find?_name_of_nodup hnames

/-- What is read under the name of a member is decided by its data, wherever else the bytes
may differ from an archive. -/
theorem contentOfEntry_of_indexed {path : String} {bytes : ByteArray} {before after : List Member}
    {member : Member} (hholdable : Holdable (before ++ member :: after))
    (hindexed : Indexed bytes (before ++ member :: after))
    (hheader : Bytes.StandsAt bytes member.localHeader (localPart before).size) :
    contentOfEntry path bytes member.name =
      (entryContent bytes (member.listed (localPart before).size)
        ((localPart before).size + member.localHeader.length)).mapError (.file path) := by
  have hfits := hholdable.fits member (by simp)
  have hsize : ¬memoryLimit ≤ (member.listed (localPart before).size).size := by
    have hmember := hfits.size
    change ¬memoryLimit ≤ member.size
    rw [memoryLimit]
    omega
  rw [contentOfEntry, directory_of_indexed hholdable hindexed]
  simp only [find?_listedFrom hholdable.names, dataStart_of_standsAt hfits hheader]
  rw [if_neg hsize]
  cases entryContent bytes (member.listed (localPart before).size)
    ((localPart before).size + member.localHeader.length) <;> rfl

/-- A name that no member has is not found. -/
theorem contentOfEntry_of_notMem {path name : String} {bytes : ByteArray} {members : List Member}
    (hholdable : Holdable members) (hindexed : Indexed bytes members)
    (hname : name ∉ members.map Member.name) :
    contentOfEntry path bytes name = .error (.format path .entryNotFound) := by
  rw [contentOfEntry, directory_of_indexed hholdable hindexed]
  rw [← map_name_listedFrom 0] at hname
  simp only [find?_name_of_notMem hname]

/-- What is read of an entry is decided by the bytes of its data. -/
theorem entryContent_congr {bytes other : ByteArray} {listed : Listed} {start : Nat}
    (h : Bytes.slice bytes start listed.compressedSize =
      Bytes.slice other start listed.compressedSize) :
    entryContent bytes listed start = entryContent other listed start := by
  rw [entryContent, entryContent, h]

/-- Wherever members stand with their index, every name is answered as by their image. -/
theorem contentOfEntry_eq_encode (path name : String) {bytes : ByteArray} {members : List Member}
    (hholdable : Holdable members) (hindexed : Indexed bytes members)
    (hstands : Bytes.StandsAt bytes (localPart members).data.toList 0) :
    contentOfEntry path bytes name = contentOfEntry path (encode members) name := by
  by_cases hname : name ∈ members.map Member.name
  · obtain ⟨member, hmem, rfl⟩ := List.mem_map.1 hname
    obtain ⟨before, after, rfl⟩ := List.append_of_mem hmem
    have hblock := standsAt_block hstands
    have himage := standsAt_block (localPart_encode (before ++ member :: after))
    rw [Nat.zero_add, Member.block, ByteArray.toList_data_append, Bytes.standsAt_append,
      List.toList_data_toByteArray] at hblock himage
    have hdata := (Bytes.slice_of_standsAt hblock.2).trans
      (Bytes.slice_of_standsAt himage.2).symm
    have hcontent : entryContent bytes (member.listed (localPart before).size)
        ((localPart before).size + member.localHeader.length) =
          entryContent (encode (before ++ member :: after)) (member.listed (localPart before).size)
            ((localPart before).size + member.localHeader.length) := entryContent_congr hdata
    rw [contentOfEntry_of_indexed hholdable hindexed hblock.1,
      contentOfEntry_of_indexed hholdable (indexed_encode _) himage.1, hcontent]
  · rw [contentOfEntry_of_notMem hholdable hindexed hname,
      contentOfEntry_of_notMem hholdable (indexed_encode _) hname]

/-- Data that holds some content, and stands in its place, is turned back into it. -/
theorem entryContent_memberOf [Deflate.Encoder] [Deflate.Encoder.Lawful]
    {bytes content : ByteArray} {name : String} {compression : Compression} {place start : Nat}
    (hstands : Bytes.StandsAt bytes (memberOf name compression content).data.data.toList start) :
    entryContent bytes ((memberOf name compression content).listed place) start =
      .ok content := by
  have hslice : Bytes.slice bytes start (memberOf name compression content).data.size =
      (memberOf name compression content).data := Bytes.slice_of_standsAt hstands
  rw [entryContent]
  simp only [Member.listed, hslice]
  cases compression with
  | stored => simp only [memberOf, if_pos, Compression.method]
  | deflated =>
      have hmethod : ¬Compression.deflated.method = Compression.stored.method := by decide
      simp only [memberOf, if_neg hmethod, Deflate.Encoder.Lawful.inflate_compress, if_pos]

/-! ### Archives of named contents -/

/-- The members that hold some named contents. -/
def membersOf [Deflate.Encoder] (compression : Compression)
    (contents : List (String × ByteArray)) : List Member :=
  contents.map fun (name, content) => memberOf name compression content

section Contents

variable [Deflate.Encoder] {compression : Compression} {contents : List (String × ByteArray)}

/-- Members have the names of what is packed, in its order. -/
theorem map_name_membersOf :
    (membersOf compression contents).map Member.name = contents.map Prod.fst := by
  rw [membersOf, List.map_map]
  rfl

/-- Members show the names and the uncompressed sizes of what is packed. -/
theorem map_info_membersOf :
    (membersOf compression contents).map Member.info =
      contents.map fun (name, content) => ⟨name, content.size⟩ := by
  rw [membersOf, List.map_map]
  rfl

theorem membersOf_cons (name : String) (content : ByteArray)
    (rest : List (String × ByteArray)) :
    membersOf compression ((name, content) :: rest) =
      memberOf name compression content :: membersOf compression rest := rfl

/-- The member of one piece of content stands between those of the content before and behind it. -/
theorem membersOf_append_cons (before after : List (String × ByteArray)) (name : String)
    (content : ByteArray) :
    membersOf compression (before ++ (name, content) :: after) =
      membersOf compression before ++
        memberOf name compression content :: membersOf compression after := by
  simp only [membersOf, List.map_append, List.map_cons]

/-- Named contents that are not too many or too large can be held. -/
theorem holdable_membersOf (hnames : (contents.map Prod.fst).Nodup)
    (hcount : contents.length < 0xFFFF)
    (hfits : ∀ named ∈ contents, (nameBytes named.1).length ≤ 0xFFFF ∧ named.2.size < 0xFFFFFFFF)
    (hsize : (encode (membersOf compression contents)).size < 0xFFFFFFFF) :
    Holdable (membersOf compression contents) := by
  refine holdable_of_size_encode (by rwa [map_name_membersOf]) ?_ ?_
    (by rwa [membersOf, List.length_map]) hsize
  · rintro _ hmem
    obtain ⟨⟨name, content⟩, hnamed, rfl⟩ := List.mem_map.1 hmem
    exact (hfits _ hnamed).1
  · rintro _ hmem
    obtain ⟨⟨name, content⟩, hnamed, rfl⟩ := List.mem_map.1 hmem
    exact Nat.lt_succ_of_lt (hfits _ hnamed).2

/-- A content is given back wherever the bytes are indexed and its header and data stand. -/
theorem contentOfEntry_of_standsAt [Deflate.Encoder.Lawful] {path name : String}
    {bytes content : ByteArray} {before after : List (String × ByteArray)}
    (hholdable : Holdable (membersOf compression (before ++ (name, content) :: after)))
    (hindexed : Indexed bytes (membersOf compression (before ++ (name, content) :: after)))
    (hstands : Bytes.StandsAt bytes (memberOf name compression content).block.data.toList
      (localPart (membersOf compression before)).size) :
    contentOfEntry path bytes name = .ok content := by
  rw [membersOf_append_cons] at hholdable hindexed
  rw [Member.block, ByteArray.toList_data_append, Bytes.standsAt_append,
    List.toList_data_toByteArray] at hstands
  have hread : contentOfEntry path bytes name = _ :=
    contentOfEntry_of_indexed hholdable hindexed hstands.1
  rw [entryContent_memberOf hstands.2] at hread
  exact hread

variable (path : String) (hholdable : Holdable (membersOf compression contents))

include hholdable

/-- An archive of named contents lists the names with the sizes, in order. -/
theorem infosOfEntries_encode :
    infosOfEntries path (encode (membersOf compression contents)) =
      .ok (contents.map fun (name, content) => ⟨name, content.size⟩) := by
  rw [infosOfEntries_of_headersStand path hholdable (indexed_encode _) (headersStand_encode _),
    map_info_membersOf]

/-- An archive of named contents gives each of them back. -/
theorem contentOfEntry_encode [Deflate.Encoder.Lawful] {name : String} {content : ByteArray}
    (hmem : (name, content) ∈ contents) :
    contentOfEntry path (encode (membersOf compression contents)) name = .ok content := by
  obtain ⟨before, after, rfl⟩ := List.append_of_mem hmem
  refine contentOfEntry_of_standsAt hholdable (indexed_encode _) ?_
  have hstands := localPart_encode (membersOf compression (before ++ (name, content) :: after))
  rw [membersOf_append_cons] at hstands ⊢
  have hblock := standsAt_block hstands
  rwa [Nat.zero_add] at hblock

/-- An archive of named contents has no other entry. -/
theorem contentOfEntry_encode_of_notMem {name : String} (hname : name ∉ contents.map Prod.fst) :
    contentOfEntry path (encode (membersOf compression contents)) name =
      .error (.format path .entryNotFound) :=
  contentOfEntry_of_notMem hholdable (indexed_encode _) (by rwa [map_name_membersOf])

end Contents

end Archive

end FixtureKit
