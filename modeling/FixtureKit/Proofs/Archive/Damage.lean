import FixtureKit.Proofs.Archive.Completed
import FixtureKit.Proofs.Checksum.Burst

/-!
# Damage in the Data of an Entry

A stored entry keeps its bytes as they are, so that other bytes in the place of its data are what
is read of it, unless their checksum tells. All that is looked at on the way there is outside of
the data: the end record, the directory and the local headers stand where they stood, and no
overwritten byte is among those in which an end record or a central header is looked for. So
the archive opens as before, and all other entries are read from bytes that are intact. A burst
of errors always shows in the checksum.

## Main results

* `standsAt_of_overwritten`: what is outside of overwritten bytes stands as before.
* `crc32_slice_ne_of_burst`: a run of bytes with a burst in it has another checksum.
* `indexed_of_overwritten`, `headersStand_of_overwritten`: an archive in which some data is
  overwritten opens.
* `contentOfEntry_of_overwritten`: the entry reads what is there now, or is refused.
* `readEntry_of_burst`: the damaged entry is refused, and everything else is as before.
-/

namespace FixtureKit

namespace Bytes

/-- Of two byte arrays, the second differs from the first between two places at most: some bytes
there, one behind the other, have been replaced by as many others. -/
def Overwritten (bytes damaged : ByteArray) (start stop : Nat) : Prop :=
  ∃ front old new back : List UInt8,
    bytes.data.toList = front ++ (old ++ back) ∧ damaged.data.toList = front ++ (new ++ back) ∧
      old.length = new.length ∧ start ≤ front.length ∧ front.length + old.length ≤ stop

/-- Of two byte arrays, the second differs from the first in a burst between two places: at most
four bytes, one behind the other, have been replaced, and not all of them by themselves. -/
def Burst (bytes damaged : ByteArray) (start stop : Nat) : Prop :=
  ∃ front old new back : List UInt8,
    bytes.data.toList = front ++ (old ++ back) ∧ damaged.data.toList = front ++ (new ++ back) ∧
      old.length = new.length ∧ old.length ≤ 4 ∧ old ≠ new ∧
      start ≤ front.length ∧ front.length + old.length ≤ stop

variable {bytes damaged : ByteArray} {start stop : Nat}

/-- A burst overwrites bytes. -/
theorem Burst.overwritten (h : Burst bytes damaged start stop) :
    Overwritten bytes damaged start stop := by
  obtain ⟨front, old, new, back, hbytes, hdamaged, hlength, -, -, hstart, hstop⟩ := h
  exact ⟨front, old, new, back, hbytes, hdamaged, hlength, hstart, hstop⟩

/-- Overwriting bytes does not change how many there are. -/
theorem size_of_overwritten (h : Overwritten bytes damaged start stop) :
    damaged.size = bytes.size := by
  obtain ⟨front, old, new, back, hbytes, hdamaged, hlength, -, -⟩ := h
  rw [← length_toList, ← length_toList, hbytes, hdamaged]
  simp only [List.length_append, hlength]

/-- What is outside of overwritten bytes stands as before. -/
theorem standsAt_of_overwritten {piece : List UInt8} {place : Nat}
    (h : Overwritten bytes damaged start stop)
    (hout : place + piece.length ≤ start ∨ stop ≤ place) (hstands : StandsAt bytes piece place) :
    StandsAt damaged piece place := by
  obtain ⟨front, old, new, back, hbytes, hdamaged, hlength, hstart, hstop⟩ := h
  rw [StandsAt, hbytes] at hstands
  rw [StandsAt, hdamaged]
  rcases hout with hbefore | hbehind
  · rw [List.drop_append_of_le_length (by omega)] at hstands ⊢
    have hinside : piece.length ≤ (front.drop place).length := by
      rw [List.length_drop]
      omega
    have hfront := List.prefix_of_prefix_length_le hstands (List.prefix_append _ _) hinside
    exact hfront.trans (List.prefix_append _ _)
  · obtain ⟨more, rfl⟩ := Nat.exists_eq_add_of_le (Nat.le_trans hstop hbehind)
    rw [Nat.add_assoc, List.drop_length_add_append, List.drop_length_add_append] at hstands
    rwa [Nat.add_assoc, hlength, List.drop_length_add_append, List.drop_length_add_append]

/-- Bytes with other bytes in place of those from `start` on. -/
def replaced (bytes : ByteArray) (start : Nat) (new : ByteArray) : ByteArray :=
  bytes.extract 0 start ++ new ++ bytes.extract (start + new.size) bytes.size

/-- Replaced bytes stand behind what was in front of them and in front of what was behind. -/
theorem toList_replaced (bytes : ByteArray) (start : Nat) (new : ByteArray) :
    (replaced bytes start new).data.toList =
      bytes.data.toList.take start ++
        (new.data.toList ++ bytes.data.toList.drop (start + new.size)) := by
  have hback : (bytes.data.toList.drop (start + new.size)).take
      (bytes.size - (start + new.size)) = bytes.data.toList.drop (start + new.size) :=
    List.take_of_length_le (by rw [List.length_drop, length_toList])
  rw [replaced, ByteArray.toList_data_append, ByteArray.toList_data_append, toList_extract,
    toList_extract, List.drop_zero, Nat.sub_zero, hback, List.append_assoc]

/-- Replaced bytes have been overwritten. -/
theorem overwritten_replaced {new : ByteArray} (h : start + new.size ≤ bytes.size) :
    Overwritten bytes (replaced bytes start new) start (start + new.size) := by
  have hfront : (bytes.data.toList.take start).length = start := by
    rw [List.length_take, length_toList]
    omega
  have hold : ((bytes.data.toList.drop start).take new.size).length = new.size := by
    rw [List.length_take, List.length_drop, length_toList]
    omega
  refine ⟨bytes.data.toList.take start, (bytes.data.toList.drop start).take new.size,
    new.data.toList, bytes.data.toList.drop (start + new.size), ?_, toList_replaced .., ?_, ?_, ?_⟩
  · rw [← List.drop_drop, List.take_append_drop, List.take_append_drop]
  · rw [hold, length_toList]
  · rw [hfront]
  · rw [hfront, hold]

/-- What has replaced other bytes is read in their place. -/
theorem slice_replaced {new : ByteArray} (h : start ≤ bytes.size) :
    slice (replaced bytes start new) start new.size = new := by
  refine slice_of_standsAt (standsAt_of_eq (toList_replaced ..) ?_)
  rw [List.length_take, length_toList]
  omega

/-- A run of bytes with a burst in it has another checksum. -/
theorem crc32_slice_ne_of_burst {len : Nat} (h : Burst bytes damaged start (start + len)) :
    crc32 (slice bytes start len) ≠ crc32 (slice damaged start len) := by
  obtain ⟨front, old, new, back, hbytes, hdamaged, hlength, hshort, hne, hstart, hstop⟩ := h
  obtain ⟨more, hmore⟩ := Nat.exists_eq_add_of_le hstop
  obtain ⟨before, hbefore⟩ := Nat.exists_eq_add_of_le hstart
  have hdrop : (front.drop start).length = before := by
    rw [List.length_drop, hbefore]
    omega
  have hlen : len = (front.drop start).length + (old.length + more) := by omega
  have hslice (middle : List UInt8) (hsame : middle.length = old.length) :
      ((front ++ (middle ++ back)).drop start).take len =
        front.drop start ++ (middle ++ back.take more) := by
    rw [List.drop_append_of_le_length hstart, hlen, List.take_length_add_append, ← hsame,
      List.take_length_add_append]
  have hwhole : (slice bytes start len).data.toList =
      front.drop start ++ (old ++ back.take more) := by
    rw [toList_slice, hbytes, hslice old rfl]
  have hbroken : (slice damaged start len).data.toList =
      front.drop start ++ (new ++ back.take more) := by
    rw [toList_slice, hdamaged, hslice new hlength.symm]
  exact crc32_ne_of_burst hwhole hbroken hlength hshort hne

end Bytes

namespace Archive

section Members

variable {bytes damaged : ByteArray} {start stop : Nat}

/-- Local headers stand as before where all their members are outside of the overwritten bytes. -/
theorem headersStand_of_overwritten {members : List Member} {offset : Nat}
    (h : Bytes.Overwritten bytes damaged start stop)
    (hout : offset + (localPart members).size ≤ start ∨ stop ≤ offset)
    (hstand : HeadersStand bytes offset members) : HeadersStand damaged offset members := by
  induction members generalizing offset with
  | nil => trivial
  | cons member members ih =>
      obtain ⟨hheader, hothers⟩ := hstand
      have hextent : member.localHeader.length ≤ member.extent := Nat.le_add_right _ _
      rw [size_localPart_cons] at hout
      exact ⟨Bytes.standsAt_of_overwritten h (by omega) hheader, ih (by omega) hothers⟩

/-- An archive stays indexed when bytes are overwritten in front of its directory. -/
theorem indexed_of_overwritten {members : List Member}
    (h : Bytes.Overwritten (encode members) damaged start stop)
    (hstop : stop ≤ (localPart members).size) : Indexed damaged members where
  directory := Bytes.standsAt_of_overwritten h (.inr hstop) (directory_encode members)
  endRecord := by
    refine Bytes.standsAt_of_overwritten h (.inr ?_) (endRecord_encode members)
    exact Nat.le_trans hstop (Nat.le_add_right _ _)
  later _ hplace _ _ := readEndRecord_of_later (Bytes.size_of_overwritten h) hplace

end Members

/-! ### Stored contents -/

section Stored

variable {before after : List (String × ByteArray)} {name : String} {content damaged : ByteArray}
  {start : Nat}
  (hholdable : Holdable (membersOf .stored (before ++ (name, content) :: after)))
  (hstart : start = (localPart (membersOf .stored before)).size +
    (memberOf name .stored content).localHeader.length)
  (hover : Bytes.Overwritten (encode (membersOf .stored (before ++ (name, content) :: after)))
    damaged start (start + content.size))

include hstart

variable (after) in
/-- The data of an entry is in front of the directory. -/
theorem le_size_localPart_stored :
    start + content.size ≤
      (localPart (membersOf .stored (before ++ (name, content) :: after))).size := by
  have hextent : (memberOf name .stored content).extent =
      (memberOf name .stored content).localHeader.length + content.size := rfl
  rw [membersOf_append_cons, localPart_append, ByteArray.size_append, size_localPart_cons, hextent]
  omega

/-- The data of a stored entry is its content. -/
theorem slice_encode_stored :
    Bytes.slice (encode (membersOf .stored (before ++ (name, content) :: after))) start
      content.size = content := by
  have hall := localPart_encode (membersOf .stored (before ++ (name, content) :: after))
  rw [membersOf_append_cons] at hall ⊢
  have hblock := standsAt_block hall
  rw [Nat.zero_add, Member.block, ByteArray.toList_data_append, Bytes.standsAt_append,
    List.toList_data_toByteArray, ← hstart] at hblock
  exact Bytes.slice_of_standsAt hblock.2

include hover

/-- Other bytes in the data of an entry leave the index alone. -/
theorem indexed_of_overwritten_stored :
    Indexed damaged (membersOf .stored (before ++ (name, content) :: after)) :=
  indexed_of_overwritten hover (le_size_localPart_stored after hstart)

/-- The data of an entry is in no local header. -/
theorem headersStand_of_overwritten_stored :
    HeadersStand damaged 0 (membersOf .stored (before ++ (name, content) :: after)) := by
  have hextent : (memberOf name .stored content).extent =
      (memberOf name .stored content).localHeader.length + content.size := rfl
  have hall := headersStand_encode (membersOf .stored (before ++ (name, content) :: after))
  rw [membersOf_append_cons] at hall hover ⊢
  obtain ⟨hbefore, hheader, hafter⟩ := headersStand_append.1 hall
  refine headersStand_append.2 ⟨?_, ?_, ?_⟩
  · exact headersStand_of_overwritten hover (by omega) hbefore
  · exact Bytes.standsAt_of_overwritten hover (by omega) hheader
  · exact headersStand_of_overwritten hover (by omega) hafter

include hholdable

/-- The entry reads what stands in the place of its data, if the checksum does not tell. -/
theorem contentOfEntry_of_overwritten (path : String) :
    contentOfEntry path damaged name =
      let found := Bytes.slice damaged start content.size
      if crc32 found = crc32 content then .ok found else .error (.file path .wrongChecksum) := by
  have hindexed := indexed_of_overwritten_stored hstart hover
  have hheaders := headersStand_of_overwritten_stored hstart hover
  rw [membersOf_append_cons] at hholdable hindexed hheaders
  have hheader := (headersStand_append.1 hheaders).2.1
  rw [Nat.zero_add] at hheader
  have hread : contentOfEntry path damaged name = _ :=
    contentOfEntry_of_indexed hholdable hindexed hheader
  rw [← hstart] at hread
  rw [hread, entryContent]
  simp only [Member.listed, memberOf, if_pos, UInt32.toNat_inj]
  split <;> rfl

/-- Every other entry is given back. -/
theorem contentOfEntry_of_overwritten_of_mem (path : String) {other : String} {bytes : ByteArray}
    (hmem : (other, bytes) ∈ before ++ after) :
    contentOfEntry path damaged other = .ok bytes := by
  have hindexed := indexed_of_overwritten_stored hstart hover
  have hextent : (memberOf name .stored content).extent =
      (memberOf name .stored content).localHeader.length + content.size := rfl
  have hall := localPart_encode (membersOf .stored (before ++ (name, content) :: after))
  rw [membersOf_append_cons] at hall hover
  rw [localPart_append, localPart_cons, ByteArray.toList_data_append,
    ByteArray.toList_data_append, Bytes.standsAt_append, Bytes.standsAt_append,
    Bytes.length_toList, Bytes.length_toList, Member.size_block] at hall
  obtain ⟨hfront, -, hback⟩ := hall
  rcases List.mem_append.1 hmem with hmem | hmem
  · obtain ⟨first, second, rfl⟩ := List.append_of_mem hmem
    have hstands := Bytes.standsAt_of_overwritten hover
      (.inl (by rw [Bytes.length_toList]; omega)) hfront
    rw [membersOf_append_cons] at hstands
    have hblock := standsAt_block hstands
    rw [Nat.zero_add] at hblock
    rw [List.append_assoc, List.cons_append] at hholdable hindexed
    exact contentOfEntry_of_standsAt hholdable hindexed hblock
  · obtain ⟨first, second, rfl⟩ := List.append_of_mem hmem
    have hstands := Bytes.standsAt_of_overwritten hover (.inr (by omega)) hback
    rw [membersOf_append_cons] at hstands
    have hblock := standsAt_block hstands
    have hsplit : before ++ (name, content) :: (first ++ (other, bytes) :: second) =
        (before ++ (name, content) :: first) ++ (other, bytes) :: second := by
      rw [List.append_assoc, List.cons_append]
    rw [hsplit] at hholdable hindexed
    refine contentOfEntry_of_standsAt hholdable hindexed ?_
    rw [membersOf_append_cons, localPart_append, ByteArray.size_append, size_localPart_cons]
    rwa [Nat.zero_add, Nat.add_assoc] at hblock

/-- The listing stays what it was. -/
theorem infosOfEntries_of_overwritten (path : String) :
    infosOfEntries path damaged =
      .ok ((before ++ (name, content) :: after).map fun (name, content) =>
        ⟨name, content.size⟩) := by
  rw [infosOfEntries_of_headersStand path hholdable (indexed_of_overwritten_stored hstart hover)
    (headersStand_of_overwritten_stored hstart hover), map_info_membersOf]

/-- A name that no entry has is not found. -/
theorem contentOfEntry_of_overwritten_of_notMem (path : String) {other : String}
    (hother : other ∉ (before ++ (name, content) :: after).map Prod.fst) :
    contentOfEntry path damaged other = .error (.format path .entryNotFound) :=
  contentOfEntry_of_notMem hholdable (indexed_of_overwritten_stored hstart hover)
    (by rwa [map_name_membersOf])

end Stored

/-- Other bytes of the same number in place of the data of an entry have overwritten it. -/
theorem overwritten_replaced_stored {before : List (String × ByteArray)} {name : String}
    {content new : ByteArray} {start : Nat} (after : List (String × ByteArray))
    (hstart : start = (localPart (membersOf .stored before)).size +
      (memberOf name .stored content).localHeader.length)
    (hsize : new.size = content.size) :
    let image := encode (membersOf .stored (before ++ (name, content) :: after))
    Bytes.Overwritten image (Bytes.replaced image start new) start (start + content.size) ∧
      Bytes.slice (Bytes.replaced image start new) start content.size = new := by
  intro image
  have hend : start + content.size ≤ image.size := by
    have hlocal := le_size_localPart_stored after hstart
    rw [size_encode, endPosition]
    omega
  rw [← hsize] at hend ⊢
  exact ⟨Bytes.overwritten_replaced hend,
    Bytes.slice_replaced (Nat.le_trans (Nat.le_add_right _ _) hend)⟩

/-- An entry with a burst in its data is refused for its checksum. -/
theorem contentOfEntry_of_burst {before after : List (String × ByteArray)} {name : String}
    {content damaged : ByteArray} {start : Nat}
    (hholdable : Holdable (membersOf .stored (before ++ (name, content) :: after)))
    (hstart : start = (localPart (membersOf .stored before)).size +
      (memberOf name .stored content).localHeader.length)
    (hburst : Bytes.Burst (encode (membersOf .stored (before ++ (name, content) :: after))) damaged
      start (start + content.size)) (path : String) :
    contentOfEntry path damaged name = .error (.file path .wrongChecksum) := by
  have hne := Bytes.crc32_slice_ne_of_burst hburst
  rw [slice_encode_stored hstart] at hne
  rw [contentOfEntry_of_overwritten hholdable hstart hburst.overwritten path]
  exact if_neg hne.symm

/-! ### Where stored data is -/

/-- Where the data of a stored entry starts behind other entries. Each of these takes thirty
bytes, its name and its bytes; in front of the data itself are thirty bytes and the name. -/
def storedStart (content : Entry → ByteArray) (before : List Entry) (entry : Entry) : Nat :=
  (before.map fun other => 30 + other.name.toUTF8.size + (content other).size).sum +
    (30 + entry.name.toUTF8.size)

/-- The data of a stored entry starts behind the members before it and its own header. -/
theorem storedStart_eq (content : Entry → ByteArray) (before : List Entry) (entry : Entry) :
    storedStart content before entry =
      (localPart (membersOf .stored (namedContents content before))).size +
        (memberOf entry.name .stored (content entry)).localHeader.length := by
  have hname : (nameBytes entry.name).length = entry.name.toUTF8.size := Bytes.length_toList _
  rw [storedStart, size_localPart_membersOf_stored, namedContents, List.map_map,
    length_localHeader]
  simp only [memberOf, hname]
  rfl

end Archive

open Archive

/-- **Local damage is detected and stays local.** Take an archive of stored entries that was
written without failure, none of them the archive itself, all names with room in their field, and
replace at most four bytes, one behind the other, in the data of one entry, which stands where it
is looked for. That entry is then refused for its checksum. The listing is the same as before, and
so is what is read under every other name; the names of all entries differ. -/
theorem readEntry_of_burst {fs opened changed : FileSystem} {archive : String} {target : Location}
    {before after : List Entry} {entry : Entry} {bytes damaged : ByteArray}
    (hopen : fs.openForWriting archive = .ok (.file target, opened))
    (hself : ∀ other ∈ before ++ entry :: after, ∀ object,
      opened.openForReading other.source ≠ .ok (target, object))
    (hcount : (before ++ entry :: after).length < 65535)
    (hlengths : ∀ other ∈ before ++ entry :: after, other.name.toUTF8.size ≤ 65535)
    (hresult : (buildArchive fs archive (before ++ entry :: after) .stored).result = .ok ())
    (hbytes : (buildArchive fs archive (before ++ entry :: after) .stored).files.contentOf
      archive = .ok bytes)
    (hsize : bytes.size < 2 ^ 32 - 1)
    (hburst :
      let content := fun other : Entry => opened.bytesOf other.source
      let start := storedStart content before entry
      Bytes.Burst bytes damaged start (start + (content entry).size))
    (hchanged : changed.contentOf archive = .ok damaged) :
    let files := (buildArchive fs archive (before ++ entry :: after) .stored).files
    let content := fun other : Entry => opened.bytesOf other.source
    Bytes.slice bytes (storedStart content before entry) (content entry).size = content entry ∧
      readEntry changed archive entry.name = .error (.file archive .wrongChecksum) ∧
      listEntries changed archive = listEntries files archive ∧
      (∀ name, name ≠ entry.name → readEntry changed archive name = readEntry files archive name) ∧
      ((before ++ entry :: after).map Entry.name).Nodup := by
  intro files content
  obtain ⟨rfl, hholdable, hdelivers, hnames⟩ :=
    stored_of_result_ok hopen hself hcount hlengths hresult hbytes hsize
  have hstart := storedStart_eq content before entry
  have hcontents : namedContents content (before ++ entry :: after) =
      namedContents content before ++
        (entry.name, content entry) :: namedContents content after := by
    rw [namedContents, List.map_append, List.map_cons]
    rfl
  rw [hcontents] at hholdable hdelivers hburst
  refine ⟨?_, ?_, ?_, ?_, hnames⟩
  · rw [hcontents]
    exact slice_encode_stored hstart
  · rw [readEntry, hchanged]
    exact contentOfEntry_of_burst hholdable hstart hburst archive
  · rw [hdelivers.list, listEntries, hchanged]
    exact infosOfEntries_of_overwritten hholdable hstart hburst.overwritten archive
  · intro name hname
    rw [readEntry, hchanged]
    by_cases hmem : name ∈ (namedContents content before ++
        (entry.name, content entry) :: namedContents content after).map Prod.fst
    · obtain ⟨⟨_, found⟩, hfound, rfl⟩ := List.mem_map.1 hmem
      rw [hdelivers.read _ _ hfound]
      refine contentOfEntry_of_overwritten_of_mem hholdable hstart hburst.overwritten archive ?_
      rw [List.mem_append, List.mem_cons] at hfound
      rcases hfound with hbefore | hsame | hafter
      · exact List.mem_append_left _ hbefore
      · exact absurd (congrArg Prod.fst hsame) hname
      · exact List.mem_append_right _ hafter
    · rw [hdelivers.other name hmem]
      exact contentOfEntry_of_overwritten_of_notMem hholdable hstart hburst.overwritten archive hmem

/-! ### A burst that looks like an end record

The bytes that get into the second of three entries are the signature by which an archive is
looked for from its end. -/

/-- A working directory with two sources. -/
def Archive.intactFiles : FileSystem where
  workingDirectory := ["w"]
  objects := [(["a", "w"], .file ⟨#[1, 2, 3, 4, 5, 6]⟩), (["b", "w"], .file ⟨#[9, 8, 7]⟩)]

/-- The same with an empty file for the archive. -/
def Archive.intactOpened : FileSystem :=
  intactFiles.put ["out.zip", "w"] (.file ByteArray.empty)

/-- The entries to be packed. -/
def Archive.intactEntries : List Entry :=
  [⟨"b", "x"⟩] ++ ⟨"a", "é"⟩ :: [⟨"b", "y"⟩]

/-- The archive of the entries. -/
def Archive.intactImage : ByteArray :=
  encode (membersOf .stored
    [("x", ⟨#[9, 8, 7]⟩), ("é", ⟨#[1, 2, 3, 4, 5, 6]⟩), ("y", ⟨#[9, 8, 7]⟩)])

/-- The archive with the signature of an end record in the second entry. -/
def Archive.signedImage : ByteArray :=
  (intactImage.data.toList.take 67 ++
    (endSignature ++ intactImage.data.toList.drop 71)).toByteArray

/-- The files with that archive. -/
def Archive.signedFiles : FileSystem :=
  intactFiles.put ["out.zip", "w"] (.file signedImage)

/-- None of the sources is the archive. -/
theorem Archive.ne_of_openForReading_intactOpened (entry : Entry) (hmem : entry ∈ intactEntries)
    (object : Object) :
    intactOpened.openForReading entry.source ≠ .ok (["out.zip", "w"], object) := by
  have hall : entry = ⟨"b", "x"⟩ ∨ entry = ⟨"a", "é"⟩ ∨ entry = ⟨"b", "y"⟩ := by
    simpa [intactEntries] using hmem
  have hother {source : String} {location : Location} {bytes : ByteArray}
      (h : intactOpened.openForReading source = .ok (location, .file bytes))
      (hne : location ≠ ["out.zip", "w"]) :
      intactOpened.openForReading source ≠ .ok (["out.zip", "w"], object) := by
    intro hopen
    exact hne (congrArg Prod.fst (Except.ok.inj (h.symm.trans hopen)))
  have hfirst : intactOpened.openForReading "a" =
      .ok (["a", "w"], .file ⟨#[1, 2, 3, 4, 5, 6]⟩) := rfl
  have hsecond : intactOpened.openForReading "b" = .ok (["b", "w"], .file ⟨#[9, 8, 7]⟩) := rfl
  rcases hall with rfl | rfl | rfl
  · exact hother hsecond (by decide)
  · exact hother hfirst (by decide)
  · exact hother hsecond (by decide)

/-- The signature in the second entry is a burst: it stands in four bytes of its data. -/
theorem Archive.burst_signedImage : Bytes.Burst intactImage signedImage 66 72 := by
  have hback : intactImage.data.toList.drop 71 = (intactImage.data.toList.drop 67).drop 4 := by
    rw [List.drop_drop]
  refine ⟨intactImage.data.toList.take 67, (intactImage.data.toList.drop 67).take 4,
    endSignature, intactImage.data.toList.drop 71, ?_, ?_, ?_, ?_, ?_, ?_, ?_⟩
  · rw [hback, List.take_append_drop, List.take_append_drop]
  · rw [signedImage, List.toList_data_toByteArray]
  · decide +kernel
  · decide +kernel
  · decide +kernel
  · decide +kernel
  · decide +kernel

/-- The burst that puts the signature of an end record into the second entry is found by its
checksum. The listing and the other entries stay as they are. -/
theorem readEntry_of_burst_signature :
    Bytes.Burst intactImage signedImage 66 72 ∧
      let files := (buildArchive intactFiles "out.zip" intactEntries .stored).files
      files.contentOf "out.zip" = .ok intactImage ∧
        readEntry signedFiles "out.zip" "é" = .error (.file "out.zip" .wrongChecksum) ∧
        listEntries signedFiles "out.zip" = listEntries files "out.zip" ∧
        readEntry signedFiles "out.zip" "y" = readEntry files "out.zip" "y" := by
  have hopen : intactFiles.openForWriting "out.zip" =
      .ok (.file ["out.zip", "w"], intactOpened) := rfl
  have hresult : (buildArchive intactFiles "out.zip" intactEntries .stored).result = .ok () := rfl
  have hbytes : (buildArchive intactFiles "out.zip" intactEntries .stored).files.contentOf
      "out.zip" = .ok intactImage := rfl
  have hsize : intactImage.size < 2 ^ 32 - 1 := by decide +kernel
  have hchanged : signedFiles.contentOf "out.zip" = .ok signedImage := rfl
  obtain ⟨-, hread, hlist, hothers, -⟩ :=
    readEntry_of_burst hopen ne_of_openForReading_intactOpened (by decide) (by decide) hresult
      hbytes hsize burst_signedImage hchanged
  exact ⟨burst_signedImage, hbytes, hread, hlist, hothers "y" (by decide)⟩

end FixtureKit
