import FixtureKit.Proofs.Archive.Admitted
import Mathlib.Algebra.BigOperators.Group.List.Basic

/-!
# Consistent Archives

An archive tells everything twice, in the local headers and in the directory, and tells in its
last record where the directory is. This module says when a file is consistent in all of this, by
reading fields at their places and with no encoder in sight: local headers with names and data
stand one behind the other from the start, the central headers follow, each with the fields that
are read at the offset it states, and the end record tells their number, their place and their
size and is the last thing in the file.

What a write of stored entries leaves is consistent, whether it has come to its end or not.

## Main results

* `Consistent.size_eq`: how large a consistent file is.
* `consistent_encode`: the image of stored contents is consistent.
* `buildArchive_consistent`: whatever becomes of a write, its archive is consistent.
-/

namespace FixtureKit

namespace Archive

/-! ### Reading the records -/

/-- The fields that both headers of an entry have, with the name behind them. -/
structure HeaderFields where
  flags : Nat
  method : Nat
  checksum : Nat
  packedSize : Nat
  size : Nat
  nameLength : Nat
  name : ByteArray
  deriving DecidableEq

/-- The common fields of a header, whose flags and whose name are at the given places. -/
def HeaderFields.readAt (bytes : ByteArray) (flagsAt nameAt : Nat) : HeaderFields where
  flags := Bytes.number bytes flagsAt 2
  method := Bytes.number bytes (flagsAt + 2) 2
  checksum := Bytes.number bytes (flagsAt + 8) 4
  packedSize := Bytes.number bytes (flagsAt + 12) 4
  size := Bytes.number bytes (flagsAt + 16) 4
  nameLength := Bytes.number bytes (flagsAt + 20) 2
  name := Bytes.slice bytes nameAt (Bytes.number bytes (flagsAt + 20) 2)

/-- The fields of the local header at a place. -/
def localFields (bytes : ByteArray) (start : Nat) : HeaderFields :=
  HeaderFields.readAt bytes (start + 6) (start + 30)

/-- The fields of the central header at a place. -/
def centralFields (bytes : ByteArray) (start : Nat) : HeaderFields :=
  HeaderFields.readAt bytes (start + 8) (start + 46)

/-- What a header tells of a stored entry. -/
def storedFields (name : String) (content : ByteArray) : HeaderFields where
  flags := nameFlags name
  method := 0
  checksum := (crc32 content).toNat
  packedSize := content.size
  size := content.size
  nameLength := name.toUTF8.size
  name := name.toUTF8

/-- A local header of thirty bytes with a name stands at a place, and the data it tells of stands
behind it. -/
structure LocalAt (bytes : ByteArray) (start : Nat) (name : String) (content : ByteArray) :
    Prop where
  signature : Bytes.StandsAt bytes localSignature start
  fields : localFields bytes start = storedFields name content
  extra : Bytes.number bytes (start + 28) 2 = 0
  data : Bytes.slice bytes (start + 30 + name.toUTF8.size) content.size = content

/-- A central header of forty-six bytes with a name stands at a place, and tells what the local
header tells at the offset that it states. -/
structure CentralAt (bytes : ByteArray) (start place : Nat) : Prop where
  signature : Bytes.StandsAt bytes centralSignature start
  offset : Bytes.number bytes (start + 42) 4 = place
  fields : centralFields bytes start = localFields bytes place
  extra : Bytes.number bytes (start + 30) 2 = 0
  comment : Bytes.number bytes (start + 32) 2 = 0

/-- Entries with their data fill the bytes from `start` to `finish`. -/
def LocalsTile (bytes : ByteArray) : (start finish : Nat) → List (String × ByteArray) → Prop
  | start, finish, [] => start = finish
  | start, finish, (name, content) :: rest =>
    LocalAt bytes start name content ∧
      LocalsTile bytes (start + 30 + name.toUTF8.size + content.size) finish rest

/-- The central headers of entries, which follow one another from `place` on, fill the bytes from
`start` to `finish`. -/
def CentralsTile (bytes : ByteArray) :
    (place start finish : Nat) → List (String × ByteArray) → Prop
  | _, start, finish, [] => start = finish
  | place, start, finish, (name, content) :: rest =>
    CentralAt bytes start place ∧
      CentralsTile bytes (place + 30 + name.toUTF8.size + content.size)
        (start + 46 + name.toUTF8.size) finish rest

/-- An end record of twenty-two bytes for a directory of `count` headers between `start` and
`finish` stands behind them, and nothing behind it. -/
structure EndAt (bytes : ByteArray) (start finish count : Nat) : Prop where
  signature : Bytes.StandsAt bytes endSignature finish
  disks : Bytes.number bytes (finish + 4) 2 = 0 ∧ Bytes.number bytes (finish + 6) 2 = 0
  count : Bytes.number bytes (finish + 8) 2 = count ∧ Bytes.number bytes (finish + 10) 2 = count
  directorySize : Bytes.number bytes (finish + 12) 4 = finish - start
  directoryStart : Bytes.number bytes (finish + 16) 4 = start
  comment : Bytes.number bytes (finish + 20) 2 = 0
  size_eq : bytes.size = finish + 22

/-- A file is an archive of stored contents and nothing else, and agrees with itself. -/
def Consistent (bytes : ByteArray) (contents : List (String × ByteArray)) : Prop :=
  ∃ start finish, LocalsTile bytes 0 start contents ∧ CentralsTile bytes 0 start finish contents ∧
    EndAt bytes start finish contents.length

/-! ### The size of a consistent file -/

/-- Members that tile the front of an archive end as far behind its start as their headers, names
and data take. -/
theorem LocalsTile.finish_eq {bytes : ByteArray} {start finish : Nat}
    {contents : List (String × ByteArray)} (h : LocalsTile bytes start finish contents) :
    finish = start +
      (contents.map fun (name, content) => 30 + name.toUTF8.size + content.size).sum := by
  induction contents generalizing start with
  | nil => exact h.symm
  | cons named rest ih =>
      obtain ⟨name, content⟩ := named
      rw [ih h.2, List.map_cons, List.sum_cons]
      simp only [Nat.add_assoc]

/-- Central headers that tile the directory end as far behind its start as the headers and names
take. -/
theorem CentralsTile.finish_eq {bytes : ByteArray} {place start finish : Nat}
    {contents : List (String × ByteArray)} (h : CentralsTile bytes place start finish contents) :
    finish = start + (contents.map fun (name, _) => 46 + name.toUTF8.size).sum := by
  induction contents generalizing place start with
  | nil => exact h.symm
  | cons named rest ih =>
      obtain ⟨name, content⟩ := named
      rw [ih h.2, List.map_cons, List.sum_cons]
      simp only [Nat.add_assoc]

/-- A consistent file has twenty-two bytes, and for each entry seventy-six, its name twice and its
data. -/
theorem Consistent.size_eq {bytes : ByteArray} {contents : List (String × ByteArray)}
    (h : Consistent bytes contents) :
    bytes.size = 22 +
      (contents.map fun (name, content) => 76 + 2 * name.toUTF8.size + content.size).sum := by
  obtain ⟨start, finish, hlocals, hcentrals, hend⟩ := h
  have hsum : (contents.map fun (name, content) => 76 + 2 * name.toUTF8.size + content.size).sum =
      (contents.map fun (name, content) => 30 + name.toUTF8.size + content.size).sum +
        (contents.map fun (name, _) => 46 + name.toUTF8.size).sum := by
    rw [← List.sum_map_add]
    congr 1
    refine List.map_congr_left fun named _ => ?_
    obtain ⟨name, content⟩ := named
    simp only
    omega
  rw [hend.size_eq, hcentrals.finish_eq, hlocals.finish_eq, hsum]
  omega

/-! ### Images of stored contents -/

/-- What both headers of a member tell. -/
def Member.headerFields (member : Member) : HeaderFields where
  flags := nameFlags member.name
  method := member.compression.method
  checksum := member.checksum.toNat
  packedSize := member.data.size
  size := member.size
  nameLength := (nameBytes member.name).length
  name := member.name.toUTF8

/-- The fields that both headers of a stored member share are those its content determines. -/
theorem headerFields_memberOf_stored (name : String) (content : ByteArray) :
    (memberOf name .stored content).headerFields = storedFields name content := by
  rw [Member.headerFields, storedFields]
  simp only [memberOf, nameBytes, Bytes.length_toList]
  rfl

/-- Where the common fields of a member stand behind its version, and its name, they are read. -/
theorem readAt_of_standsAt {bytes : ByteArray} {member : Member} {more : List (Nat × Nat)}
    {versionAt nameAt : Nat} (hfits : member.Fits)
    (hfields : Bytes.StandsAt bytes (Bytes.fields (member.commonFields ++ more)) versionAt)
    (hname : Bytes.StandsAt bytes (nameBytes member.name) nameAt) :
    HeaderFields.readAt bytes (versionAt + 2) nameAt = member.headerFields := by
  have hmethod : member.compression.method < 0x10000 :=
    Nat.lt_trans (method_lt_encryptionMethod _) (by decide)
  rw [Member.commonFields] at hfields
  simp only [List.cons_append, List.nil_append] at hfields
  have hflags : Bytes.number bytes (versionAt + 2) 2 = nameFlags member.name :=
    Bytes.number_of_standsAt_fields hfields 1 2 rfl (by simp) (nameFlags_lt _)
  have hmethodField : Bytes.number bytes (versionAt + 4) 2 = member.compression.method :=
    Bytes.number_of_standsAt_fields hfields 2 4 rfl (by simp) hmethod
  have hchecksum : Bytes.number bytes (versionAt + 10) 4 = member.checksum.toNat :=
    Bytes.number_of_standsAt_fields hfields 5 10 rfl (by simp) member.checksum.toNat_lt
  have hdata : Bytes.number bytes (versionAt + 14) 4 = member.data.size :=
    Bytes.number_of_standsAt_fields hfields 6 14 rfl (by simp) hfits.data
  have hsize : Bytes.number bytes (versionAt + 18) 4 = member.size :=
    Bytes.number_of_standsAt_fields hfields 7 18 rfl (by simp) hfits.size
  have hlength : Bytes.number bytes (versionAt + 22) 2 = (nameBytes member.name).length :=
    Bytes.number_of_standsAt_fields hfields 8 22 rfl (by simp) hfits.name
  have hrawName : Bytes.slice bytes nameAt (nameBytes member.name).length =
      member.name.toUTF8 := by
    rw [nameBytes, Bytes.length_toList]
    exact Bytes.slice_of_standsAt hname
  rw [HeaderFields.readAt, Member.headerFields]
  simp only [Nat.add_assoc, hflags, hmethodField, hchecksum, hdata, hsize, hlength, hrawName]

/-- Where a stored member stands, its local header is read and its data found behind. -/
theorem localAt_of_standsAt {bytes : ByteArray} {name : String} {content : ByteArray}
    {start : Nat} (hfits : (memberOf name .stored content).Fits)
    (h : Bytes.StandsAt bytes (memberOf name .stored content).block.data.toList start) :
    LocalAt bytes start name content := by
  rw [Member.block, ByteArray.toList_data_append, Bytes.standsAt_append,
    List.toList_data_toByteArray, length_localHeader] at h
  obtain ⟨hheader, hdata⟩ := h
  obtain ⟨hsignature, hfields⟩ := standsAt_localHeader hheader
  have hname := standsAt_localName hheader
  have hextra : Bytes.number bytes (start + 28) 2 = 0 :=
    Bytes.number_of_standsAt_fields hfields 9 24 rfl (by simp [Member.commonFields]) (by decide)
  have hlength : (nameBytes name).length = name.toUTF8.size := Bytes.length_toList _
  refine ⟨hsignature, ?_, hextra, ?_⟩
  · rw [← headerFields_memberOf_stored]
    exact readAt_of_standsAt hfits hfields hname
  · rw [Nat.add_assoc, ← hlength]
    exact Bytes.slice_of_standsAt hdata

/-- Where the central header of a stored member stands, it tells what the local header tells that
stands at the offset. -/
theorem centralAt_of_standsAt {bytes : ByteArray} {name : String} {content : ByteArray}
    {start place : Nat} (hfits : (memberOf name .stored content).Fits)
    (hplace : place < 0x100000000) (hlocal : LocalAt bytes place name content)
    (h : Bytes.StandsAt bytes ((memberOf name .stored content).centralHeader place) start) :
    CentralAt bytes start place := by
  obtain ⟨hsignature, hfields, hname⟩ := standsAt_centralHeader h
  have hoffset : Bytes.number bytes (start + 42) 4 = place :=
    Bytes.number_of_standsAt_fields hfields 15 38 rfl (by simp [Member.commonFields]) hplace
  have hextra : Bytes.number bytes (start + 30) 2 = 0 :=
    Bytes.number_of_standsAt_fields hfields 10 26 rfl (by simp [Member.commonFields]) (by decide)
  have hcomment : Bytes.number bytes (start + 32) 2 = 0 :=
    Bytes.number_of_standsAt_fields hfields 11 28 rfl (by simp [Member.commonFields]) (by decide)
  rw [List.cons_append, Bytes.fields_cons, Bytes.standsAt_append, Bytes.length_littleEndian]
    at hfields
  refine ⟨hsignature, hoffset, ?_, hextra, hcomment⟩
  rw [hlocal.fields, ← headerFields_memberOf_stored]
  exact readAt_of_standsAt hfits hfields.2 hname

section Image

variable {bytes : ByteArray} {contents : List (String × ByteArray)}

/-- Where stored members stand, their entries fill the bytes. -/
theorem localsTile_of_standsAt {start : Nat}
    (hfits : ∀ member ∈ membersOf .stored contents, member.Fits)
    (h : Bytes.StandsAt bytes (localPart (membersOf .stored contents)).data.toList start) :
    LocalsTile bytes start (start + (localPart (membersOf .stored contents)).size) contents := by
  induction contents generalizing start with
  | nil => rfl
  | cons named rest ih =>
      obtain ⟨name, content⟩ := named
      rw [membersOf_cons, List.forall_mem_cons] at hfits
      rw [membersOf_cons, localPart_cons, ByteArray.toList_data_append, Bytes.standsAt_append,
        Bytes.length_toList, Member.size_block, extent_memberOf_stored] at h
      have hrest := ih hfits.2 h.2
      rw [membersOf_cons, size_localPart_cons, extent_memberOf_stored]
      refine ⟨localAt_of_standsAt hfits.1 h.1, ?_⟩
      simpa only [Nat.add_assoc] using hrest

/-- Where the directory of stored members stands that fill the bytes from `place` on, their
central headers fill the bytes. -/
theorem centralsTile_of_standsAt {place start : Nat}
    (hfits : ∀ member ∈ membersOf .stored contents, member.Fits)
    (hlimit : place + (localPart (membersOf .stored contents)).size < 0x100000000)
    (hlocals : LocalsTile bytes place (place + (localPart (membersOf .stored contents)).size)
      contents)
    (h : Bytes.StandsAt bytes (directoryPart place (membersOf .stored contents)) start) :
    CentralsTile bytes place start
      (start + (directoryPart place (membersOf .stored contents)).length) contents := by
  induction contents generalizing place start with
  | nil => rfl
  | cons named rest ih =>
      obtain ⟨name, content⟩ := named
      have hheader : ((memberOf name .stored content).centralHeader place).length =
          46 + name.toUTF8.size := by
        rw [length_centralHeader, memberOf, nameBytes, Bytes.length_toList]
      -- `place` goes on by an entry with its data while `start` goes on by its central header
      have hplace : place + (localPart (membersOf .stored ((name, content) :: rest))).size =
          place + 30 + name.toUTF8.size + content.size +
            (localPart (membersOf .stored rest)).size := by
        rw [membersOf_cons, size_localPart_cons, extent_memberOf_stored]
        omega
      rw [hplace] at hlimit hlocals
      rw [membersOf_cons, List.forall_mem_cons] at hfits
      rw [membersOf_cons, directoryPart, extent_memberOf_stored, Bytes.standsAt_append,
        hheader] at h
      have hrest := ih hfits.2 hlimit hlocals.2 (by simpa only [Nat.add_assoc] using h.2)
      rw [membersOf_cons, directoryPart, extent_memberOf_stored, List.length_append, hheader]
      refine ⟨centralAt_of_standsAt hfits.1 (by omega) hlocals.1 h.1, ?_⟩
      simpa only [Nat.add_assoc] using hrest

end Image

/-- The image of stored contents, not too many and not too large, is consistent. -/
theorem consistent_encode {contents : List (String × ByteArray)}
    (hcount : contents.length < 0x10000)
    (hfits : ∀ member ∈ membersOf .stored contents, member.Fits)
    (hsize : (encode (membersOf .stored contents)).size < 0x100000000) :
    Consistent (encode (membersOf .stored contents)) contents := by
  rw [size_encode, endPosition] at hsize
  have hfront : (localPart (membersOf .stored contents)).size < 0x100000000 := by omega
  have hdirectory : (directoryPart 0 (membersOf .stored contents)).length < 0x100000000 := by
    omega
  have hlocals := localsTile_of_standsAt hfits (localPart_encode _)
  rw [Nat.zero_add] at hlocals
  have hcentrals := centralsTile_of_standsAt hfits (by omega)
    (by rwa [Nat.zero_add]) (directory_encode _)
  refine ⟨_, _, hlocals, hcentrals, ?_⟩
  have hend := endRecord_encode (membersOf .stored contents)
  have hlength : (membersOf .stored contents).length = contents.length := List.length_map _
  rw [endRecord, hlength, Bytes.standsAt_append] at hend
  obtain ⟨hsignature, hfields⟩ := hend
  rw [show endSignature.length = 4 from rfl] at hfields
  rw [endPosition] at hsignature hfields
  exact {
    signature := hsignature
    disks := ⟨Bytes.number_of_standsAt_fields hfields 0 0 rfl rfl (by decide),
      Bytes.number_of_standsAt_fields hfields 1 2 rfl rfl (by decide)⟩
    count := ⟨Bytes.number_of_standsAt_fields hfields 2 4 rfl rfl hcount,
      Bytes.number_of_standsAt_fields hfields 3 6 rfl rfl hcount⟩
    directorySize := by
      rw [Nat.add_sub_cancel_left]
      exact Bytes.number_of_standsAt_fields hfields 4 8 rfl rfl hdirectory
    directoryStart := Bytes.number_of_standsAt_fields hfields 5 12 rfl rfl hfront
    comment := Bytes.number_of_standsAt_fields hfields 6 16 rfl rfl (by decide)
    size_eq := by rw [size_encode, endPosition] }

/-- The image of the entries that got in, of not too many and with names that are not too long, is
consistent as long as it is not too large itself. -/
theorem Admits.consistent {fs : FileSystem} {entries : List Entry} {packing : Packing}
    {added : List Entry} {broken : Option Entry} (h : Admits fs entries packing added broken)
    (hcount : entries.length < 65535)
    (hlengths : ∀ entry ∈ entries, entry.name.toUTF8.size ≤ 65535)
    (hsize : (encode (membersOf .stored (admittedContents fs added broken))).size < 2 ^ 32 - 1) :
    Consistent (encode (membersOf .stored (admittedContents fs added broken)))
      (admittedContents fs added broken) := by
  have hfits : ∀ member ∈ membersOf .stored (admittedContents fs added broken), member.Fits := by
    intro member hmember
    obtain ⟨named, hnamed, rfl⟩ := List.mem_map.1 hmember
    obtain ⟨entry, hentry, rfl⟩ := List.mem_map.1 hnamed
    have hdata : (fs.bytesOf entry.source).size < 0x100000000 :=
      Nat.lt_trans (size_lt_size_encode_stored hnamed) (Nat.lt_trans hsize (by decide))
    have hname := hlengths entry (h.front.mem hentry)
    refine ⟨?_, hdata, hdata⟩
    rw [nameBytes, Bytes.length_toList]
    exact Nat.lt_succ_of_le hname
  have hfew : (admittedContents fs added broken).length < 0x10000 := by
    have hlength := h.front.length_le
    rw [admittedContents, namedContents, List.length_map]
    omega
  exact consistent_encode hfew hfits (Nat.lt_trans hsize (by decide))

end Archive

open Archive

/-- **Whatever becomes of a write, its archive is consistent.** When stored entries are written to
a file of their own, what is left holds exactly the entries that got in: those that have been
added, in order, each with the bytes of its source, and behind them a directory at which the write
stopped, without bytes. Both headers of each entry agree, the sums are those of its data, and the
end record tells number, place and size of the directory and ends the file. -/
theorem buildArchive_consistent {fs opened : FileSystem} {archive : String} {target : Location}
    {entries : List Entry}
    (hopen : fs.openForWriting archive = .ok (.file target, opened))
    (hcount : entries.length < 65535)
    (hlengths : ∀ entry ∈ entries, entry.name.toUTF8.size ≤ 65535)
    (hself : ∀ entry ∈ entries, ∀ object,
      opened.openForReading entry.source ≠ .ok (target, object))
    (harchive : ∀ bytes,
      (buildArchive fs archive entries .stored).files.contentOf archive = .ok bytes →
      bytes.size < 2 ^ 32 - 1) :
    let written := buildArchive fs archive entries .stored
    ∃ added broken bytes,
      (added ++ Option.toList broken <+: entries) ∧
      (∀ entry ∈ added, opened.contentOf entry.source = .ok (opened.bytesOf entry.source)) ∧
      (∀ entry ∈ broken, opened.contentOf entry.source = .error .isADirectory ∧
        written.result = .error (.file entry.source .isADirectory)) ∧
      written.added = added.map (fun entry => (entry, (opened.bytesOf entry.source).size)) ∧
      (written.result = .ok () ↔ added = entries) ∧
      written.files.contentOf archive = .ok bytes ∧
      Consistent bytes (admittedContents opened added broken) ∧
      bytes.size = 22 + ((added ++ Option.toList broken).map fun entry =>
        76 + 2 * entry.name.toUTF8.size + (opened.bytesOf entry.source).size).sum := by
  intro written
  obtain ⟨added, broken, hadmits, hmembers⟩ := exists_admits archive .stored [] hself
  rw [List.nil_append] at hmembers
  have hfile : written.files.contentOf archive =
      .ok (encode (membersOf .stored (admittedContents opened added broken))) := by
    rw [← hmembers]
    exact contentOf_buildArchive hopen
  have hconsistent := hadmits.consistent hcount hlengths (harchive _ hfile)
  have hwritten : written = _ :=
    (buildArchive_eq fs archive entries .stored).trans (writeArchive_of_openForWriting hopen rfl)
  refine ⟨added, broken, _, hadmits.front, hadmits.readable, ?_, ?_, ?_, hfile, hconsistent, ?_⟩
  · intro entry hentry
    obtain ⟨hdirectory, hfailure⟩ := hadmits.directory entry hentry
    rw [hwritten, hfailure]
    exact ⟨hdirectory, rfl⟩
  · rw [hwritten]
    exact hadmits.sizes
  · rw [← hadmits.complete, hwritten]
    cases (addEntries opened archive target .stored [] entries).failure <;> simp
  · rw [hconsistent.size_eq, admittedContents, namedContents, List.map_map]
    rfl

/-! ### A write that stops at a directory -/

/-- The write that stops at a directory leaves three consistent entries, the last of them empty, in
266 bytes. -/
theorem buildArchive_consistent_directory :
    let written := buildArchive brokenFiles "out.zip" brokenEntries .stored
    ∃ bytes, written.files.contentOf "out.zip" = .ok bytes ∧
      Consistent bytes [("x", ⟨#[0x50, 0x4B, 0x05, 0x06]⟩), ("é", ⟨#[0x50, 0x4B, 0x05, 0x06]⟩),
        ("y", ByteArray.empty)] ∧ bytes.size = 266 := by
  have hopen : brokenFiles.openForWriting "out.zip" =
      .ok (.file ["out.zip", "w"], brokenOpened) := rfl
  obtain ⟨added, broken, bytes, hfront, -, -, hsizes, -, hfile, hconsistent, hsize⟩ :=
    buildArchive_consistent hopen (by decide) (by decide) ne_of_openForReading_brokenOpened
      size_brokenArchive
  have hadded : added = [⟨"a", "x"⟩, ⟨"a", "é"⟩] := by
    have htold : (buildArchive brokenFiles "out.zip" brokenEntries .stored).added =
        [(⟨"a", "x"⟩, 4), (⟨"a", "é"⟩, 4)] := by decide +kernel
    have hfirst := congrArg (List.map Prod.fst) (hsizes.symm.trans htold)
    simpa [Function.comp_def] using hfirst
  have hbytes : bytes.size = 266 := by
    have hkept : ((buildArchive brokenFiles "out.zip" brokenEntries .stored).files.contentOf
        "out.zip").map ByteArray.size = .ok 266 := by decide +kernel
    rw [hfile] at hkept
    exact Except.ok.inj hkept
  subst hadded
  cases broken with
  | none =>
      rw [hbytes] at hsize
      exact absurd hsize (by decide +kernel)
  | some entry =>
      obtain rfl : entry = ⟨"d", "y"⟩ := by simpa [brokenEntries] using hfront
      exact ⟨bytes, hfile, hconsistent, hbytes⟩

end FixtureKit
