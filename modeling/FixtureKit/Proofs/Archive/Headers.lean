import FixtureKit.Archive.Directory
import FixtureKit.Proofs.Archive.Image

/-!
# Reading Headers Back

A central header is read field by field at fixed distances from its signature, and the name
behind it is decoded by the flags that the writer derived from it. Where the header of a
member stands, all of this gives back what the member says, and a directory is read one
header after the other.

Offsets are told from the start of the archive; what stands in front of it shifts all of
them alike, so the lemmas carry the `archiveOffset` of the located directory.

## Main results

* `decodeText_nameFlags`: every name reads back, through either of the two alphabets.
* `readHeader_of_standsAt`: a central header that stands is read as its member.
* `readHeaders_of_standsAt`: a directory that stands is read as its members, in order.
-/

namespace FixtureKit

namespace Archive

/-! ### Names -/

/-- A character whose bytes are all in the lower half is written as its own number. -/
theorem map_decodeByte_utf8EncodeChar {c : Char}
    (h : ∀ b ∈ String.utf8EncodeChar c, b < 128) :
    (String.utf8EncodeChar c).map CodePage437.decodeByte = [c] := by
  have hsmall : c.toNat ≤ 127 := by
    refine Nat.le_of_not_lt fun hlarge => ?_
    obtain ⟨b, rest, hb, hhigh⟩ : ∃ b rest, String.utf8EncodeChar c = b :: rest ∧ 128 ≤ b := by
      fun_cases String.utf8EncodeChar c with
      | case1 v hv => exact absurd hv (Nat.not_le_of_lt hlarge)
      | _ =>
          refine ⟨_, _, rfl, ?_⟩
          rw [UInt8.le_iff_toNat_le, UInt8.toNat_ofNat']
          simp only [UInt8.reduceToNat]
          omega
    have hlow := h b (by rw [hb]; exact List.mem_cons_self)
    rw [UInt8.lt_iff_toNat_lt] at hlow
    rw [UInt8.le_iff_toNat_le] at hhigh
    omega
  have hone : c.utf8Size = 1 := by
    rw [Char.utf8Size_eq_one_iff, UInt32.le_iff_toNat_le]
    exact hsmall
  have hbyte : c.val.toUInt8.toNat = c.toNat := by
    have hval : c.val.toNat = c.toNat := rfl
    rw [UInt32.toNat_toUInt8]
    exact Nat.mod_eq_of_lt (by omega)
  have hlow : c.val.toUInt8 < 128 := by
    rw [UInt8.lt_iff_toNat_lt, hbyte]
    simp only [UInt8.reduceToNat]
    omega
  rw [String.utf8EncodeChar_eq_singleton hone, List.map_singleton,
    CodePage437.decode_ascii hlow, hbyte, Char.ofNat_toNat]

/-- The bytes of a name are those of its characters, one character behind the other. -/
theorem toList_toUTF8 (name : String) :
    name.toUTF8.data.toList = name.toList.flatMap String.utf8EncodeChar := by
  rw [String.toUTF8_eq_toByteArray,
    ← List.toList_data_toByteArray (l := name.toList.flatMap String.utf8EncodeChar)]
  conv => lhs; rw [← String.ofList_toList (s := name)]
  rfl

/-- A name without bytes of the upper half reads back from the old alphabet. -/
theorem decode_of_lower {name : String} (h : (nameBytes name).all (· < 128) = true) :
    CodePage437.decode name.toUTF8 = name := by
  rw [nameBytes, toList_toUTF8, List.all_flatMap, List.all_eq_true] at h
  rw [CodePage437.decode, toList_toUTF8]
  conv => rhs; rw [← String.ofList_toList (s := name)]
  congr 1
  generalize name.toList = chars at h
  induction chars with
  | nil => rfl
  | cons c chars ih =>
      have hlower : ∀ b ∈ String.utf8EncodeChar c, b < 128 := fun b hb => by
        simpa using List.all_eq_true.1 (h c List.mem_cons_self) b hb
      rw [List.flatMap_cons, List.map_append, map_decodeByte_utf8EncodeChar hlower,
        ih fun d hd => h d (List.mem_cons_of_mem c hd)]
      rfl

/-- A name reads back by way of the flags that it gets. -/
theorem decodeText_nameFlags (name : String) :
    decodeText (nameFlags name) name.toUTF8 = name := by
  rw [decodeText, nameFlags]
  split
  · next h => rw [if_neg (by decide), decode_of_lower h]
  · rw [if_pos (by decide), Utf8.decodeLossy_toUTF8]

/-- The flags of a name fit their two bytes. -/
theorem nameFlags_lt (name : String) : nameFlags name < 0x10000 := by
  rw [nameFlags]
  split <;> decide

/-- The flags of a name never say that the entry is encrypted. -/
theorem nameFlags_even (name : String) : nameFlags name % 2 = 0 := by
  rw [nameFlags]
  split <;> rfl

/-! ### One central header -/

/-- Whether what a member says has room in the fields of its headers. -/
structure Member.Fits (member : Member) : Prop where
  name : (nameBytes member.name).length < 0x10000
  data : member.data.size < 0x100000000
  size : member.size < 0x100000000

/-- What a directory tells of a member whose local header is at `place`. -/
def Member.listed (member : Member) (place : Nat) : Listed where
  name := member.name
  flags := nameFlags member.name
  method := member.compression.method
  checksum := member.checksum.toNat
  compressedSize := member.data.size
  size := member.size
  headerStart := place
  isEncrypted := false

/-- Neither compression method is taken for the one that marks an encrypted entry. -/
theorem method_lt_encryptionMethod (compression : Compression) :
    compression.method < encryptionMethod := by
  cases compression <;> decide

/-- The parts of a central header stand one behind the other. -/
theorem standsAt_centralHeader {bytes : ByteArray} {member : Member} {offset position : Nat}
    (h : Bytes.StandsAt bytes (member.centralHeader offset) position) :
    Bytes.StandsAt bytes centralSignature position ∧
      Bytes.StandsAt bytes
        (Bytes.fields
          ((2, hostSystem + member.compression.version) :: member.commonFields ++
            [(2, 0), (2, 0), (2, 0), (2, 0), (4, fileMode), (4, offset)])) (position + 4) ∧
      Bytes.StandsAt bytes (nameBytes member.name) (position + 46) := by
  rw [Member.centralHeader, Bytes.standsAt_append, Bytes.standsAt_append, List.length_append,
    Bytes.length_fields] at h
  obtain ⟨⟨hsignature, hfields⟩, hname⟩ := h
  exact ⟨hsignature, hfields, by simpa [centralSignature, Member.commonFields] using hname⟩

/-- A central header that stands is read as its member, and the next one is looked for behind
its name. -/
theorem readHeader_of_standsAt {bytes : ByteArray} {located : Located} {member : Member}
    {offset position : Nat} (hfits : member.Fits) (hoffset : offset < 0x100000000)
    (hstands : Bytes.StandsAt bytes (member.centralHeader offset) position)
    (hstart : offset + located.archiveOffset < located.directoryStart) :
    readHeader bytes located position =
      some (member.listed (offset + located.archiveOffset),
        position + (member.centralHeader offset).length) := by
  have hend := hstands.le_size (by simp [Member.centralHeader, centralSignature])
  have hmethod := method_lt_encryptionMethod member.compression
  rw [length_centralHeader] at hend ⊢
  obtain ⟨hsignature, hfields, hname⟩ := standsAt_centralHeader hstands
  rw [Member.commonFields] at hfields
  simp only [List.cons_append, List.nil_append] at hfields
  -- the fields that are read, by their numbers in the row and the bytes in front of them
  have hflags : Bytes.number bytes (position + 8) 2 = nameFlags member.name :=
    Bytes.number_of_standsAt_fields hfields 2 4 rfl (by simp) (nameFlags_lt _)
  have hmethodField : Bytes.number bytes (position + 10) 2 = member.compression.method :=
    Bytes.number_of_standsAt_fields hfields 3 6 rfl (by simp) (Nat.lt_trans hmethod (by decide))
  have hchecksum : Bytes.number bytes (position + 16) 4 = member.checksum.toNat :=
    Bytes.number_of_standsAt_fields hfields 6 12 rfl (by simp) member.checksum.toNat_lt
  have hdata : Bytes.number bytes (position + 20) 4 = member.data.size :=
    Bytes.number_of_standsAt_fields hfields 7 16 rfl (by simp) hfits.data
  have hsize : Bytes.number bytes (position + 24) 4 = member.size :=
    Bytes.number_of_standsAt_fields hfields 8 20 rfl (by simp) hfits.size
  have hlength : Bytes.number bytes (position + 28) 2 = (nameBytes member.name).length :=
    Bytes.number_of_standsAt_fields hfields 9 24 rfl (by simp) hfits.name
  have hextra : Bytes.number bytes (position + 30) 2 = 0 :=
    Bytes.number_of_standsAt_fields hfields 10 26 rfl (by simp) (by decide)
  have hcomment : Bytes.number bytes (position + 32) 2 = 0 :=
    Bytes.number_of_standsAt_fields hfields 11 28 rfl (by simp) (by decide)
  have hplace : Bytes.number bytes (position + 42) 4 = offset :=
    Bytes.number_of_standsAt_fields hfields 15 38 rfl (by simp) hoffset
  have hrawName : Bytes.slice bytes (position + 46) (nameBytes member.name).length =
      member.name.toUTF8 := by
    rw [nameBytes, Bytes.length_toList]
    exact Bytes.slice_of_standsAt hname
  have hhas := Bytes.hasAt_eq_true_iff.2 hsignature
  rw [readHeader]
  rw [if_neg (by rw [hhas]; simp only [Bool.true_eq_false, or_false]; omega)]
  simp only [hflags, hmethodField, hchecksum, hdata, hsize, hlength, hextra, hcomment, hplace,
    hrawName, decodeText_nameFlags, Bytes.slice_zero, parseExtra_empty, Nat.add_zero]
  rw [if_neg (by omega), if_neg (by omega), if_neg (by omega), Nat.add_assoc]
  rfl

/-! ### The directory -/

/-- What a directory tells of members, the first of which has its local header at `place`. -/
def listedFrom : (place : Nat) → List Member → List Listed
  | _, [] => []
  | place, member :: members =>
    member.listed place :: listedFrom (place + member.extent) members

/-- What a directory lists splits along lists of members. The second part starts where the members
of the first end. -/
theorem listedFrom_append (place : Nat) (first second : List Member) :
    listedFrom place (first ++ second) =
      listedFrom place first ++ listedFrom (place + (localPart first).size) second := by
  induction first generalizing place with
  | nil => rfl
  | cons member first ih =>
      rw [List.cons_append, listedFrom, listedFrom, ih, size_localPart_cons, List.cons_append,
        Nat.add_assoc]

/-- A directory lists its members under their names, wherever they start. -/
theorem map_name_listedFrom (place : Nat) (members : List Member) :
    (listedFrom place members).map Listed.name = members.map Member.name := by
  induction members generalizing place with
  | nil => rfl
  | cons member members ih =>
      rw [listedFrom, List.map_cons, List.map_cons, ih]
      rfl

/-- A directory that stands is read as its members, in order: every header is found where the
one in front of it ends. -/
theorem readHeaders_of_standsAt {bytes : ByteArray} {located : Located} {members : List Member}
    {offset position : Nat} (reversed : List Listed)
    (hfits : ∀ member ∈ members, member.Fits)
    (hoffset : offset + (localPart members).size < 0x100000000)
    (hstart : offset + (localPart members).size + located.archiveOffset ≤
      located.directoryStart)
    (hstands : Bytes.StandsAt bytes (directoryPart offset members) position) :
    readHeaders bytes located members.length position reversed =
      some (reversed.reverse ++ listedFrom (offset + located.archiveOffset) members) := by
  induction members generalizing offset position reversed with
  | nil => rw [List.length_nil, readHeaders, listedFrom, List.append_nil]
  | cons member members ih =>
      have hextent := member.extent_eq
      rw [size_localPart_cons] at hoffset hstart
      rw [directoryPart, Bytes.standsAt_append] at hstands
      have hread : readHeader bytes located position = some (_, _) :=
        readHeader_of_standsAt (hfits member List.mem_cons_self) (by omega) hstands.1 (by omega)
      have hrest (reversed : List Listed) :=
        ih reversed (fun other h => hfits other (List.mem_cons_of_mem member h)) (by omega)
          (by omega) hstands.2
      rw [List.length_cons, readHeaders, hread]
      refine (hrest _).trans ?_
      rw [List.reverse_cons, listedFrom, List.append_assoc, List.singleton_append,
        Nat.add_right_comm]

end Archive

end FixtureKit
