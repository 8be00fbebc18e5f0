import FixtureKit.Proofs.Archive.Headers

/-!
# Finding the Index of an Archive

The index of an archive is its directory with the end record behind it. It is looked for
from the end of the bytes: the search must skip whatever looks like an end record further
on, and from the true end record it must come to the true first central header, although
names and data may hold every signature there is.

`Indexed` says when this works out: the two parts stand in their places, and no end record
behind the true one can be taken. What stands between them is not mentioned, so the data
of the members, and bytes behind the archive, are free.

## Main results

* `findEnd_eq_ok`: the search answers the last end record that can be taken.
* `directory_of_indexed`: an indexed archive opens with its members, in order.
* `indexed_encode`: the image of members is indexed.
-/

namespace FixtureKit

/-! ### Searching for a signature -/

namespace Bytes

variable {bytes : ByteArray} {mark : List UInt8}

/-- Where a mark stands below `count`, the last such place is found. -/
theorem findLast_of_standsAt {count place : Nat} (hplace : place < count)
    (hstands : StandsAt bytes mark place) :
    ∃ last, findLast bytes mark count = some last ∧ place ≤ last := by
  induction count with
  | zero => omega
  | succ count ih =>
      rw [findLast]
      split
      · exact ⟨count, rfl, by omega⟩
      · next hmiss =>
          have hne : place ≠ count := by
            rintro rfl
            exact hmiss (hasAt_eq_true_iff.2 hstands)
          exact ih (by omega)

/-- A mark that stands at the first place of a search is found there. -/
theorem findFirst_of_standsAt {start count : Nat} (hcount : 0 < count)
    (hstands : StandsAt bytes mark start) : findFirst bytes mark start count = some start := by
  obtain ⟨count, rfl⟩ := Nat.exists_eq_succ_of_ne_zero (Nat.ne_of_gt hcount)
  rw [findFirst, if_pos (hasAt_eq_true_iff.2 hstands)]

end Bytes

namespace Archive

/-! ### The end record -/

/-- The search answers the last end record that can be taken, over all that stand behind it. -/
theorem findEnd_eq_ok {bytes : ByteArray} {count place : Nat} {recorded : Option FormatError}
    {located : Located} (hplace : place < count)
    (hstands : Bytes.StandsAt bytes endSignature place)
    (hread : readEndRecord bytes place = .ok located)
    (hlater : ∀ later, place < later → later < count →
      Bytes.StandsAt bytes endSignature later →
      ∃ refusal, readEndRecord bytes later = .error refusal) :
    findEnd bytes count recorded = .ok located := by
  fun_induction findEnd bytes count recorded with
  | case1 count recorded hnone =>
      obtain ⟨last, hlast, -⟩ := Bytes.findLast_of_standsAt hplace hstands
      rw [hlast] at hnone
      cases hnone
  | case2 count recorded last hfound found hok =>
      obtain ⟨_, hlast, hle⟩ := Bytes.findLast_of_standsAt hplace hstands
      obtain rfl := Option.some.inj (hlast.symm.trans hfound)
      obtain ⟨hbelow, hhas⟩ := Bytes.findLast_eq_some hfound
      rcases Nat.eq_or_lt_of_le hle with rfl | hbehind
      · rw [hread] at hok
        cases hok
        rfl
      · obtain ⟨refusal, hrefused⟩ :=
          hlater _ hbehind hbelow (Bytes.hasAt_eq_true_iff.1 hhas)
        rw [hrefused] at hok
        cases hok
  | case3 count recorded last hfound refusal herror ih =>
      obtain ⟨_, hlast, hle⟩ := Bytes.findLast_of_standsAt hplace hstands
      obtain rfl := Option.some.inj (hlast.symm.trans hfound)
      have hbelow := (Bytes.findLast_eq_some hfound).1
      rcases Nat.eq_or_lt_of_le hle with rfl | hbehind
      · rw [hread] at herror
        cases herror
      · exact ih hbehind fun later hfirst hsecond => hlater later hfirst (by omega)

/-- Where no end record can be taken, the search fails. -/
theorem exists_findEnd_eq_error {bytes : ByteArray} (count : Nat) (recorded : Option FormatError)
    (hrefused : ∀ place, Bytes.StandsAt bytes endSignature place →
      ∃ refusal, readEndRecord bytes place = .error refusal) :
    ∃ e, findEnd bytes count recorded = .error e := by
  fun_induction findEnd bytes count recorded with
  | case1 count recorded hnone => exact ⟨_, rfl⟩
  | case2 count recorded place hfound found hok =>
      have hstands := Bytes.hasAt_eq_true_iff.1 (Bytes.findLast_eq_some hfound).2
      obtain ⟨refusal, herror⟩ := hrefused place hstands
      rw [hok] at herror
      cases herror
  | case3 count recorded place hfound refusal herror ih => exact ih

/-- The parts of an end record stand one behind the other. -/
theorem standsAt_endRecord {bytes : ByteArray} {count size offset position : Nat}
    (h : Bytes.StandsAt bytes (endRecord count size offset) position) :
    Bytes.StandsAt bytes endSignature position ∧
      Bytes.StandsAt bytes
        (Bytes.fields [(2, 0), (2, 0), (2, count), (2, count), (4, size), (4, offset), (2, 0)])
        (position + 4) := by
  rw [endRecord, Bytes.standsAt_append] at h
  exact h

/-- An end record that stands, with numbers that are no placeholders, locates the directory by
itself. -/
theorem readEndRecord_of_standsAt {bytes : ByteArray} {count size offset position : Nat}
    {located : Located} (hcount : count < 0xFFFF) (hoffset : offset < 0xFFFFFFFF)
    (hstands : Bytes.StandsAt bytes (endRecord count size offset) position)
    (hlocate : locateShort bytes position count count offset true = .ok located) :
    readEndRecord bytes position = .ok located := by
  have hend := hstands.le_size (by simp [endRecord, endSignature])
  rw [length_endRecord] at hend
  obtain ⟨-, hfields⟩ := standsAt_endRecord hstands
  have hdisk : Bytes.number bytes (position + 4) 2 = 0 :=
    Bytes.number_of_standsAt_fields hfields 0 0 rfl (by simp) (by decide)
  have hdirectoryDisk : Bytes.number bytes (position + 6) 2 = 0 :=
    Bytes.number_of_standsAt_fields hfields 1 2 rfl (by simp) (by decide)
  have hcountHere : Bytes.number bytes (position + 8) 2 = count :=
    Bytes.number_of_standsAt_fields hfields 2 4 rfl (by simp) (Nat.lt_succ_of_lt hcount)
  have hcountField : Bytes.number bytes (position + 10) 2 = count :=
    Bytes.number_of_standsAt_fields hfields 3 6 rfl (by simp) (Nat.lt_succ_of_lt hcount)
  have hoffsetField : Bytes.number bytes (position + 16) 4 = offset :=
    Bytes.number_of_standsAt_fields hfields 5 12 rfl (by simp) (Nat.lt_succ_of_lt hoffset)
  have hcomment : Bytes.number bytes (position + 20) 2 = 0 :=
    Bytes.number_of_standsAt_fields hfields 6 16 rfl (by simp) (by decide)
  rw [readEndRecord]
  rw [if_neg (by omega)]
  simp only [hdisk, hdirectoryDisk, hcountHere, hcountField, hoffsetField, hcomment]
  rw [if_neg (by omega), if_neg (by omega)]
  simp only [beq_self_eq_true, hlocate]

/-! ### Indexed archives -/

/-- Members that an archive can hold: their names differ, and every number about them has room
in its field without being taken for a placeholder. -/
structure Holdable (members : List Member) : Prop where
  names : (members.map Member.name).Nodup
  fits : ∀ member ∈ members, member.Fits
  count : members.length < 0xFFFF
  size : (localPart members).size < 0xFFFFFFFF

/-- The directory of members and its end record stand in some bytes, and nothing behind can be
taken for an end record. -/
structure Indexed (bytes : ByteArray) (members : List Member) : Prop where
  directory : Bytes.StandsAt bytes (directoryPart 0 members) (localPart members).size
  endRecord : Bytes.StandsAt bytes
    (endRecord members.length (directoryPart 0 members).length (localPart members).size)
    (endPosition members)
  later : ∀ place, endPosition members < place → place + 3 < bytes.size →
    Bytes.StandsAt bytes endSignature place →
    ∃ refusal, readEndRecord bytes place = .error refusal

/-- What the end record of an archive says. -/
def locatedAt (members : List Member) : Located where
  position := endPosition members
  archiveOffset := 0
  directoryStart := (localPart members).size
  count := members.length
  consistent := true

/-- The true end record leads to the true directory: its first central header is the first one
behind all data. -/
theorem locateShort_of_indexed {bytes : ByteArray} {members : List Member}
    (hindexed : Indexed bytes members) :
    locateShort bytes (endPosition members) members.length members.length
      (localPart members).size true = .ok (locatedAt members) := by
  cases members with
  | nil => rfl
  | cons member members =>
      have hlength := length_directoryPart 0 (member :: members)
      have hdirectory := hindexed.directory
      rw [List.length_cons] at hlength
      rw [directoryPart, Bytes.standsAt_append] at hdirectory
      have hsignature := (standsAt_centralHeader hdirectory.1).1
      rw [locateShort]
      simp only
      rw [if_neg (by rw [List.length_cons]; omega), if_neg (by rw [endPosition]; omega),
        Bytes.findFirst_of_standsAt (by rw [endPosition]; omega) hsignature]
      simp only [Nat.sub_self, Nat.add_zero]
      rfl

/-! ### Opening -/

/-- Entries of different names are all kept, in order. -/
theorem foldl_addListed {entries others : List Listed}
    (h : ((entries ++ others).map Listed.name).Nodup) :
    others.foldl addListed entries = entries ++ others := by
  induction others generalizing entries with
  | nil => rw [List.foldl_nil, List.append_nil]
  | cons listed others ih =>
      have hfresh : entries.any (·.name = listed.name) = false := by
        rw [List.map_append, List.nodup_append] at h
        rw [List.any_eq_false]
        intro other hmem
        simp only [decide_eq_true_eq]
        exact h.2.2 _ (List.mem_map_of_mem hmem) _ (by simp)
      have hadd : addListed entries listed = entries ++ [listed] := by
        rw [addListed, hfresh]
        rfl
      rw [List.foldl_cons, hadd, ih (by rwa [List.append_assoc]), List.append_assoc,
        List.singleton_append]

/-- An indexed archive opens with its members, in order. -/
theorem directory_of_indexed {bytes : ByteArray} {members : List Member}
    (hholdable : Holdable members) (hindexed : Indexed bytes members) :
    directory bytes = .ok (listedFrom 0 members) := by
  have hend := hindexed.endRecord.le_size (by simp [endRecord, endSignature])
  rw [length_endRecord] at hend
  have hread := readEndRecord_of_standsAt hholdable.count hholdable.size hindexed.endRecord
    (locateShort_of_indexed hindexed)
  have hfound : findEnd bytes (bytes.size - 3) none = .ok (locatedAt members) :=
    findEnd_eq_ok (by omega) (standsAt_endRecord hindexed.endRecord).1 hread
      fun later hfirst hsecond => hindexed.later later hfirst (by omega)
  have hsize := hholdable.size
  have hheaders : readHeaders bytes (locatedAt members) members.length (localPart members).size
      [] = some ([].reverse ++ listedFrom (0 + 0) members) :=
    readHeaders_of_standsAt [] hholdable.fits (by omega) (by simp [locatedAt]) hindexed.directory
  have hentries : readDirectory bytes (locatedAt members) = some (listedFrom 0 members) := by
    have hnodup := hholdable.names
    rw [← map_name_listedFrom 0] at hnodup
    have hconsistent : (locatedAt members).consistent = true := rfl
    rw [readDirectory, if_pos hconsistent]
    change Option.map _ (readHeaders bytes _ members.length (localPart members).size []) = _
    rw [hheaders, Option.map_some, List.reverse_nil, List.nil_append, Nat.add_zero,
      foldl_addListed (by simpa using hnodup), List.nil_append]
  rw [directory, openBefore]
  split
  · next e herror => rw [hfound] at herror; cases herror
  · next located hok =>
      obtain rfl : locatedAt members = located := by rw [hfound] at hok; cases hok; rfl
      rw [hentries]

/-- Bytes in which no end record can be taken do not open. -/
theorem exists_directory_eq_error {bytes : ByteArray}
    (hrefused : ∀ place, Bytes.StandsAt bytes endSignature place →
      ∃ refusal, readEndRecord bytes place = .error refusal) :
    ∃ e, directory bytes = .error e := by
  obtain ⟨e, hfind⟩ := exists_findEnd_eq_error (bytes.size - 3) none hrefused
  refine ⟨e, ?_⟩
  rw [directory, openBefore]
  split
  · next cause herror => rw [hfind] at herror; cases herror; rfl
  · next located hok => rw [hfind] at hok; cases hok

/-- An end record with less than its length of bytes from its place on is refused. -/
theorem readEndRecord_of_cutShort {bytes : ByteArray} {place : Nat}
    (h : bytes.size < place + 22) :
    readEndRecord bytes place = .error (.cutShort (.io .shortRead)) := by
  rw [readEndRecord, if_pos h]

/-- Where the true end record is at the end of the bytes, one behind it would be cut short. -/
theorem readEndRecord_of_later {bytes : ByteArray} {members : List Member} {place : Nat}
    (hsize : bytes.size = (encode members).size) (hplace : endPosition members < place) :
    ∃ refusal, readEndRecord bytes place = .error refusal := by
  rw [size_encode] at hsize
  exact ⟨_, readEndRecord_of_cutShort (by omega)⟩

/-- Members can be held that have different names with room in their field, are not too many and
have an image that is not too large. -/
theorem holdable_of_size_encode {members : List Member} (hnames : (members.map Member.name).Nodup)
    (hlengths : ∀ member ∈ members, (nameBytes member.name).length ≤ 0xFFFF)
    (hsizes : ∀ member ∈ members, member.size < 0x100000000) (hcount : members.length < 0xFFFF)
    (hsize : (encode members).size < 0xFFFFFFFF) : Holdable members := by
  rw [size_encode, endPosition] at hsize
  refine ⟨hnames, ?_, hcount, by omega⟩
  intro member hmem
  have hextent : member.extent ≤ (localPart members).size := by
    obtain ⟨before, after, rfl⟩ := List.append_of_mem hmem
    rw [localPart_append, ByteArray.size_append, size_localPart_cons]
    omega
  rw [Member.extent_eq] at hextent
  exact ⟨Nat.lt_succ_of_le (hlengths member hmem), by omega, hsizes member hmem⟩

/-- The image of members is indexed. -/
theorem indexed_encode (members : List Member) : Indexed (encode members) members where
  directory := directory_encode members
  endRecord := endRecord_encode members
  later _ hplace _ _ := readEndRecord_of_later rfl hplace

end Archive

end FixtureKit
