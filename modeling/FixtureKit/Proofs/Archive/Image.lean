import FixtureKit.Archive.Write
import FixtureKit.Proofs.Bytes.Placement

/-!
# The Layout of an Archive

The encoder appends: members one behind the other, their central headers, and the end
record. This module takes the image apart again, without any reader in sight. A member
starts where the members in front of it end, so the local header of every member stands
at the offset that its central header tells, its data stands behind that header, and the
directory and the end record stand behind the last member.

## Main results

* `localPart_append`: the part in front of the directory splits along lists of members.
* `length_directoryPart`: how long the directory is.
* `headersStand_encode`: every local header stands at its offset.
* `standsAt_block`: where members stand, the header and the data of each of them do.
* `directory_encode`, `endRecord_encode`: the directory and the end record stand behind them.
-/

namespace FixtureKit

namespace Archive

/-! ### The part in front of the directory -/

/-- The bytes of a member in front of the directory. -/
def Member.block (member : Member) : ByteArray :=
  member.localHeader.toByteArray ++ member.data

/-- The bytes of a member are as many as its extent says. -/
theorem Member.size_block (member : Member) : member.block.size = member.extent := by
  rw [Member.block, ByteArray.size_append, List.size_toByteArray, Member.extent]

/-- The extent of a member is its header of thirty bytes, its name and its data. -/
theorem Member.extent_eq (member : Member) :
    member.extent = 30 + (nameBytes member.name).length + member.data.size := by
  rw [Member.extent, length_localHeader]

/-- Writing the headers and data of members one after the other appends the part in front of the
directory. -/
theorem foldl_block (members : List Member) (image : ByteArray) :
    members.foldl (fun image member => image ++ member.localHeader.toByteArray ++ member.data)
      image = image ++ localPart members := by
  induction members generalizing image with
  | nil => exact ByteArray.append_empty.symm
  | cons member members ih =>
      have hcons : localPart (member :: members) =
          ByteArray.empty ++ member.localHeader.toByteArray ++ member.data ++ localPart members :=
        ih _
      rw [List.foldl_cons, ih, hcons, ByteArray.empty_append]
      simp only [ByteArray.append_assoc]

@[simp]
theorem localPart_nil : localPart [] = ByteArray.empty := rfl

/-- The part in front of the directory starts with the bytes of the first member. -/
@[simp]
theorem localPart_cons (member : Member) (members : List Member) :
    localPart (member :: members) = member.block ++ localPart members := by
  rw [localPart, List.foldl_cons, foldl_block, ByteArray.empty_append, Member.block]

/-- The part in front of the directory splits along lists of members. -/
theorem localPart_append (first second : List Member) :
    localPart (first ++ second) = localPart first ++ localPart second := by
  induction first with
  | nil => exact ByteArray.empty_append.symm
  | cons member first ih =>
      rw [List.cons_append, localPart_cons, localPart_cons, ih, ByteArray.append_assoc]

/-- The first member takes its extent of the part in front of the directory. -/
theorem size_localPart_cons (member : Member) (members : List Member) :
    (localPart (member :: members)).size = member.extent + (localPart members).size := by
  rw [localPart_cons, ByteArray.size_append, Member.size_block]

/-! ### The directory -/

/-- Every member takes forty-six bytes in the directory, and its name. -/
theorem length_directoryPart (offset : Nat) (members : List Member) :
    (directoryPart offset members).length =
      46 * members.length + (members.map fun member => (nameBytes member.name).length).sum := by
  induction members generalizing offset with
  | nil => rfl
  | cons member members ih =>
      rw [directoryPart, List.length_append, length_centralHeader, ih, List.length_cons,
        List.map_cons, List.sum_cons]
      omega

/-! ### What stands where -/

/-- The local headers of members stand one behind the other, with room for the data between
them. -/
def HeadersStand (bytes : ByteArray) : (offset : Nat) → List Member → Prop
  | _, [] => True
  | offset, member :: members =>
    Bytes.StandsAt bytes member.localHeader offset ∧
      HeadersStand bytes (offset + member.extent) members

/-- The local headers of two lists of members stand one behind the other exactly if those of the
first do, and those of the second behind the bytes of the first. -/
theorem headersStand_append {bytes : ByteArray} {offset : Nat} {first second : List Member} :
    HeadersStand bytes offset (first ++ second) ↔
      HeadersStand bytes offset first ∧
        HeadersStand bytes (offset + (localPart first).size) second := by
  induction first generalizing offset with
  | nil => simp [HeadersStand]
  | cons member first ih =>
      rw [List.cons_append, HeadersStand, HeadersStand, ih, size_localPart_cons, and_assoc,
        Nat.add_assoc]

/-- Where the bytes of members stand, their local headers do. -/
theorem headersStand_of_standsAt {bytes : ByteArray} {offset : Nat} {members : List Member}
    (h : Bytes.StandsAt bytes (localPart members).data.toList offset) :
    HeadersStand bytes offset members := by
  induction members generalizing offset with
  | nil => trivial
  | cons member members ih =>
      rw [localPart_cons, ByteArray.toList_data_append, Bytes.standsAt_append,
        Bytes.length_toList, Member.size_block, Member.block, ByteArray.toList_data_append,
        Bytes.standsAt_append, List.toList_data_toByteArray] at h
      exact ⟨h.1.1, ih h.2⟩

/-- Where the bytes of members stand, those of each member do. -/
theorem standsAt_block {bytes : ByteArray} {offset : Nat} {before after : List Member}
    {member : Member}
    (h : Bytes.StandsAt bytes (localPart (before ++ member :: after)).data.toList offset) :
    Bytes.StandsAt bytes member.block.data.toList (offset + (localPart before).size) := by
  rw [localPart_append, localPart_cons, ByteArray.toList_data_append, Bytes.standsAt_append,
    ByteArray.toList_data_append, Bytes.standsAt_append, Bytes.length_toList] at h
  exact h.2.1

section Image

variable (members : List Member)

/-- Where the end record of an archive is. -/
def endPosition : Nat :=
  (localPart members).size + (directoryPart 0 members).length

/-- An archive is the members, the directory behind them, and the end record that says where the
directory is and how many members it has. -/
theorem toList_encode :
    (encode members).data.toList =
      (localPart members).data.toList ++ (directoryPart 0 members ++
        endRecord members.length (directoryPart 0 members).length (localPart members).size) := by
  rw [encode, ByteArray.toList_data_append, ByteArray.toList_data_append,
    List.toList_data_toByteArray, List.toList_data_toByteArray, List.append_assoc]

/-- An archive ends with its end record, which has no comment. -/
theorem size_encode : (encode members).size = endPosition members + 22 := by
  rw [← Bytes.length_toList, toList_encode]
  simp only [List.length_append, Bytes.length_toList, length_endRecord, endPosition]
  omega

/-- The members stand at the start of an archive. -/
theorem localPart_encode :
    Bytes.StandsAt (encode members) (localPart members).data.toList 0 :=
  Bytes.standsAt_of_eq ((toList_encode members).trans (List.nil_append _).symm) rfl

/-- Every local header stands at its offset. -/
theorem headersStand_encode : HeadersStand (encode members) 0 members :=
  headersStand_of_standsAt (localPart_encode members)

/-- The directory stands where the members end. -/
theorem directory_encode :
    Bytes.StandsAt (encode members) (directoryPart 0 members) (localPart members).size :=
  Bytes.standsAt_of_eq (toList_encode members) (Bytes.length_toList _).symm

/-- The end record stands behind the directory, and describes it. -/
theorem endRecord_encode :
    Bytes.StandsAt (encode members)
      (endRecord members.length (directoryPart 0 members).length (localPart members).size)
      (endPosition members) := by
  have heq : (encode members).data.toList =
      ((localPart members).data.toList ++ directoryPart 0 members) ++
        (endRecord members.length (directoryPart 0 members).length (localPart members).size ++
          []) := by
    rw [toList_encode, List.append_nil, List.append_assoc]
  refine Bytes.standsAt_of_eq heq ?_
  rw [List.length_append, Bytes.length_toList, endPosition]

end Image

end Archive

end FixtureKit
