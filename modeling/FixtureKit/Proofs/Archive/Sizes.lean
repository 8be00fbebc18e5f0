import FixtureKit.Proofs.Archive.Contents

/-!
# How Large an Archive Gets

The size of an archive is that of its contents, however they are held, and of their names, which
stand in it twice, with a fixed number of bytes for every entry and for the archive as a whole.
Compression may lose: the data it makes is half as long again as the content at worst, and a little
more.

## Main results

* `size_localPart_membersOf_le`: how long the part in front of the directory is at most.
* `size_flushedPart`: how long it is when the header of one more entry has been written.
* `size_encode_membersOf_le`: how long a whole archive is at most.
* `size_localPart_membersOf_stored`: how long the part in front is when contents are stored.
-/

namespace FixtureKit

namespace Archive

/-- The number of bytes in the names of some contents. -/
def namesSize (contents : List (String × ByteArray)) : Nat :=
  (contents.map fun named => named.1.toUTF8.size).sum

/-- The number of bytes in some contents. -/
def contentsSize (contents : List (String × ByteArray)) : Nat :=
  (contents.map fun named => named.2.size).sum

section Sums

variable (name : String) (content : ByteArray) (contents more : List (String × ByteArray))

@[simp]
theorem namesSize_nil : namesSize [] = 0 := rfl

@[simp]
theorem contentsSize_nil : contentsSize [] = 0 := rfl

@[simp]
theorem namesSize_cons :
    namesSize ((name, content) :: contents) = name.toUTF8.size + namesSize contents := by
  rw [namesSize, List.map_cons, List.sum_cons, namesSize]

@[simp]
theorem contentsSize_cons :
    contentsSize ((name, content) :: contents) = content.size + contentsSize contents := by
  rw [contentsSize, List.map_cons, List.sum_cons, contentsSize]

/-- Names take what those of both parts take. -/
@[simp]
theorem namesSize_append :
    namesSize (contents ++ more) = namesSize contents + namesSize more := by
  rw [namesSize, List.map_append, List.sum_append, namesSize, namesSize]

/-- Contents take what those of both parts take. -/
@[simp]
theorem contentsSize_append :
    contentsSize (contents ++ more) = contentsSize contents + contentsSize more := by
  rw [contentsSize, List.map_append, List.sum_append, contentsSize, contentsSize]

end Sums

/-! ### Parts of an archive -/

/-- The data of a content is at most half as long again, and a little more. -/
theorem size_data_memberOf_le [Deflate.Encoder] [Deflate.Encoder.Lawful] (name : String)
    (compression : Compression) (content : ByteArray) :
    2 * (memberOf name compression content).data.size ≤ 3 * content.size + 256 := by
  cases compression with
  | stored =>
      change 2 * content.size ≤ _
      omega
  | deflated => exact Deflate.Encoder.Lawful.size_compress_le content

section Contents

variable [Deflate.Encoder] (compression : Compression) (contents : List (String × ByteArray))

/-- The part in front of the directory is not much longer than the contents and names. -/
theorem size_localPart_membersOf_le [Deflate.Encoder.Lawful] :
    2 * (localPart (membersOf compression contents)).size ≤
      316 * contents.length + 2 * namesSize contents + 3 * contentsSize contents := by
  induction contents with
  | nil => exact Nat.le_refl 0
  | cons named contents ih =>
      obtain ⟨name, content⟩ := named
      have hdata := size_data_memberOf_le name compression content
      have hname : (nameBytes (memberOf name compression content).name).length =
          name.toUTF8.size := Bytes.length_toList _
      rw [membersOf_cons, size_localPart_cons, Member.extent_eq, hname, List.length_cons,
        namesSize_cons, contentsSize_cons]
      omega

/-- What the archive file holds of some contents when the header of one more entry has reached
it. -/
def flushedPart (name : String) : ByteArray :=
  localPart (membersOf compression contents ++ [openMember name compression])

/-- The part of an archive that has been written when the header of a further entry is flushed: the
members before, and the header. -/
theorem size_flushedPart (name : String) :
    (flushedPart compression contents name).size =
      (localPart (membersOf compression contents)).size + (30 + name.toUTF8.size) := by
  have hname : (nameBytes (openMember name compression).name).length = name.toUTF8.size :=
    Bytes.length_toList _
  have hdata : (openMember name compression).data.size = 0 := rfl
  rw [flushedPart, localPart_append, ByteArray.size_append, size_localPart_cons, Member.extent_eq,
    hname, hdata, localPart_nil, ByteArray.size_empty, Nat.add_zero]

/-- The directory takes forty-six bytes for each piece of content, and its name. -/
theorem length_directoryPart_membersOf (offset : Nat) :
    (directoryPart offset (membersOf compression contents)).length =
      46 * contents.length + namesSize contents := by
  have hname : ∀ named : String × ByteArray, (nameBytes named.1).length = named.1.toUTF8.size :=
    fun _ => Bytes.length_toList _
  rw [length_directoryPart, membersOf, List.length_map, List.map_map, namesSize]
  simp only [Function.comp_def, memberOf, hname]

/-- An archive is not much larger than its contents and, twice, their names. -/
theorem size_encode_membersOf_le [Deflate.Encoder.Lawful] :
    2 * (encode (membersOf compression contents)).size ≤
      408 * contents.length + 4 * namesSize contents + 3 * contentsSize contents + 44 := by
  have hlocal := size_localPart_membersOf_le compression contents
  rw [size_encode, endPosition, length_directoryPart_membersOf]
  omega

end Contents

/-! ### Stored archives -/

section Stored

variable [Deflate.Encoder]

/-- A stored member takes its header, its name and its content. -/
theorem extent_memberOf_stored (name : String) (content : ByteArray) :
    (memberOf name .stored content).extent = 30 + name.toUTF8.size + content.size := by
  rw [Member.extent_eq, memberOf, nameBytes, Bytes.length_toList]

/-- Stored members take what their headers, names and contents take together. -/
theorem size_localPart_membersOf_stored (contents : List (String × ByteArray)) :
    (localPart (membersOf .stored contents)).size =
      (contents.map fun (name, content) => 30 + name.toUTF8.size + content.size).sum := by
  induction contents with
  | nil => rfl
  | cons named contents ih =>
      obtain ⟨name, content⟩ := named
      rw [membersOf_cons, size_localPart_cons, ih, extent_memberOf_stored, List.map_cons,
        List.sum_cons]

/-- A stored content is smaller than its archive. -/
theorem size_lt_size_encode_stored {contents : List (String × ByteArray)} {name : String}
    {content : ByteArray} (hmem : (name, content) ∈ contents) :
    content.size < (encode (membersOf .stored contents)).size := by
  obtain ⟨before, after, rfl⟩ := List.append_of_mem hmem
  rw [size_encode, endPosition, size_localPart_membersOf_stored, List.map_append, List.map_cons,
    List.sum_append, List.sum_cons]
  simp only
  omega

end Stored

end Archive

end FixtureKit
