import FixtureKit.Proofs.Archive.Agreement

/-!
# How Long a Listing Can Be

The counts of an end record are not to be trusted: they may be larger than any file, and every
signature of an end record may bring other ones. A listing is short all the same. Whichever end
record is taken in the end, by its own fields or by a long one in front of it, and wherever it
finds the directory, each entry that is listed has been read from a central header of its own. The
headers stand one behind the other, and the last of them ends inside the file.

Nothing keeps a header from overlapping with other parts of the archive, the end record included.

## Main results

* `length_foldl_addListed_le`: entries that replace others do not make a directory longer.
* `length_directory_le`: a directory has no more entries than headers have room in the file.
* `listEntries_bounded`: the same for what is listed.
-/

namespace FixtureKit

namespace Archive

/-- An entry that replaces another one makes the directory no longer, and any other by one. -/
theorem length_addListed_le (entries : List Listed) (listed : Listed) :
    (addListed entries listed).length ≤ entries.length + 1 := by
  rw [addListed]
  split
  · rw [List.length_map]
    exact Nat.le_succ _
  · rw [List.length_append, List.length_singleton]

/-- There are no more entries than headers that they have been read from. -/
theorem length_foldl_addListed_le (entries headers : List Listed) :
    (headers.foldl addListed entries).length ≤ entries.length + headers.length := by
  induction headers generalizing entries with
  | nil => exact Nat.le_refl _
  | cons listed headers ih =>
      have hadded := length_addListed_le entries listed
      have hrest := ih (addListed entries listed)
      rw [List.foldl_cons, List.length_cons]
      omega

/-- A directory has no more entries than headers have room in the file. -/
theorem length_directory_le {bytes : ByteArray} {entries : List Listed}
    (h : directory bytes = .ok entries) : 46 * entries.length ≤ bytes.size := by
  obtain ⟨located, headers, hheaders, rfl⟩ := exists_readHeaders_of_directory h
  have hentries := length_foldl_addListed_le [] headers
  obtain ⟨hcount, hroom⟩ := length_readHeaders hheaders
  rw [List.length_nil, Nat.zero_add] at hentries hcount
  rcases hroom with hnone | hroom
  · omega
  · omega

/-- A listing is as long as the directory. -/
theorem length_listAll {bytes : ByteArray} {entries : List Listed} {infos : List EntryInfo}
    (h : listAll bytes entries = .ok infos) : infos.length = entries.length := by
  have hnames := congrArg List.length (listAll_eq_ok h).1
  rwa [List.length_map, List.length_map] at hnames

end Archive

open Archive

/-- **A listing is bounded by the file.** Whatever the bytes of an archive declare, each entry that
is listed takes up at least the forty-six bytes of a central header in it. -/
theorem listEntries_bounded {fs : FileSystem} {archive : String} {bytes : ByteArray}
    {infos : List EntryInfo} (hcontent : fs.contentOf archive = .ok bytes)
    (hlist : listEntries fs archive = .ok infos) : 46 * infos.length ≤ bytes.size := by
  cases hopen : openArchive fs archive with
  | error e => cases hlist.symm.trans (of_openArchive_error hopen).1
  | ok entries =>
      obtain ⟨found, hfound, hdirectory⟩ := contentOf_of_openArchive hopen
      obtain rfl : bytes = found := Except.ok.inj (hcontent.symm.trans hfound)
      have hinfos := (listEntries_eq_ok_iff hcontent hdirectory infos).1 hlist
      rw [length_listAll hinfos]
      exact length_directory_le hdirectory

/-! ### An archive in very few bytes

The end record stands inside the only central header and shares its bytes: its signature is the
size of the entry, and the number of entries on this disk is the length of the comment. In all it
claims to have 65534 entries. -/

/-- The start of a local header, a central header with the end record in it, and a comment. -/
def Archive.nestedImage : ByteArray :=
  (localSignature ++ centralSignature ++ Bytes.fields [(2, 0x030A), (2, 10), (2, 0), (2, 0),
    (2, 0), (2, 0x0021), (4, 0), (4, 0)] ++ endSignature ++
    Bytes.fields [(2, 0), (2, 0), (2, 1), (2, 0xFFFE), (4, 46), (4, 4), (2, 0)] ++
    [0x21]).toByteArray

/-- A working directory with that archive. -/
def Archive.nestedFiles : FileSystem where
  workingDirectory := ["w"]
  objects := [(["x.zip", "w"], .file nestedImage)]

/-- Of the 65534 entries that the record claims one is listed: fifty-one bytes have room for one
header. -/
theorem listEntries_bounded_nested :
    nestedImage.size = 51 ∧
      listEntries nestedFiles "x.zip" = .ok [⟨"", 0x06054B50⟩] ∧ 46 * 1 ≤ nestedImage.size := by
  have hcontent : nestedFiles.contentOf "x.zip" = .ok nestedImage := rfl
  have hlist : listEntries nestedFiles "x.zip" = .ok [⟨"", 0x06054B50⟩] := by
    rw [listEntries, hcontent]
    decide +kernel
  exact ⟨by decide +kernel, hlist, listEntries_bounded hcontent hlist⟩

end FixtureKit
