import FixtureKit.Proofs.Archive.Agreement

/-!
# Sizes That Are Only Declared

The directory of an archive declares a size for every entry. A listing shows that size, and
reading takes it for the size of the buffer to make; neither compares it to the bytes. So
a declared size that no buffer can have is the end of the program, and any other is without
effect: what is read is decided by the data and its checksum alone.

## Main results

* `Finds.readEntry`: what reading comes to, by the entry that is found under the name.
* `readEntry_declared_size`: what a declared size can do to a reading, on every file.
* `delivers_declarations`: an archive can declare any sizes at all for what it gives back.
-/

namespace FixtureKit

namespace Archive

/-- Naming the archive in an error does not touch what is read. -/
theorem mapError_eq_ok_iff {path : String} {result : Except IoError ByteArray}
    {content : ByteArray} :
    result.mapError (ArchiveError.file path) = .ok content ↔ result = .ok content := by
  cases result with
  | error cause => simp [Except.mapError]
  | ok found => simp [Except.mapError]

/-- An error that names the archive comes from an error of the read, and from no other. -/
theorem mapError_eq_error_iff {path : String} {result : Except IoError ByteArray}
    {e : ArchiveError} :
    result.mapError (ArchiveError.file path) = .error e ↔
      ∃ cause, result = .error cause ∧ .file path cause = e := by
  cases result with
  | error cause => simp [Except.mapError]
  | ok found => simp [Except.mapError]

/-- A usable entry stands under a name in the archive at a path, its data starting at a place. -/
structure Finds (fs : FileSystem) (path name : String) (bytes : ByteArray) (listed : Listed)
    (start : Nat) : Prop where
  content : fs.contentOf path = .ok bytes
  entry : ∃ entries, directory bytes = .ok entries ∧ listed ∈ entries
  name : listed.name = name
  usable : dataStart bytes listed = .ok start

section Finding

variable {fs : FileSystem} {path name : String} {bytes : ByteArray} {listed : Listed} {start : Nat}

/-- What is read of an entry that is found. -/
theorem Finds.readEntry (h : Finds fs path name bytes listed start) :
    readEntry fs path name =
      if memoryLimit ≤ listed.size then .error .unallocatable
      else (entryContent bytes listed start).mapError (.file path) := by
  obtain ⟨hcontent, ⟨entries, hdirectory, hmem⟩, rfl, husable⟩ := h
  have hnames := nodup_directory hdirectory
  obtain ⟨before, after, rfl⟩ := List.append_of_mem hmem
  rw [FixtureKit.readEntry, hcontent]
  simp only [contentOfEntry, hdirectory, find?_name_of_nodup hnames, husable]
  split
  · rfl
  · cases entryContent bytes listed start <;> rfl

/-- Either an entry is found, or the archive or the name is refused before any size matters. -/
theorem exists_finds_or_error (fs : FileSystem) (path name : String) :
    (∃ bytes listed start, Finds fs path name bytes listed start) ∨
      ∃ e, FixtureKit.readEntry fs path name = .error e ∧ e.path = some path := by
  cases hcontent : fs.contentOf path with
  | error cause => exact .inr ⟨_, readEntry_error hcontent, rfl⟩
  | ok bytes =>
      rw [FixtureKit.readEntry, hcontent]
      simp only [contentOfEntry]
      cases hdirectory : directory bytes with
      | error cause => exact .inr ⟨_, rfl, rfl⟩
      | ok entries =>
          simp only
          cases hfind : entries.find? (·.name = name) with
          | none => exact .inr ⟨_, rfl, rfl⟩
          | some listed =>
              simp only
              have hname : listed.name = name := by simpa using List.find?_some hfind
              have hmem := List.mem_of_find?_eq_some hfind
              cases husable : dataStart bytes listed with
              | error cause => exact .inr ⟨_, rfl, rfl⟩
              | ok start =>
                  exact .inl ⟨bytes, listed, start, hcontent, ⟨entries, hdirectory, hmem⟩, hname,
                    husable⟩

/-- The program is given up exactly for an entry that declares a size that no buffer has. -/
theorem readEntry_eq_unallocatable_iff :
    FixtureKit.readEntry fs path name = .error .unallocatable ↔
      ∃ bytes listed start, Finds fs path name bytes listed start ∧
        memoryLimit ≤ listed.size := by
  constructor
  · intro h
    rcases exists_finds_or_error fs path name with
      ⟨bytes, listed, start, hfinds⟩ | ⟨e, herror, hpath⟩
    · refine ⟨bytes, listed, start, hfinds, ?_⟩
      by_contra hlimit
      rw [hfinds.readEntry, if_neg hlimit, mapError_eq_error_iff] at h
      obtain ⟨cause, -, hsame⟩ := h
      cases hsame
    · cases h.symm.trans herror
      cases hpath
  · rintro ⟨bytes, listed, start, hfinds, hlimit⟩
    rw [hfinds.readEntry, if_pos hlimit]

/-- All other failures name the archive. -/
theorem path_of_readEntry_eq_error {e : ArchiveError}
    (h : FixtureKit.readEntry fs path name = .error e) :
    e = .unallocatable ∨ e.path = some path := by
  rcases exists_finds_or_error fs path name with
    ⟨bytes, listed, start, hfinds⟩ | ⟨e', herror, hpath⟩
  · rw [hfinds.readEntry] at h
    split at h
    · cases h
      exact .inl rfl
    · obtain ⟨cause, -, rfl⟩ := mapError_eq_error_iff.1 h
      exact .inr rfl
  · cases h.symm.trans herror
    exact .inr hpath

/-- Bytes are what the data of an entry unpacks to, whatever size below the limit is declared. -/
theorem readEntry_eq_ok_iff {content : ByteArray} :
    FixtureKit.readEntry fs path name = .ok content ↔
      ∃ bytes listed start, Finds fs path name bytes listed start ∧
        listed.size < memoryLimit ∧ entryContent bytes listed start = .ok content := by
  constructor
  · intro h
    rcases exists_finds_or_error fs path name with
      ⟨bytes, listed, start, hfinds⟩ | ⟨e, herror, -⟩
    · refine ⟨bytes, listed, start, hfinds, ?_⟩
      rw [hfinds.readEntry] at h
      split at h
      · cases h
      · next hlimit => exact ⟨Nat.lt_of_not_le hlimit, mapError_eq_ok_iff.1 h⟩
    · cases h.symm.trans herror
  · rintro ⟨bytes, listed, start, hfinds, hlimit, hcontent⟩
    rw [hfinds.readEntry, if_neg (Nat.not_le_of_lt hlimit), hcontent]
    rfl

end Finding

/-- What a listing shows of an entry is what the directory declares. -/
theorem exists_listed_of_listAll {bytes : ByteArray} {entries : List Listed}
    {infos : List EntryInfo} (h : listAll bytes entries = .ok infos) :
    ∀ info ∈ infos, ∃ listed ∈ entries, info = ⟨listed.name, listed.size⟩ ∧
      ∃ start, dataStart bytes listed = .ok start := by
  fun_induction listAll bytes entries generalizing infos with
  | case1 =>
      cases h
      exact List.forall_mem_nil _
  | case2 => cases h
  | case3 => cases h
  | case4 listed rest start hstart infos hrest ih =>
      cases h
      intro info hmem
      rcases List.mem_cons.1 hmem with rfl | hmem
      · exact ⟨listed, List.mem_cons_self, rfl, start, hstart⟩
      · obtain ⟨other, hother, hinfo, husable⟩ := ih hrest info hmem
        exact ⟨other, List.mem_cons_of_mem listed hother, hinfo, husable⟩

/-- Each entry of a listing is found under its name, with the size that is listed. -/
theorem exists_finds_of_listEntries {fs : FileSystem} {path : String} {infos : List EntryInfo}
    (h : listEntries fs path = .ok infos) :
    ∀ info ∈ infos, ∃ bytes listed start,
      Finds fs path info.name bytes listed start ∧ info.size = listed.size := by
  intro info hmem
  cases hopen : openArchive fs path with
  | error e => cases h.symm.trans (of_openArchive_error hopen).1
  | ok entries =>
      obtain ⟨bytes, hcontent, hdirectory⟩ := contentOf_of_openArchive hopen
      have hlist := (listEntries_eq_ok_iff hcontent hdirectory infos).1 h
      obtain ⟨listed, hlisted, rfl, start, husable⟩ := exists_listed_of_listAll hlist info hmem
      exact ⟨bytes, listed, start, ⟨hcontent, ⟨entries, hdirectory, hlisted⟩, rfl, husable⟩, rfl⟩

end Archive

open Archive

/-- **What a declared size can do.** Reading an entry gives up the program exactly if the entry can
be used and declares a size that no buffer has; all other failures are errors that name the
archive. It gives bytes exactly if the declared size is below that and the data unpacks to them
with the right checksum, whatever the size is; and the declared size is what a listing shows. -/
theorem readEntry_declared_size (fs : FileSystem) (archive name : String) :
    (readEntry fs archive name = .error .unallocatable ↔
      ∃ bytes listed start, Finds fs archive name bytes listed start ∧
        memoryLimit ≤ listed.size) ∧
    (∀ e, readEntry fs archive name = .error e → e = .unallocatable ∨ e.path = some archive) ∧
    (∀ content, readEntry fs archive name = .ok content ↔
      ∃ bytes listed start, Finds fs archive name bytes listed start ∧
        listed.size < memoryLimit ∧ entryContent bytes listed start = .ok content) ∧
    ∀ infos, listEntries fs archive = .ok infos → ∀ info ∈ infos, info.name = name →
      ∃ bytes listed start, Finds fs archive name bytes listed start ∧
        info.size = listed.size := by
  refine ⟨readEntry_eq_unallocatable_iff, fun e => path_of_readEntry_eq_error,
    fun content => readEntry_eq_ok_iff, ?_⟩
  rintro infos hlist info hmem rfl
  exact exists_finds_of_listEntries hlist info hmem

/-! ### A forged archive

Two entries of three bytes with good checksums. The first says, in an extra field, that it is as
large as no buffer can be, and the second declares two bytes too many. -/

/-- The first entry, which holds what it says. -/
def Archive.honestMember : Member :=
  memberOf "a" .stored ⟨#[97, 98, 99]⟩

/-- The second entry, which says that it holds five bytes. -/
def Archive.boastfulMember : Member :=
  { memberOf "b" .stored ⟨#[97, 98, 99]⟩ with size := 5 }

/-- The central header of the first entry with the placeholder for its size, and the size that it
declares in an extra field. -/
def Archive.hugeHeader : List UInt8 :=
  centralSignature ++
    Bytes.fields
      ((2, hostSystem + Compression.stored.version) ::
        { honestMember with size := placeholder }.commonFields ++
          [(2, 12), (2, 0), (2, 0), (2, 0), (4, fileMode), (4, 0)]) ++
    nameBytes "a" ++ Bytes.fields [(2, 0x0001), (2, 8), (8, memoryLimit)]

/-- The archive of the two entries. -/
def Archive.forgedImage : ByteArray :=
  let front := localPart [honestMember, boastfulMember]
  let directory := hugeHeader ++ boastfulMember.centralHeader honestMember.extent
  front ++ directory.toByteArray ++ (endRecord 2 directory.length front.size).toByteArray

/-- A working directory with that archive. -/
def Archive.forgedFiles : FileSystem where
  workingDirectory := ["w"]
  objects := [(["x.zip", "w"], .file forgedImage)]

/-- Of two sizes that the directory overstates, the one beyond all memory stops the read of its
entry, and the other is listed and goes unnoticed. -/
theorem readEntry_forged :
    listEntries forgedFiles "x.zip" = .ok [⟨"a", 2 ^ 63⟩, ⟨"b", 5⟩] ∧
      readEntry forgedFiles "x.zip" "a" = .error .unallocatable ∧
      ∃ content, readEntry forgedFiles "x.zip" "b" = .ok content ∧ content.size = 3 := by
  have hfile : forgedFiles.contentOf "x.zip" = .ok forgedImage := rfl
  refine ⟨?_, ?_, ⟨#[97, 98, 99]⟩, ?_, rfl⟩
  · rw [listEntries, hfile]
    decide +kernel
  · rw [readEntry, hfile]
    decide +kernel
  · rw [readEntry, hfile]
    decide +kernel

namespace Archive

/-! ### Archives that declare any sizes -/

/-- A content under a name, and a size that is declared for it. -/
structure Declaration where
  name : String
  content : ByteArray
  size : Nat

/-- The member that holds a content and declares another size for it. -/
def Declaration.member (compression : Compression) (declaration : Declaration) : Member :=
  { memberOf declaration.name compression declaration.content with size := declaration.size }

/-- The declared size is no part of what unpacking looks at. -/
theorem entryContent_declaration {bytes : ByteArray} {compression : Compression}
    {declaration : Declaration} {place start : Nat}
    (hstands : Bytes.StandsAt bytes (declaration.member compression).data.data.toList start) :
    entryContent bytes ((declaration.member compression).listed place) start =
      .ok declaration.content := by
  have hsame : entryContent bytes ((declaration.member compression).listed place) start =
      entryContent bytes
        ((memberOf declaration.name compression declaration.content).listed place) start := rfl
  rw [hsame]
  exact entryContent_memberOf hstands

/-- Whatever sizes an archive declares, it lists them and gives the contents back. -/
theorem delivers_declarations {fs : FileSystem} {path : String} {compression : Compression}
    {declarations : List Declaration}
    (hholdable : Holdable (declarations.map (Declaration.member compression)))
    (hfile : fs.contentOf path =
      .ok (encode (declarations.map (Declaration.member compression)))) :
    listEntries fs path =
        .ok (declarations.map fun declaration => ⟨declaration.name, declaration.size⟩) ∧
      ∀ declaration ∈ declarations,
        readEntry fs path declaration.name = .ok declaration.content := by
  constructor
  · rw [listEntries, hfile]
    refine (infosOfEntries_of_headersStand path hholdable (indexed_encode _)
      (headersStand_encode _)).trans ?_
    rw [List.map_map]
    rfl
  · intro declaration hmem
    obtain ⟨before, after, rfl⟩ := List.append_of_mem hmem
    rw [readEntry, hfile]
    have hall :=
      localPart_encode ((before ++ declaration :: after).map (Declaration.member compression))
    rw [List.map_append, List.map_cons] at hholdable hall ⊢
    have hblock := standsAt_block hall
    rw [Nat.zero_add, Member.block, ByteArray.toList_data_append, Bytes.standsAt_append,
      List.toList_data_toByteArray] at hblock
    have hread : contentOfEntry path _ declaration.name = _ :=
      contentOfEntry_of_indexed hholdable (indexed_encode _) hblock.1
    rw [entryContent_declaration hblock.2] at hread
    exact hread

end Archive

end FixtureKit
