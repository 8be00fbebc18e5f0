import FixtureKit.Proofs.Archive.Contents
import Mathlib.Data.List.Nodup

/-!
# Listing and Reading Agree

A listing walks the directory of an archive by index, and a reading looks an entry up by its
name. On any bytes at all the two tell the same story: both come to the same directory, in
which no name stands twice, and both look at the local header of an entry in the same way.
The listing fails with what the reading of the first unusable entry fails with, and lists
the whole directory if there is no such entry.

Faults that show only when data is unpacked are none of the listing's concern, and they are
no errors of the format.

## Main results

* `nodup_directory`: no name stands twice in the directory of an archive.
* `contentOfEntry_eq_format_iff`: reading an entry fails by its format as its local header does.
* `listEntries_agrees_readEntry`: listing and reading agree on every file.
-/

namespace FixtureKit

namespace Archive

/-! ### The directory -/

/-- An entry takes the place of the one with its name, or stands behind all others. -/
theorem nodup_addListed {entries : List Listed} (listed : Listed)
    (h : (entries.map Listed.name).Nodup) : ((addListed entries listed).map Listed.name).Nodup := by
  rw [addListed]
  split
  · have hnames : (entries.map fun other => if other.name = listed.name then listed else other).map
        Listed.name = entries.map Listed.name := by
      rw [List.map_map]
      refine List.map_congr_left fun other _ => ?_
      simp only [Function.comp_apply]
      split
      · next heq => exact heq.symm
      · rfl
    rwa [hnames]
  · next hnone =>
      have hnew : listed.name ∉ entries.map Listed.name := by
        intro hmem
        obtain ⟨found, hfound, hname⟩ := List.mem_map.1 hmem
        exact hnone (List.any_eq_true.2 ⟨found, hfound, by simpa using hname⟩)
      rw [List.map_append, List.map_singleton, ← List.concat_eq_append]
      exact List.Nodup.concat hnew h

/-- However many headers of one name are read, each name is listed once: a later header takes the
place of the earlier one. -/
theorem nodup_foldl_addListed {entries others : List Listed}
    (h : (entries.map Listed.name).Nodup) :
    ((others.foldl addListed entries).map Listed.name).Nodup := by
  induction others generalizing entries with
  | nil => exact h
  | cons listed others ih => exact ih (nodup_addListed listed h)

/-- The directory of an archive is made of headers that have been read by one of its end records,
whichever of them that was. -/
theorem exists_readHeaders_of_directory {bytes : ByteArray} {entries : List Listed}
    (h : directory bytes = .ok entries) :
    ∃ located headers,
      readHeaders bytes located located.count located.directoryStart [] = some headers ∧
        entries = headers.foldl addListed [] := by
  rw [directory] at h
  generalize bytes.size = stop at h
  fun_induction openBefore bytes stop with
  | case1 => cases h
  | case2 stop located _ found hread =>
      cases h
      rw [readDirectory] at hread
      split at hread
      · obtain ⟨headers, hheaders, rfl⟩ := Option.map_eq_some_iff.1 hread
        exact ⟨located, headers, hheaders, rfl⟩
      · cases hread
  | case3 _ _ _ _ ih => exact ih h

/-- No name stands twice in the directory of an archive, also if its bytes repeat one. -/
theorem nodup_directory {bytes : ByteArray} {entries : List Listed}
    (h : directory bytes = .ok entries) : (entries.map Listed.name).Nodup := by
  obtain ⟨located, headers, -, rfl⟩ := exists_readHeaders_of_directory h
  exact nodup_foldl_addListed List.nodup_nil

/-! ### Walking it -/

/-- A listing is that of the whole directory, each entry of which can be used. -/
theorem listAll_eq_ok {bytes : ByteArray} {entries : List Listed} {infos : List EntryInfo}
    (h : listAll bytes entries = .ok infos) :
    infos.map EntryInfo.name = entries.map Listed.name ∧
      ∀ listed ∈ entries, ∃ start, dataStart bytes listed = .ok start := by
  fun_induction listAll bytes entries generalizing infos with
  | case1 =>
      cases h
      exact ⟨rfl, nofun⟩
  | case2 => cases h
  | case3 => cases h
  | case4 listed rest start hstart infos hrest ih =>
      cases h
      obtain ⟨hnames, hall⟩ := ih hrest
      rw [List.map_cons, List.map_cons, hnames]
      exact ⟨rfl, List.forall_mem_cons.2 ⟨⟨start, hstart⟩, hall⟩⟩

/-- A listing fails as the first entry does that cannot be used. -/
theorem listAll_eq_error {bytes : ByteArray} {entries : List Listed} {cause : FormatError}
    (h : listAll bytes entries = .error cause) :
    ∃ before listed after, entries = before ++ listed :: after ∧
      (∀ other ∈ before, ∃ start, dataStart bytes other = .ok start) ∧
      dataStart bytes listed = .error cause := by
  fun_induction listAll bytes entries with
  | case1 => cases h
  | case2 listed rest cause' hstart =>
      cases h
      exact ⟨[], listed, rest, rfl, nofun, hstart⟩
  | case3 listed rest start hstart cause' hrest ih =>
      cases h
      obtain ⟨before, other, after, rfl, hbefore, hother⟩ := ih hrest
      exact ⟨listed :: before, other, after, rfl,
        List.forall_mem_cons.2 ⟨⟨start, hstart⟩, hbefore⟩, hother⟩
  | case4 => cases h

/-! ### Looking up a name -/

/-- Reading an entry fails by its format exactly as its local header does. -/
theorem contentOfEntry_eq_format_iff {path : String} {bytes : ByteArray}
    {entries : List Listed} (hdirectory : directory bytes = .ok entries) {listed : Listed}
    (hmem : listed ∈ entries) (cause : FormatError) :
    contentOfEntry path bytes listed.name = .error (.format path cause) ↔
      dataStart bytes listed = .error cause := by
  have hnames := nodup_directory hdirectory
  obtain ⟨before, after, rfl⟩ := List.append_of_mem hmem
  rw [contentOfEntry, hdirectory]
  simp only [find?_name_of_nodup hnames]
  cases dataStart bytes listed with
  | error other => simp
  | ok start =>
      simp only [reduceCtorEq, iff_false]
      split
      · simp
      · cases entryContent bytes listed start <;> simp

/-- Two first failures in a row of names are the same one. -/
theorem eq_of_first {names before before' after after' : List String} {name name' : String}
    {Fails : String → Prop} (h : names = before ++ name :: after)
    (h' : names = before' ++ name' :: after') (hname : Fails name) (hname' : Fails name')
    (hbefore : ∀ other ∈ before, ¬Fails other) (hbefore' : ∀ other ∈ before', ¬Fails other) :
    name = name' := by
  subst h
  induction before generalizing before' with
  | nil =>
      cases before' with
      | nil => exact (List.cons.inj h').1
      | cons other before' =>
          obtain ⟨rfl, -⟩ := List.cons.inj h'
          exact absurd hname (hbefore' _ List.mem_cons_self)
  | cons other before ih =>
      cases before' with
      | nil =>
          obtain ⟨rfl, -⟩ := List.cons.inj h'
          exact absurd hname' (hbefore _ List.mem_cons_self)
      | cons other' before' =>
          exact ih (fun x hx => hbefore x (List.mem_cons_of_mem _ hx))
            (fun x hx => hbefore' x (List.mem_cons_of_mem _ hx)) (List.cons.inj h').2

/-! ### Whole files -/

/-- What opening the archive at a path comes to: the entries of its directory, or the reason why
it has none. -/
def openArchive (fs : FileSystem) (path : String) : Except ArchiveError (List Listed) :=
  match fs.contentOf path with
  | .error cause => .error (.file path cause)
  | .ok bytes => (directory bytes).mapError (.format path)

/-- Whether reading the entry of a name fails by the format of the archive. -/
def FormatFails (fs : FileSystem) (path name : String) : Prop :=
  ∃ cause, readEntry fs path name = .error (.format path cause)

/-- An archive that opens is a file that can be read, and its directory is the one its bytes
hold. -/
theorem contentOf_of_openArchive {fs : FileSystem} {path : String} {entries : List Listed}
    (h : openArchive fs path = .ok entries) :
    ∃ bytes, fs.contentOf path = .ok bytes ∧ directory bytes = .ok entries := by
  rw [openArchive] at h
  split at h
  · cases h
  · next bytes hcontent =>
      refine ⟨bytes, hcontent, ?_⟩
      cases hdirectory : directory bytes with
      | error cause => rw [hdirectory] at h; cases h
      | ok found => rw [hdirectory] at h; cases h; rfl

/-- An archive that cannot be opened fails alike for listing and reading. -/
theorem of_openArchive_error {fs : FileSystem} {path : String} {e : ArchiveError}
    (h : openArchive fs path = .error e) :
    listEntries fs path = .error e ∧ ∀ name, readEntry fs path name = .error e := by
  rw [openArchive] at h
  split at h
  · next cause hcontent =>
      cases h
      exact ⟨listEntries_error hcontent, fun name => readEntry_error hcontent⟩
  · next bytes hcontent =>
      cases hdirectory : directory bytes with
      | error cause =>
          rw [hdirectory] at h
          cases h
          refine ⟨?_, fun name => ?_⟩
          · rw [listEntries, hcontent]
            simp only [infosOfEntries, hdirectory]
          · rw [readEntry, hcontent]
            simp only [contentOfEntry, hdirectory]
      | ok entries => rw [hdirectory] at h; cases h

section Opened

variable {fs : FileSystem} {path : String} {bytes : ByteArray} {entries : List Listed}
  (hcontent : fs.contentOf path = .ok bytes) (hdirectory : directory bytes = .ok entries)

include hcontent hdirectory

/-- That an entry fails for its format says that the bytes do not lead to its data. -/
theorem formatFails_iff {listed : Listed} (hmem : listed ∈ entries) :
    FormatFails fs path listed.name ↔ ∃ cause, dataStart bytes listed = .error cause := by
  rw [FormatFails, readEntry, hcontent]
  simp only [contentOfEntry_eq_format_iff hdirectory hmem]

/-- An archive that opens is listed exactly if each of its entries leads to its data. -/
theorem listEntries_eq_ok_iff (infos : List EntryInfo) :
    listEntries fs path = .ok infos ↔ listAll bytes entries = .ok infos := by
  rw [listEntries, hcontent]
  simp only [infosOfEntries, hdirectory]
  cases listAll bytes entries <;> simp

/-- A listing that fails does so by the format, as the reading of the first entry does that
fails by it. -/
theorem exists_first_of_listAll_error {cause : FormatError}
    (h : listAll bytes entries = .error cause) :
    ∃ before name after, entries.map Listed.name = before ++ name :: after ∧
      (∀ other ∈ before, ¬FormatFails fs path other) ∧
      readEntry fs path name = .error (.format path cause) ∧
      listEntries fs path = .error (.format path cause) := by
  obtain ⟨before, listed, after, rfl, hbefore, hlisted⟩ := listAll_eq_error h
  refine ⟨before.map Listed.name, listed.name, after.map Listed.name,
    by rw [List.map_append, List.map_cons], ?_, ?_, ?_⟩
  · intro name hname
    obtain ⟨other, hother, rfl⟩ := List.mem_map.1 hname
    rw [formatFails_iff hcontent hdirectory (List.mem_append_left _ hother)]
    obtain ⟨start, hstart⟩ := hbefore other hother
    simp [hstart]
  · rw [readEntry, hcontent]
    exact (contentOfEntry_eq_format_iff hdirectory (by simp) cause).2 hlisted
  · rw [listEntries, hcontent]
    simp only [infosOfEntries, hdirectory, h]

/-- The listing succeeds exactly if no reading fails by the format. -/
theorem exists_listEntries_iff :
    (∃ infos, listEntries fs path = .ok infos) ↔
      ∀ name ∈ entries.map Listed.name, ¬FormatFails fs path name := by
  simp only [listEntries_eq_ok_iff hcontent hdirectory]
  constructor
  · rintro ⟨infos, hinfos⟩ name hname
    obtain ⟨listed, hmem, rfl⟩ := List.mem_map.1 hname
    rw [formatFails_iff hcontent hdirectory hmem]
    obtain ⟨start, hstart⟩ := (listAll_eq_ok hinfos).2 listed hmem
    simp [hstart]
  · intro hnone
    cases hlist : listAll bytes entries with
    | ok infos => exact ⟨infos, rfl⟩
    | error cause =>
        obtain ⟨before, name, after, hsplit, -, hname, -⟩ :=
          exists_first_of_listAll_error hcontent hdirectory hlist
        exact absurd ⟨cause, hname⟩ (hnone name (by rw [hsplit]; simp))

/-- The listing fails as the first reading does that fails by the format. -/
theorem listEntries_of_first {before after : List String} {name : String} {cause : FormatError}
    (hsplit : entries.map Listed.name = before ++ name :: after)
    (hbefore : ∀ other ∈ before, ¬FormatFails fs path other)
    (hname : readEntry fs path name = .error (.format path cause)) :
    listEntries fs path = .error (.format path cause) := by
  cases hlist : listAll bytes entries with
  | ok infos =>
      have hlisted := (listEntries_eq_ok_iff hcontent hdirectory infos).2 hlist
      have hnone := (exists_listEntries_iff hcontent hdirectory).1 ⟨infos, hlisted⟩
      exact absurd ⟨cause, hname⟩ (hnone name (by rw [hsplit]; simp))
  | error other =>
      obtain ⟨before', name', after', hsplit', hbefore', hname', hfails⟩ :=
        exists_first_of_listAll_error hcontent hdirectory hlist
      obtain rfl := eq_of_first hsplit hsplit' ⟨cause, hname⟩ ⟨other, hname'⟩ hbefore hbefore'
      rw [hname] at hname'
      cases hname'
      exact hfails

end Opened

end Archive

open Archive

/-- **Listing and reading agree** on every file. An archive that cannot be opened fails with one
error for the listing and for every name. In one that opens no name stands twice, and then a
name outside of its directory is not found; the listing succeeds exactly if reading no entry
fails by the format, with all names in order; and otherwise it fails as the reading of the
first entry does that fails by the format. -/
theorem listEntries_agrees_readEntry (fs : FileSystem) (archive : String) :
    (∀ e, openArchive fs archive = .error e →
      listEntries fs archive = .error e ∧ ∀ name, readEntry fs archive name = .error e) ∧
    ∀ entries, openArchive fs archive = .ok entries →
      let names := entries.map Listed.name
      names.Nodup ∧
        (∀ name, name ∉ names →
          readEntry fs archive name = .error (.format archive .entryNotFound)) ∧
        ((∃ infos, listEntries fs archive = .ok infos) ↔
          ∀ name ∈ names, ¬FormatFails fs archive name) ∧
        (∀ infos, listEntries fs archive = .ok infos → infos.map EntryInfo.name = names) ∧
        ∀ before name after cause, names = before ++ name :: after →
          (∀ other ∈ before, ¬FormatFails fs archive other) →
          readEntry fs archive name = .error (.format archive cause) →
          listEntries fs archive = .error (.format archive cause) := by
  refine ⟨fun e => of_openArchive_error, ?_⟩
  intro entries hopen
  obtain ⟨bytes, hcontent, hdirectory⟩ := contentOf_of_openArchive hopen
  refine ⟨nodup_directory hdirectory, ?_, exists_listEntries_iff hcontent hdirectory, ?_, ?_⟩
  · intro name hname
    rw [readEntry, hcontent]
    simp only [contentOfEntry, hdirectory, find?_name_of_notMem hname]
  · intro infos hinfos
    exact (listAll_eq_ok ((listEntries_eq_ok_iff hcontent hdirectory infos).1 hinfos)).1
  · intro before name after cause hsplit hbefore hname
    exact listEntries_of_first hcontent hdirectory hsplit hbefore hname

end FixtureKit
