import FixtureKit.Proofs.Archive.Packing
import Mathlib.Data.List.Nodup

/-!
# Interrupted Writes

A write stops at the first entry that cannot be added and still finishes the archive. This
module says which entries those are, which error is answered when several things are wrong
with one entry, and what is left: the entries in front of it, and behind them an entry
without bytes if the copy had already begun.

What counts is the file system in which the archive file has just been made, because the
sources are opened after it.

## Main results

* `addEntries_of_fault`: a faulty entry ends the packing with its own error.
* `buildArchive_of_fault`: the archive of an interrupted write holds exactly what came before.
* `buildArchive_interrupted`: it lists that and gives it back.
-/

namespace FixtureKit

namespace FileSystem

/-- The bytes of the file at a path, and none if there is no such file. -/
def bytesOf (fs : FileSystem) (text : String) : ByteArray :=
  match fs.contentOf text with
  | .ok content => content
  | .error _ => ByteArray.empty

end FileSystem

namespace Archive

/-! ### Faults -/

/-- What keeps an entry from being added to an archive. -/
inductive Fault
  /-- The source cannot be opened. -/
  | unopened (cause : IoError)
  /-- An entry in front of it has the same name. -/
  | usedName
  /-- The source is a directory, which opens but has no bytes to be copied. -/
  | directory
  deriving DecidableEq

/-- The fault of an entry behind others, if it has one. A source that cannot be opened counts
before a name that is used already, and that before a failing copy. -/
def faultOf (fs : FileSystem) (earlier : List Entry) (entry : Entry) : Option Fault :=
  match fs.openForReading entry.source with
  | .error cause => some (.unopened cause)
  | .ok (_, object) =>
    if entry.name ∈ earlier.map Entry.name then some .usedName
    else if object = .directory then some .directory
    else none

/-- The error that tells the fault of an entry of the archive at a path. -/
def Fault.error (path : String) (entry : Entry) : Fault → ArchiveError
  | .unopened cause => .file entry.source cause
  | .usedName => .format path (.invalid (.duplicateName entry.name))
  | .directory => .file entry.source .isADirectory

/-- What a faulty entry leaves in the archive: an entry without bytes if its copy had begun. -/
def Fault.leftover (entry : Entry) : Fault → List Entry
  | .directory => [entry]
  | _ => []

/-- Sources that can be copied if they are files: none is the archive itself, none is endless,
and none is too large. -/
def Copyable (fs : FileSystem) (target : Location) (source : String) : Prop :=
  ∀ location object, fs.openForReading source = .ok (location, object) →
    location ≠ target ∧ object ≠ .fullDevice ∧
      ∀ content, object = .file content → content.size < 2 ^ 32 - 1

variable {fs : FileSystem} {target : Location}

/-- Entries that are added one by one: each has a file for its source, not too large, and a name
of its own. -/
structure Addable (fs : FileSystem) (target : Location) (entries : List Entry) : Prop where
  supplies : ∀ entry ∈ entries, Supplies fs target entry.source (fs.bytesOf entry.source)
  sizes : ∀ entry ∈ entries, (fs.bytesOf entry.source).size < 2 ^ 32 - 1
  names : (entries.map Entry.name).Nodup

/-- The sources of entries that can be added are read to the bytes that are packed. -/
theorem Addable.contentOf {entries : List Entry} (h : Addable fs target entries) {entry : Entry}
    (hmem : entry ∈ entries) : fs.contentOf entry.source = .ok (fs.bytesOf entry.source) := by
  obtain ⟨_, _, hopen⟩ := h.supplies entry hmem
  exact FileSystem.contentOf_of_openForReading hopen

/-- An entry without a fault can be added behind others. -/
theorem Addable.append_singleton {earlier : List Entry} {entry : Entry}
    (hearlier : Addable fs target earlier) (hsource : Copyable fs target entry.source)
    (hfault : faultOf fs earlier entry = none) : Addable fs target (earlier ++ [entry]) := by
  rw [faultOf] at hfault
  split at hfault
  · cases hfault
  · next location object hopen =>
      obtain ⟨hne, hdevice, hsize⟩ := hsource _ _ hopen
      have hlink := FileSystem.openForReading_ne_link hopen
      split at hfault
      · cases hfault
      · next hname =>
          obtain ⟨content, rfl⟩ : ∃ content, object = .file content := by
            cases object with
            | directory => simp at hfault
            | link text => exact absurd rfl (hlink text)
            | fullDevice => exact absurd rfl hdevice
            | file content => exact ⟨content, rfl⟩
          have hbytes : fs.bytesOf entry.source = content := by
            rw [FileSystem.bytesOf, FileSystem.contentOf_of_openForReading hopen]
          refine ⟨?_, ?_, ?_⟩
          · rw [List.forall_mem_append, List.forall_mem_singleton, hbytes]
            exact ⟨hearlier.supplies, location, hne, hopen⟩
          · rw [List.forall_mem_append, List.forall_mem_singleton, hbytes]
            exact ⟨hearlier.sizes, hsize content rfl⟩
          · rw [List.map_append, List.map_singleton, ← List.concat_eq_append]
            exact List.Nodup.concat hname hearlier.names

/-- All entries in front of the first fault can be added. -/
theorem addable_take {entries : List Entry} {k : Nat}
    (hsources : ∀ entry ∈ entries, Copyable fs target entry.source) (hk : k ≤ entries.length)
    (hfirst : ∀ i (hi : i < k), faultOf fs (entries.take i) entries[i] = none) :
    Addable fs target (entries.take k) := by
  induction k with
  | zero => exact ⟨nofun, nofun, List.nodup_nil⟩
  | succ k ih =>
      rw [List.take_succ_eq_append_getElem (by omega)]
      exact (ih (by omega) fun i hi => hfirst i (by omega)).append_singleton
        (hsources _ (List.getElem_mem _)) (hfirst k (Nat.lt_succ_self k))

/-- A faulty entry ends the packing with its own error. -/
theorem addEntries_of_fault {path : String} {compression : Compression} {members : List Member}
    {earlier : List Entry} {entry : Entry} {fault : Fault} (rest : List Entry)
    (hmembers : members.map Member.name = earlier.map Entry.name)
    (hfault : faultOf fs earlier entry = some fault) :
    addEntries fs path target compression members (entry :: rest) =
      ⟨members ++ membersOf compression
        (namedContents (fun _ => ByteArray.empty) (fault.leftover entry)), [],
        some (fault.error path entry)⟩ := by
  have hany : members.any (·.name = entry.name) = decide (entry.name ∈ earlier.map Entry.name) := by
    rw [Bool.eq_iff_iff, any_name_iff, decide_eq_true_iff, hmembers]
  rw [faultOf] at hfault
  split at hfault
  · next cause hopen =>
      cases hfault
      rw [addEntries_of_missing hopen]
      simp only [Fault.leftover, namedContents, membersOf, List.map_nil, List.append_nil]
      rfl
  · next location object hopen =>
      rw [addEntries, hopen]
      simp only [hany]
      split at hfault
      · next hname =>
          cases hfault
          rw [if_pos (decide_eq_true hname)]
          simp only [Fault.leftover, namedContents, membersOf, List.map_nil, List.append_nil]
          rfl
      · next hname =>
          split at hfault
          · next hdirectory =>
              cases hfault
              subst hdirectory
              rw [if_neg (by simpa using hname)]
              rfl
          · cases hfault

/-- What a faulty entry leaves has a fresh name. -/
theorem nodup_append_leftover {earlier : List Entry} {entry : Entry} {fault : Fault}
    (hearlier : (earlier.map Entry.name).Nodup) (hfault : faultOf fs earlier entry = some fault) :
    ((earlier ++ fault.leftover entry).map Entry.name).Nodup := by
  rw [faultOf] at hfault
  split at hfault
  · cases hfault
    simpa only [Fault.leftover, List.append_nil] using hearlier
  · split at hfault
    · cases hfault
      simpa only [Fault.leftover, List.append_nil] using hearlier
    · next hname =>
        split at hfault
        · cases hfault
          rw [Fault.leftover, List.map_append, List.map_singleton, ← List.concat_eq_append]
          exact List.Nodup.concat hname hearlier
        · cases hfault

/-- A fault leaves at most one entry behind. -/
theorem length_leftover_le (fault : Fault) (entry : Entry) :
    (fault.leftover entry).length ≤ 1 := by
  cases fault <;> simp [Fault.leftover]

/-- What a fault leaves behind is an entry of the name that failed. -/
theorem eq_of_mem_leftover {fault : Fault} {entry other : Entry}
    (h : other ∈ fault.leftover entry) : other = entry := by
  cases fault <;> simp_all [Fault.leftover]

/-! ### The archive that is left -/

/-- The contents of the archive that an interrupted write leaves: the bytes of the sources that
have been copied, and none for the entry whose copy failed. -/
def interruptedContents (fs : FileSystem) (added : List Entry) (fault : Fault) (entry : Entry) :
    List (String × ByteArray) :=
  namedContents (fun other => fs.bytesOf other.source) added ++
    namedContents (fun _ => ByteArray.empty) (fault.leftover entry)

/-- The names in an archive whose write was interrupted are those of the entries before, and that
of the entry at fault if it left something. -/
theorem map_fst_interruptedContents (added : List Entry) (fault : Fault) (entry : Entry) :
    (interruptedContents fs added fault entry).map Prod.fst =
      (added ++ fault.leftover entry).map Entry.name := by
  rw [interruptedContents, List.map_append, map_fst_namedContents, map_fst_namedContents,
    List.map_append]

/-- A write that comes to a faulty entry behind others without fault leaves the contents of
these, and answers the fault. -/
theorem buildArchive_of_fault {before opened : FileSystem} {path : String} {added : List Entry}
    {entry : Entry} {fault : Fault} (compression : Compression) (rest : List Entry)
    (hopen : before.openForWriting path = .ok (.file target, opened))
    (hadded : Addable opened target added) (hfault : faultOf opened added entry = some fault) :
    buildArchive before path (added ++ entry :: rest) compression =
      ⟨.error (fault.error path entry),
        opened.put target (.file (encode (membersOf compression
          (interruptedContents opened added fault entry)))),
        added.map fun other => (other, (opened.bytesOf other.source).size)⟩ := by
  have hmembers : (membersOf compression (namedContents (fun other => opened.bytesOf other.source)
      added)).map Member.name = added.map Entry.name := by
    rw [map_name_membersOf, map_fst_namedContents]
  have hpacking : addEntries opened path target compression [] (added ++ entry :: rest) = _ :=
    addEntries_append (entry :: rest) hadded.supplies
      (fun other h => Nat.le_of_lt (hadded.sizes other h)) hadded.names
  rw [List.nil_append, addEntries_of_fault rest hmembers hfault] at hpacking
  rw [buildArchive_eq, writeArchive_of_openForWriting hopen hpacking]
  simp only [Option.elim_some, List.append_nil, interruptedContents, membersOf, List.map_append]

/-- An archive of what came before a fault delivers it. -/
theorem delivers_of_fault {files : FileSystem} {path : String} {added : List Entry}
    {entry : Entry} {fault : Fault} {compression : Compression}
    (hfile : files.contentOf path =
      .ok (encode (membersOf compression (interruptedContents fs added fault entry))))
    (hadded : Addable fs target added) (hfault : faultOf fs added entry = some fault)
    (hcount : added.length + 1 < 0xFFFF)
    (hlengths : ∀ other ∈ added ++ [entry], other.name.toUTF8.size ≤ 0xFFFF)
    (hsize : (encode (membersOf compression (interruptedContents fs added fault entry))).size <
      0xFFFFFFFF) :
    Delivers files path (interruptedContents fs added fault entry) := by
  refine delivers_of_contentOf hfile ?_ ?_ ?_ hsize
  · rw [map_fst_interruptedContents]
    exact nodup_append_leftover hadded.names hfault
  · have hlength := length_leftover_le fault entry
    rw [interruptedContents, List.length_append, namedContents, List.length_map, namedContents,
      List.length_map]
    omega
  · intro named hnamed
    rw [nameBytes, Bytes.length_toList]
    rcases List.mem_append.1 hnamed with hnamed | hnamed
    · obtain ⟨other, hother, rfl⟩ := List.mem_map.1 hnamed
      exact ⟨hlengths other (List.mem_append_left _ hother), hadded.sizes other hother⟩
    · obtain ⟨other, hother, rfl⟩ := List.mem_map.1 hnamed
      obtain rfl := eq_of_mem_leftover hother
      exact ⟨hlengths other (by simp), Nat.zero_lt_succ _⟩

end Archive

open Archive

/-- **Interrupted write.** When the archive can be made but some entry cannot be added, the
write answers the fault of the first such entry. The archive lists the entries in front of that
one with the sizes of their sources, followed by the entry itself without bytes if it was the
copy that failed; each of them reads back as the bytes of its source, and any other name is not
found. -/
theorem buildArchive_interrupted {fs opened : FileSystem} {archive : String} {target : Location}
    {entries : List Entry} {compression : Compression} {k : Nat} {fault : Fault}
    (hopen : fs.openForWriting archive = .ok (.file target, opened))
    (hcount : entries.length < 65535)
    (hlengths : ∀ entry ∈ entries, entry.name.toUTF8.size ≤ 65535)
    (hsources : ∀ entry ∈ entries, Copyable opened target entry.source)
    (hk : k < entries.length)
    (hfirst : ∀ i (hi : i < k), faultOf opened (entries.take i) entries[i] = none)
    (hfault : faultOf opened (entries.take k) entries[k] = some fault)
    (harchive : ∀ bytes,
      (buildArchive fs archive entries compression).files.contentOf archive = .ok bytes →
      bytes.size < 2 ^ 32 - 1) :
    let written := buildArchive fs archive entries compression
    let kept := entries.take k ++ fault.leftover entries[k]
    written.result = .error (fault.error archive entries[k]) ∧
      listEntries written.files archive =
        .ok ((entries.take k).map (fun entry =>
            ⟨entry.name, (opened.bytesOf entry.source).size⟩) ++
          (fault.leftover entries[k]).map fun entry => ⟨entry.name, 0⟩) ∧
      (∀ entry ∈ entries.take k,
        opened.contentOf entry.source = .ok (opened.bytesOf entry.source) ∧
          readEntry written.files archive entry.name = .ok (opened.bytesOf entry.source)) ∧
      (∀ entry ∈ fault.leftover entries[k],
        readEntry written.files archive entry.name = .ok ByteArray.empty) ∧
      ∀ name, name ∉ kept.map Entry.name →
        readEntry written.files archive name = .error (.format archive .entryNotFound) := by
  have hadded := addable_take hsources (Nat.le_of_lt hk) hfirst
  have hbuild := buildArchive_of_fault compression (entries.drop (k + 1)) hopen hadded hfault
  rw [← List.drop_eq_getElem_cons hk, List.take_append_drop] at hbuild
  rw [hbuild] at harchive ⊢
  have hfile := FileSystem.contentOf_of_openForReading
    (FileSystem.openForReading_of_openForWriting hopen (encode (membersOf compression
      (interruptedContents opened (entries.take k) fault entries[k]))))
  have hlengths' : ∀ entry ∈ entries.take k ++ [entries[k]], entry.name.toUTF8.size ≤ 65535 := by
    rw [← List.take_succ_eq_append_getElem hk]
    exact fun entry hmem => hlengths entry (List.mem_of_mem_take hmem)
  have hdelivers := delivers_of_fault hfile hadded hfault (by rw [List.length_take]; omega)
    hlengths' (harchive _ hfile)
  refine ⟨rfl, ?_, ?_, ?_, ?_⟩
  · rw [hdelivers.list, interruptedContents, List.map_append, namedContents, namedContents,
      List.map_map, List.map_map]
    rfl
  · intro entry hmem
    exact ⟨hadded.contentOf hmem,
      hdelivers.read _ _ (List.mem_append_left _ (List.mem_map.2 ⟨entry, hmem, rfl⟩))⟩
  · intro entry hmem
    exact hdelivers.read _ _ (List.mem_append_right _ (List.mem_map.2 ⟨entry, hmem, rfl⟩))
  · intro name hname
    exact hdelivers.other name (by rwa [map_fst_interruptedContents])

/-! ### A copy that fails in the middle

The third of four entries is a directory. The last one has two faults of its own, a missing
source and a used name, which nothing tells any more. -/

/-- A working directory with a source, a directory and something in the place of the archive. -/
def Archive.brokenFiles : FileSystem where
  workingDirectory := ["w"]
  objects :=
    [(["a", "w"], .file ⟨#[0x50, 0x4B, 0x05, 0x06]⟩), (["d", "w"], .directory),
      (["out.zip", "w"], .file ⟨#[0x50]⟩)]

/-- The same with an empty file for the archive. -/
def Archive.brokenOpened : FileSystem :=
  brokenFiles.put ["out.zip", "w"] (.file ByteArray.empty)

/-- The entries to be packed. -/
def Archive.brokenEntries : List Entry :=
  [⟨"a", "x"⟩, ⟨"a", "é"⟩, ⟨"d", "y"⟩, ⟨"missing", "x"⟩]

/-- Whichever of the sources opens is not the archive, and no file among them is too large. -/
theorem Archive.copyable_brokenEntries (entry : Entry) (hmem : entry ∈ brokenEntries) :
    Copyable brokenOpened ["out.zip", "w"] entry.source := by
  intro location object hopen
  have hall : entry = ⟨"a", "x"⟩ ∨ entry = ⟨"a", "é"⟩ ∨ entry = ⟨"d", "y"⟩ ∨
      entry = ⟨"missing", "x"⟩ := by simpa [brokenEntries] using hmem
  have hfile : brokenOpened.openForReading "a" =
      .ok (["a", "w"], .file ⟨#[0x50, 0x4B, 0x05, 0x06]⟩) := rfl
  have hdirectory : brokenOpened.openForReading "d" = .ok (["d", "w"], .directory) := rfl
  have hmissing : brokenOpened.openForReading "missing" = .error .notFound := rfl
  rcases hall with rfl | rfl | rfl | rfl
  · cases hfile.symm.trans hopen
    exact ⟨by decide, by decide, fun content h => by cases h; decide⟩
  · cases hfile.symm.trans hopen
    exact ⟨by decide, by decide, fun content h => by cases h; decide⟩
  · cases hdirectory.symm.trans hopen
    exact ⟨by decide, by decide, nofun⟩
  · cases hmissing.symm.trans hopen

/-- None of them is the archive. -/
theorem Archive.ne_of_openForReading_brokenOpened :
    ∀ entry ∈ brokenEntries, ∀ object,
      brokenOpened.openForReading entry.source ≠ .ok (["out.zip", "w"], object) :=
  fun entry hentry _ heq => (copyable_brokenEntries entry hentry _ _ heq).1 rfl

/-- The archive that is left is a small one. -/
theorem Archive.size_brokenArchive (bytes : ByteArray)
    (h : (buildArchive brokenFiles "out.zip" brokenEntries .stored).files.contentOf "out.zip" =
      .ok bytes) : bytes.size < 2 ^ 32 - 1 := by
  have hsize : ((buildArchive brokenFiles "out.zip" brokenEntries .stored).files.contentOf
      "out.zip").toOption.all (·.size < 2 ^ 32 - 1) = true := by decide +kernel
  rw [h] at hsize
  simpa [Except.toOption] using hsize

/-- The write stops at the directory with its error. The archive lists the two entries before, and
the third one empty, and not the last one. -/
theorem buildArchive_interrupted_copy :
    faultOf brokenOpened (brokenEntries.take 2) ⟨"d", "y"⟩ = some .directory ∧
      let written := buildArchive brokenFiles "out.zip" brokenEntries .stored
      written.result = .error (.file "d" .isADirectory) ∧
        listEntries written.files "out.zip" = .ok [⟨"x", 4⟩, ⟨"é", 4⟩, ⟨"y", 0⟩] ∧
        readEntry written.files "out.zip" "é" = .ok ⟨#[0x50, 0x4B, 0x05, 0x06]⟩ ∧
        readEntry written.files "out.zip" "y" = .ok ByteArray.empty ∧
        readEntry written.files "out.zip" "missing" =
          .error (.format "out.zip" .entryNotFound) := by
  have hopen : brokenFiles.openForWriting "out.zip" =
      .ok (.file ["out.zip", "w"], brokenOpened) := rfl
  have hlength : brokenEntries.length = 4 := rfl
  have hfirst : ∀ i (hi : i < 2),
      faultOf brokenOpened (brokenEntries.take i) brokenEntries[i] = none := by
    intro i hi
    have hzero : faultOf brokenOpened [] ⟨"a", "x"⟩ = none := by decide +kernel
    have hone : faultOf brokenOpened [⟨"a", "x"⟩] ⟨"a", "é"⟩ = none := by decide +kernel
    obtain rfl | rfl : i = 0 ∨ i = 1 := by omega
    · exact hzero
    · exact hone
  have hfault : faultOf brokenOpened (brokenEntries.take 2) ⟨"d", "y"⟩ = some .directory := rfl
  obtain ⟨hresult, hlist, hread, hleft, hother⟩ :=
    buildArchive_interrupted hopen (by decide) (by decide) copyable_brokenEntries (by decide)
      hfirst hfault size_brokenArchive
  exact ⟨hfault, hresult, hlist, (hread ⟨"a", "é"⟩ (by decide)).2,
    hleft ⟨"d", "y"⟩ (by decide), hother "missing" (by decide)⟩

end FixtureKit
