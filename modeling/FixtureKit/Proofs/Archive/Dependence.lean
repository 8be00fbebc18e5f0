import FixtureKit.Proofs.Archive.Admitted
import Mathlib.Data.List.Forall2

/-!
# What an Archive Depends On

Two writes are compared that share nothing but the names and what is behind the sources, each seen
when the archive file has just been made. They take the same steps, because nothing else is looked
at: not where a source is or how it is called, not what stood in the place of the archive, and not
the rest of the files. So the archives are equal byte for byte, and the results are but for the
paths that they name.

Writing again finds the very files that the first write has found, since the archive file is
emptied first.

## Main results

* `addEntries_unnamed`: two packings from alike sources hold the same and fail alike.
* `buildArchive_again`: writing again changes nothing.
* `buildArchive_dependence`: two writes from alike sources leave the same archive.
-/

namespace FixtureKit

/-- An error without the path that it names. -/
def ArchiveError.unnamed : ArchiveError → ArchiveError
  | .file _ cause => .file "" cause
  | .format _ cause => .format "" cause
  | .unallocatable => .unallocatable

namespace FileSystem

variable {fs opened : FileSystem} {text : String} {target location : Location} {object : Object}

/-- A path that leads nowhere cannot be opened, for the reason that it leads nowhere. -/
theorem openForReading_of_object?_error {cause : IoError} (h : fs.object? text = .error cause) :
    fs.openForReading text = .error cause := by
  rw [object?] at h
  cases hopen : fs.openForReading text with
  | error other => rw [hopen] at h; rw [Except.error.inj h]
  | ok found => rw [hopen] at h; cases h

/-- Opening a file again for writing empties it again. -/
theorem openForWriting_again (h : fs.openForWriting text = .ok (.file target, opened))
    (content : ByteArray) :
    (opened.put target (.file content)).openForWriting text = .ok (.file target, opened) := by
  obtain ⟨hfill, rfl, place, hfind, hlocation⟩ := find_of_openForWriting h
  have hfound := find_put hfill content hfind
  rw [filledPlace_of_eq content hlocation] at hfound
  rw [put_put, openForWriting, hfound]
  simp only [put_put]

end FileSystem

namespace Archive

/-- Where a source is makes no difference to what is copied, unless it is the archive. -/
theorem sourceContent_of_ne {target target' location location' : Location}
    {compression : Compression} {members : List Member} {fresh : Member} {object : Object}
    (hne : location ≠ target) (hne' : location' ≠ target') :
    sourceContent target compression members fresh (location, object) =
      sourceContent target' compression members fresh (location', object) := by
  cases object with
  | file content => rw [sourceContent, sourceContent, if_neg hne, if_neg hne']
  | _ => rfl

section TwoRuns

variable {first second : FileSystem} {target target' : Location} {entries entries' : List Entry}

/-- Two entries of one name whose sources are alike, each in its own file system: files with the
same bytes, both directories, or neither to be opened, for the same cause. -/
def AlikeIn (first second : FileSystem) (entry entry' : Entry) : Prop :=
  entry.name = entry'.name ∧ first.object? entry.source = second.object? entry'.source

/-- Two packings from alike sources hold the same and fail alike, when no source is the archive. -/
theorem addEntries_unnamed (path path' : String) (compression : Compression)
    (members : List Member) (halike : List.Forall₂ (AlikeIn first second) entries entries')
    (hself : ∀ entry ∈ entries, ∀ object,
      first.openForReading entry.source ≠ .ok (target, object))
    (hself' : ∀ entry ∈ entries', ∀ object,
      second.openForReading entry.source ≠ .ok (target', object)) :
    let packing := addEntries first path target compression members entries
    let packing' := addEntries second path' target' compression members entries'
    packing.members = packing'.members ∧
      packing.added.map (fun told => (told.1.name, told.2)) =
        packing'.added.map (fun told => (told.1.name, told.2)) ∧
      packing.failure.map ArchiveError.unnamed = packing'.failure.map ArchiveError.unnamed := by
  induction halike generalizing members with
  | nil => exact ⟨rfl, rfl, rfl⟩
  | @cons entry entry' rest rest' hentry _ ih =>
      obtain ⟨hnotSelf, hothers⟩ := List.forall_mem_cons.1 hself
      obtain ⟨hnotSelf', hothers'⟩ := List.forall_mem_cons.1 hself'
      obtain ⟨hname, hobject⟩ := hentry
      cases hfound : first.object? entry.source with
      | error cause =>
          rw [addEntries_of_missing (FileSystem.openForReading_of_object?_error hfound),
            addEntries_of_missing
              (FileSystem.openForReading_of_object?_error (hobject.symm.trans hfound))]
          exact ⟨rfl, rfl, rfl⟩
      | ok object =>
          obtain ⟨location, hopen⟩ := FileSystem.openForReading_of_object? hfound
          obtain ⟨location', hopen'⟩ :=
            FileSystem.openForReading_of_object? (hobject.symm.trans hfound)
          have hne : location ≠ target := by
            rintro rfl
            exact hnotSelf object hopen
          have hne' : location' ≠ target' := by
            rintro rfl
            exact hnotSelf' object hopen'
          -- both hold the same members so far, so a name is used in both or in neither
          rw [addEntries, addEntries, hopen, hopen']
          simp only [← hname, sourceContent_of_ne hne' hne]
          split
          · exact ⟨rfl, rfl, rfl⟩
          · split
            · exact ⟨rfl, rfl, rfl⟩
            · next content _ =>
                obtain ⟨hmembers, hadded, hfailure⟩ := ih
                  (members ++ [memberOf entry.name compression content]) hothers hothers'
                exact ⟨hmembers, congrArg₂ List.cons (Prod.ext hname rfl) hadded, hfailure⟩

end TwoRuns

/-- Writing again changes nothing, whatever came of the first write. -/
theorem buildArchive_again (fs : FileSystem) (archive : String) (entries : List Entry)
    (compression : Compression) :
    buildArchive (buildArchive fs archive entries compression).files archive entries compression =
      buildArchive fs archive entries compression := by
  by_cases hfile : ∃ target opened, fs.openForWriting archive = .ok (.file target, opened)
  · obtain ⟨target, opened, hopen⟩ := hfile
    have hagain (content : ByteArray) := FileSystem.openForWriting_again hopen content
    rw [buildArchive_eq fs, writeArchive_of_openForWriting hopen rfl, buildArchive_eq,
      writeArchive_of_openForWriting (hagain _) rfl]
  · obtain ⟨cause, hrefused⟩ := exists_of_openForWriting_ne entries compression
      fun target opened hopen => hfile ⟨target, opened, hopen⟩
    rw [hrefused, hrefused]

end Archive

open Archive

/-- **An archive depends on names, contents and compression only.** Two writes to files of their
own, from entries of the same names whose sources hold the same bytes, are both directories, or
fail to open for the same cause, leave the same archive and end alike but for the paths named, as
long as no source is the archive itself. The sources are looked at when the archive file has just
been made. To repeat either write changes nothing. -/
theorem buildArchive_dependence {fs fs' opened opened' : FileSystem} {archive archive' : String}
    {target target' : Location} {entries entries' : List Entry} {compression : Compression}
    (hopen : fs.openForWriting archive = .ok (.file target, opened))
    (hopen' : fs'.openForWriting archive' = .ok (.file target', opened'))
    (halike : List.Forall₂ (AlikeIn opened opened') entries entries')
    (hself : ∀ entry ∈ entries, ∀ object,
      opened.openForReading entry.source ≠ .ok (target, object))
    (hself' : ∀ entry ∈ entries', ∀ object,
      opened'.openForReading entry.source ≠ .ok (target', object)) :
    let written := buildArchive fs archive entries compression
    let written' := buildArchive fs' archive' entries' compression
    (∃ image, written.files.contentOf archive = .ok image ∧
        written'.files.contentOf archive' = .ok image) ∧
      written.result.mapError ArchiveError.unnamed =
        written'.result.mapError ArchiveError.unnamed ∧
      written.added.map (fun told => (told.1.name, told.2)) =
        written'.added.map (fun told => (told.1.name, told.2)) ∧
      buildArchive written.files archive entries compression = written ∧
      buildArchive written'.files archive' entries' compression = written' := by
  obtain ⟨hmembers, hadded, hfailure⟩ :=
    addEntries_unnamed archive archive' compression [] halike hself hself'
  have hresult (failure : Option ArchiveError) :
      (failure.elim (.ok ()) .error : Except ArchiveError Unit).mapError ArchiveError.unnamed =
        (failure.map ArchiveError.unnamed).elim (.ok ()) .error := by
    cases failure <;> rfl
  refine ⟨⟨_, contentOf_buildArchive hopen, ?_⟩, ?_, ?_, buildArchive_again ..,
    buildArchive_again ..⟩
  · rw [hmembers]
    exact contentOf_buildArchive hopen'
  · rw [buildArchive_eq, buildArchive_eq, writeArchive_of_openForWriting hopen rfl,
      writeArchive_of_openForWriting hopen' rfl]
    simp only [hresult, hfailure]
  · rw [buildArchive_eq, buildArchive_eq, writeArchive_of_openForWriting hopen rfl,
      writeArchive_of_openForWriting hopen' rfl]
    exact hadded

/-! ### The same archive from elsewhere -/

/-- Files under other names than those of the interrupted write, one of them behind a link, and
nothing in the place of the archive. -/
def Archive.movedFiles : FileSystem where
  workingDirectory := ["v"]
  objects :=
    [(["b", "v"], .file ⟨#[0x50, 0x4B, 0x05, 0x06]⟩), (["e", "v"], .directory),
      (["c", "e", "v"], .link "../b")]

/-- Their entries, under the names of the interrupted write. -/
def Archive.movedEntries : List Entry :=
  [⟨"b", "x"⟩, ⟨"e/c", "é"⟩, ⟨"e", "y"⟩, ⟨"nowhere", "x"⟩]

/-- Files elsewhere with the same bytes, one of them behind a link, and the same directory in the
same place: the same archive is left, and the same error but for its path. -/
theorem buildArchive_dependence_moved :
    let written := buildArchive brokenFiles "out.zip" brokenEntries .deflated
    let moved := buildArchive movedFiles "e/new.zip" movedEntries .deflated
    (∃ image, written.files.contentOf "out.zip" = .ok image ∧
        moved.files.contentOf "e/new.zip" = .ok image) ∧
      written.result = .error (.file "d" .isADirectory) ∧
      moved.result = .error (.file "e" .isADirectory) ∧
      buildArchive moved.files "e/new.zip" movedEntries .deflated = moved := by
  intro written moved
  have hopen : brokenFiles.openForWriting "out.zip" =
      .ok (.file ["out.zip", "w"], brokenOpened) := rfl
  have hopen' : movedFiles.openForWriting "e/new.zip" =
      .ok (.file ["new.zip", "e", "v"], _) := rfl
  have halike : List.Forall₂ (AlikeIn brokenOpened
      (movedFiles.put ["new.zip", "e", "v"] (.file ByteArray.empty))) brokenEntries movedEntries :=
    .cons ⟨rfl, rfl⟩ (.cons ⟨rfl, rfl⟩ (.cons ⟨rfl, rfl⟩ (.cons ⟨rfl, rfl⟩ .nil)))
  have hself' : ∀ entry ∈ movedEntries, ∀ object,
      (movedFiles.put ["new.zip", "e", "v"] (.file ByteArray.empty)).openForReading
        entry.source ≠ .ok (["new.zip", "e", "v"], object) := by
    have hplaces : ∀ entry ∈ movedEntries,
        ((movedFiles.put ["new.zip", "e", "v"] (.file ByteArray.empty)).openForReading
          entry.source).map Prod.fst ≠ .ok ["new.zip", "e", "v"] := by decide +kernel
    intro entry hentry object heq
    exact hplaces entry hentry (by rw [heq]; rfl)
  have hresult : written.result = .error (.file "d" .isADirectory) := by decide +kernel
  have hresult' : moved.result = .error (.file "e" .isADirectory) := by decide +kernel
  obtain ⟨himage, -, -, -, hagain⟩ :=
    buildArchive_dependence hopen hopen' halike ne_of_openForReading_brokenOpened hself'
  exact ⟨himage, hresult, hresult', hagain⟩

end FixtureKit
