import FixtureKit.Archive.Builder
import FixtureKit.Proofs.Archive.Contents
import FixtureKit.Proofs.FileSystem.Filling

/-!
# From Sources to Archives

A write is taken apart at the entry where it stops. The entries in front of that one are
added with the bytes of their sources, whatever becomes of the rest, so the archive starts
with a member for each of them. The file that is left is always the image of some named
contents, and an image that is not too large lists and gives back exactly those.

## Main results

* `addEntries_append`: entries with readable sources and fresh names are added one by one.
* `writeArchive_of_openForWriting`: the archive file holds what the entries led to.
* `buildArchive_of_supplies`: without a fault, it holds the bytes of all sources.
* `delivers_of_contentOf`: a file that holds an image delivers its contents.
-/

namespace FixtureKit

namespace Archive

/-! ### Adding entries -/

/-- A source opens as a file with the given content that is not the archive itself. -/
def Supplies (fs : FileSystem) (target : Location) (source : String) (content : ByteArray) :
    Prop :=
  ∃ location, location ≠ target ∧ fs.openForReading source = .ok (location, .file content)

/-- The names of entries with the bytes that `content` gives for them. -/
def namedContents (content : Entry → ByteArray) (entries : List Entry) :
    List (String × ByteArray) :=
  entries.map fun entry => (entry.name, content entry)

/-- What is packed goes by the names of the entries. -/
theorem map_fst_namedContents (content : Entry → ByteArray) (entries : List Entry) :
    (namedContents content entries).map Prod.fst = entries.map Entry.name := by
  rw [namedContents, List.map_map]
  rfl

section Adding

variable {fs : FileSystem} {path : String} {target : Location} {compression : Compression}
  {content : Entry → ByteArray}

/-- The check for a name that is used looks for it among the names of members. -/
theorem any_name_iff {members : List Member} {name : String} :
    members.any (·.name = name) = true ↔ name ∈ members.map Member.name := by
  rw [List.any_eq_true, List.mem_map]
  simp only [decide_eq_true_eq]

/-- A fresh name is not among those of the members. -/
theorem any_name_eq_false {members : List Member} {name : String}
    (hname : name ∉ members.map Member.name) : members.any (·.name = name) = false :=
  Bool.eq_false_iff.2 fun hused => hname (any_name_iff.1 hused)

variable [Deflate.Encoder]

/-- An entry with a fresh name is added when the bytes of its source are copied. -/
theorem addEntries_of_copied {members : List Member} {entry : Entry} (rest : List Entry)
    {source : Location × Object} {bytes : ByteArray}
    (hopen : fs.openForReading entry.source = .ok source)
    (hname : entry.name ∉ members.map Member.name)
    (hcontent : sourceContent target compression members (openMember entry.name compression)
      source = .ok bytes) :
    addEntries fs path target compression members (entry :: rest) =
      let packing := addEntries fs path target compression
        (members ++ [memberOf entry.name compression bytes]) rest
      { packing with added := (entry, bytes.size) :: packing.added } := by
  rw [addEntries, hopen]
  simp only [any_name_eq_false hname, hcontent]
  rfl

/-- An entry with a fresh name ends the packing when the copy of its source fails. -/
theorem addEntries_of_not_copied {members : List Member} {entry : Entry} (rest : List Entry)
    {source : Location × Object} {cause : IoError}
    (hopen : fs.openForReading entry.source = .ok source)
    (hname : entry.name ∉ members.map Member.name)
    (hcontent : sourceContent target compression members (openMember entry.name compression)
      source = .error cause) :
    addEntries fs path target compression members (entry :: rest) =
      ⟨keptAfter cause members (memberOf entry.name compression ByteArray.empty), [],
        some (.file entry.source cause)⟩ := by
  rw [addEntries, hopen]
  simp only [any_name_eq_false hname, hcontent]
  rfl

/-- An entry with a readable source and a fresh name is added. -/
theorem addEntries_cons {members : List Member} {entry : Entry} (rest : List Entry)
    (hsource : Supplies fs target entry.source (content entry))
    (hsize : (content entry).size ≤ sizeLimit)
    (hname : entry.name ∉ members.map Member.name) :
    addEntries fs path target compression members (entry :: rest) =
      let packing := addEntries fs path target compression
        (members ++ [memberOf entry.name compression (content entry)]) rest
      { packing with added := (entry, (content entry).size) :: packing.added } := by
  obtain ⟨location, hne, hopen⟩ := hsource
  refine addEntries_of_copied rest hopen hname ?_
  rw [sourceContent, if_neg hne, if_neg (by omega)]

/-- Entries with readable sources and fresh names are added one by one, whatever comes behind
them. -/
theorem addEntries_append {members : List Member} {added : List Entry} (rest : List Entry)
    (hsources : ∀ entry ∈ added, Supplies fs target entry.source (content entry))
    (hsizes : ∀ entry ∈ added, (content entry).size ≤ sizeLimit)
    (hnames : (members.map Member.name ++ added.map Entry.name).Nodup) :
    addEntries fs path target compression members (added ++ rest) =
      let packing := addEntries fs path target compression
        (members ++ membersOf compression (namedContents content added)) rest
      { packing with
        added := added.map (fun entry => (entry, (content entry).size)) ++ packing.added } := by
  induction added generalizing members with
  | nil => simp only [namedContents, membersOf, List.map_nil, List.append_nil, List.nil_append]
  | cons entry added ih =>
      obtain ⟨hsource, hothers⟩ := List.forall_mem_cons.1 hsources
      obtain ⟨hsize, hsmall⟩ := List.forall_mem_cons.1 hsizes
      have hname : entry.name ∉ members.map Member.name := by
        rw [List.nodup_append] at hnames
        exact fun hmem => hnames.2.2 _ hmem _ List.mem_cons_self rfl
      have hrest : ((members ++ [memberOf entry.name compression (content entry)]).map
          Member.name ++ added.map Entry.name).Nodup := by
        rw [List.map_append, List.append_assoc]
        exact hnames
      rw [List.cons_append, addEntries_cons _ hsource hsize hname, ih hothers hsmall hrest]
      simp only [namedContents, membersOf, List.map_cons, List.append_assoc, List.cons_append,
        List.nil_append]

end Adding

/-! ### The archive file -/

/-- When a file can be made for the archive, it holds what adding the entries led to, and the
first failure is answered. -/
theorem writeArchive_of_openForWriting [Deflate.Encoder] {fs opened : FileSystem}
    {path : String} {target : Location} {entries : List Entry} {compression : Compression}
    {packing : Packing}
    (hopen : fs.openForWriting path = .ok (.file target, opened))
    (hpacking : addEntries opened path target compression [] entries = packing) :
    writeArchive fs path entries compression =
      ⟨packing.failure.elim (.ok ()) .error,
        opened.put target (.file (encode packing.members)), packing.added⟩ := by
  rw [writeArchive, hopen]
  simp only [hpacking]
  cases packing.failure <;> rfl

/-- The sources other than the archive are read as before when the archive has been opened. -/
theorem supplies_of_openForWriting {fs opened : FileSystem} {path : String} {target : Location}
    {source : String} {content : ByteArray}
    (hopen : fs.openForWriting path = .ok (.file target, opened))
    (hsource : Supplies fs target source content) : Supplies opened target source content := by
  obtain ⟨hfill, rfl, -⟩ := FileSystem.find_of_openForWriting hopen
  obtain ⟨location, hne, hread⟩ := hsource
  exact ⟨location, hne, FileSystem.openForReading_put_of_ne hfill _ hread hne⟩

/-- The archive at which a write ends without failure holds the bytes of all sources. -/
theorem buildArchive_of_supplies [Deflate.Encoder] {fs opened : FileSystem} {archive : String}
    {target : Location} {entries : List Entry} {content : Entry → ByteArray}
    (compression : Compression)
    (hopen : fs.openForWriting archive = .ok (.file target, opened))
    (hnames : (entries.map Entry.name).Nodup)
    (hsources : ∀ entry ∈ entries, Supplies opened target entry.source (content entry))
    (hsizes : ∀ entry ∈ entries, (content entry).size ≤ sizeLimit) :
    buildArchive fs archive entries compression =
      ⟨.ok (),
        opened.put target (.file (encode (membersOf compression (namedContents content entries)))),
        entries.map fun entry => (entry, (content entry).size)⟩ := by
  have hpacking : addEntries opened archive target compression [] (entries ++ []) = _ :=
    addEntries_append [] hsources hsizes hnames
  rw [List.append_nil] at hpacking
  rw [buildArchive_eq, writeArchive_of_openForWriting hopen hpacking]
  simp only [addEntries, List.append_nil, List.nil_append]
  rfl

/-- The archive at a path lists exactly some named contents and gives each of them back. -/
structure Delivers (fs : FileSystem) (path : String) (contents : List (String × ByteArray)) :
    Prop where
  list : listEntries fs path = .ok (contents.map fun (name, content) => ⟨name, content.size⟩)
  read : ∀ name content, (name, content) ∈ contents → readEntry fs path name = .ok content
  other : ∀ name, name ∉ contents.map Prod.fst →
    readEntry fs path name = .error (.format path .entryNotFound)

/-- A file that holds the image of contents which can be held delivers them. -/
theorem delivers_of_holdable [Deflate.Encoder] [Deflate.Encoder.Lawful] {fs : FileSystem}
    {path : String} {compression : Compression} {contents : List (String × ByteArray)}
    (hholdable : Holdable (membersOf compression contents))
    (hfile : fs.contentOf path = .ok (encode (membersOf compression contents))) :
    Delivers fs path contents where
  list := (listEntries_of_contentOf hfile).trans (infosOfEntries_encode path hholdable)
  read name _ hmem :=
    (readEntry_of_contentOf hfile name).trans (contentOfEntry_encode path hholdable hmem)
  other name hname :=
    (readEntry_of_contentOf hfile name).trans (contentOfEntry_encode_of_notMem path hholdable hname)

/-- A file that holds the image of named contents, not too many and not too large, delivers
them. -/
theorem delivers_of_contentOf [Deflate.Encoder] [Deflate.Encoder.Lawful] {fs : FileSystem}
    {path : String} {compression : Compression} {contents : List (String × ByteArray)}
    (hfile : fs.contentOf path = .ok (encode (membersOf compression contents)))
    (hnames : (contents.map Prod.fst).Nodup) (hcount : contents.length < 0xFFFF)
    (hfits : ∀ named ∈ contents, (nameBytes named.1).length ≤ 0xFFFF ∧ named.2.size < 0xFFFFFFFF)
    (hsize : (encode (membersOf compression contents)).size < 0xFFFFFFFF) :
    Delivers fs path contents :=
  delivers_of_holdable (holdable_membersOf hnames hcount hfits hsize) hfile

end Archive

end FixtureKit
