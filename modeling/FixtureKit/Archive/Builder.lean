import FixtureKit.Archive.Write

/-!
# Building an Archive Step by Step

A builder collects entries and a way to hold them for one archive path. Nothing is written before
it is asked for, and it can be asked for again.

## Main results

* `buildArchive_eq` — building at once is writing what a builder has collected.
-/

namespace FixtureKit

/-- An archive to be written. -/
structure Builder where
  archive : String
  compression : Compression
  entries : List Entry

namespace Builder

/-- A builder without entries. -/
def new (archive : String) : Builder :=
  ⟨archive, .standard, []⟩

/-- Sets the way to hold the data of all entries. -/
def withCompression (builder : Builder) (compression : Compression) : Builder :=
  { builder with compression := compression }

/-- Adds an entry behind the others. -/
def withEntry (builder : Builder) (entry : Entry) : Builder :=
  { builder with entries := builder.entries ++ [entry] }

/-- Writes the archive. -/
def write [Deflate.Encoder] (builder : Builder) (fs : FileSystem) : Written :=
  writeArchive fs builder.archive builder.entries builder.compression

end Builder

/-- Writes the archive of some entries at once. -/
def buildArchive [Deflate.Encoder] (fs : FileSystem) (archive : String) (entries : List Entry)
    (compression : Compression) : Written :=
  (entries.foldl Builder.withEntry ((Builder.new archive).withCompression compression)).write fs

/-! ### Scripts -/

/-- A step in the use of a builder. -/
inductive BuilderStep
  | compression (compression : Compression)
  | entry (entry : Entry)
  | write

/-- Takes steps one after the other and answers the result of each writing. -/
def Builder.run [Deflate.Encoder] (builder : Builder) (fs : FileSystem) :
    List BuilderStep → List (Except ArchiveError Unit) × FileSystem
  | [] => ([], fs)
  | .compression compression :: rest => (builder.withCompression compression).run fs rest
  | .entry entry :: rest => (builder.withEntry entry).run fs rest
  | .write :: rest =>
    let written := builder.write fs
    let (results, files) := builder.run written.files rest
    (written.result :: results, files)

/-! ### Building at once -/

/-- Adding entries one after the other appends them to those that have been collected, and leaves
the archive and its compression as they are. -/
theorem Builder.foldl_withEntry (builder : Builder) (entries : List Entry) :
    entries.foldl Builder.withEntry builder =
      { builder with entries := builder.entries ++ entries } := by
  induction entries generalizing builder with
  | nil => simp
  | cons entry rest ih => simp [ih, withEntry]

/-- Building at once is writing what a builder has collected. -/
theorem buildArchive_eq [Deflate.Encoder] (fs : FileSystem) (archive : String)
    (entries : List Entry) (compression : Compression) :
    buildArchive fs archive entries compression = writeArchive fs archive entries compression := by
  rw [buildArchive, Builder.foldl_withEntry]
  simp [Builder.write, Builder.new, Builder.withCompression]

end FixtureKit
