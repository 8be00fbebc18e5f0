import FixtureKit.Archive.Builder

/-!
# What a Builder Writes

A builder may be used in any order: ways to hold the data can be set and set again, entries can be
added between two writings, and every writing starts from what the earlier ones have left, those
included that failed half-way. What one writing does depends on the steps before it in no other way
than through the files, the entries that have been added, and the way that was set last.

## Main results

* `Builder.run_append`: a script in two parts is run as its first part and then the second.
* `Builder.after_new`: what a builder has collected, told from the steps.
* `Builder.run_refines`: every writing is one building of all that was collected before it.
-/

namespace FixtureKit

/-- The way to hold the data that a step sets. -/
def BuilderStep.compression? : BuilderStep → Option Compression
  | .compression way => some way
  | _ => none

/-- The entry that a step adds. -/
def BuilderStep.entry? : BuilderStep → Option Entry
  | .entry added => some added
  | _ => none

/-- The entries that steps add, in order. -/
def appendedEntries (steps : List BuilderStep) : List Entry :=
  steps.filterMap BuilderStep.entry?

/-- The way to hold the data that is set last, and without any, to store them. -/
def chosenCompression (steps : List BuilderStep) : Compression :=
  (steps.filterMap BuilderStep.compression?).getLast?.getD .stored

namespace Builder

/-- A builder after one step. -/
def afterStep (builder : Builder) : BuilderStep → Builder
  | .compression compression => builder.withCompression compression
  | .entry entry => builder.withEntry entry
  | .write => builder

/-- A builder after some steps. -/
def after (builder : Builder) (steps : List BuilderStep) : Builder :=
  steps.foldl afterStep builder

variable {builder : Builder} {fs : FileSystem}

/-! ### The script -/

/-- A script in two parts is run as its first part and then the second, by what the builder has
become and on the files that are left. -/
theorem run_append (before later : List BuilderStep) :
    builder.run fs (before ++ later) =
      ((builder.run fs before).1 ++ ((builder.after before).run (builder.run fs before).2 later).1,
        ((builder.after before).run (builder.run fs before).2 later).2) := by
  induction before generalizing builder fs with
  | nil => rfl
  | cons step before ih =>
      cases step with
      | compression compression => exact ih
      | entry entry => exact ih
      | write =>
          rw [List.cons_append, run, run, ih]
          rfl

/-- What is answered by the first part of a script is not taken back. -/
theorem run_prefix (before later : List BuilderStep) :
    (builder.run fs before).1 <+: (builder.run fs (before ++ later)).1 := by
  rw [run_append]
  exact List.prefix_append _ _

/-! ### What has been collected -/

/-- No step changes where the archive is. -/
@[simp]
theorem archive_after (steps : List BuilderStep) :
    (builder.after steps).archive = builder.archive := by
  induction steps generalizing builder with
  | nil => rfl
  | cons step steps ih =>
      refine ih.trans ?_
      cases step <;> rfl

/-- Steps collect the entries they append, in order, behind those that are there. A write neither
takes entries away nor adds any. -/
@[simp]
theorem entries_after (steps : List BuilderStep) :
    (builder.after steps).entries = builder.entries ++ appendedEntries steps := by
  induction steps generalizing builder with
  | nil => exact (List.append_nil _).symm
  | cons step steps ih =>
      refine ih.trans ?_
      cases step with
      | compression compression => rfl
      | entry entry => exact List.append_assoc ..
      | write => rfl

/-- What has been set last counts, and before anything is set, what the builder started with. -/
theorem compression_after (steps : List BuilderStep) :
    (builder.after steps).compression =
      (steps.filterMap BuilderStep.compression?).getLast?.getD builder.compression := by
  induction steps generalizing builder with
  | nil => rfl
  | cons step steps ih =>
      refine ih.trans ?_
      cases step with
      | compression compression =>
          change _ = (compression :: steps.filterMap BuilderStep.compression?).getLast?.getD _
          rw [List.getLast?_cons]
          rfl
      | entry entry => rfl
      | write => rfl

/-- What a new builder has collected after some steps. -/
theorem after_new (archive : String) (steps : List BuilderStep) :
    (Builder.new archive).after steps =
      ⟨archive, chosenCompression steps, appendedEntries steps⟩ := by
  have hcompression : ((Builder.new archive).after steps).compression = chosenCompression steps :=
    compression_after steps
  have hentries : ((Builder.new archive).after steps).entries = appendedEntries steps :=
    entries_after steps
  have harchive : ((Builder.new archive).after steps).archive = archive := archive_after steps
  rw [← hcompression, ← hentries]
  exact congrArg (Builder.mk · _ _) harchive

/-- To write with a builder is to build at once what it has collected. -/
theorem write_after_new (archive : String) (steps : List BuilderStep) (fs : FileSystem) :
    ((Builder.new archive).after steps).write fs =
      buildArchive fs archive (appendedEntries steps) (chosenCompression steps) := by
  rw [after_new, buildArchive_eq]
  rfl

/-- **A script does what its writings do, each building at once all that was collected before it.**
After any steps, to set a way to hold the data or to add an entry answers nothing and leaves the
files alone. A writing answers what building answers and leaves the files that building leaves, with
all entries added so far in order and the way that was set last, on the files that the earlier
writings left. What has been answered is not taken back. -/
theorem run_refines (fs : FileSystem) (archive : String) (before : List BuilderStep) :
    let seen := (Builder.new archive).run fs before
    let built := buildArchive seen.2 archive (appendedEntries before) (chosenCompression before)
    (∀ compression, (Builder.new archive).run fs (before ++ [.compression compression]) = seen) ∧
      (∀ entry, (Builder.new archive).run fs (before ++ [.entry entry]) = seen) ∧
      (Builder.new archive).run fs (before ++ [.write]) =
        (seen.1 ++ [built.result], built.files) ∧
      ∀ later, seen.1 <+: ((Builder.new archive).run fs (before ++ later)).1 := by
  intro seen built
  refine ⟨?_, ?_, ?_, run_prefix before⟩
  · intro compression
    rw [run_append, run, run, List.append_nil]
  · intro entry
    rw [run_append, run, run, List.append_nil]
  · rw [run_append, run, write_after_new]
    rfl

end Builder

end FixtureKit
