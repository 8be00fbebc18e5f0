import FixtureKit.Archive.Error
import FixtureKit.Archive.Record

/-!
# Finding the End Record

The directory of an archive is found from its end. Every place where the signature of an end
record stands is a candidate, the last one first. A candidate tells, by itself or by a long end
record in front of it, where the directory is; what stands in front of the archive shifts all
offsets alike.

## Conventions

* If no candidate is good, the error is the last one recorded. A record that is cut short or a
  comment that does not fit is recorded only if nothing is recorded yet.

## Main results

* `position_of_findEnd` — an end record is found below the place at which the search starts.
-/

namespace FixtureKit

namespace Archive

/-- What an accepted end record says about the directory. -/
structure Located where
  /-- Where the end record stands. -/
  position : Nat
  /-- What has to be added to all offsets. -/
  archiveOffset : Nat
  /-- Where the directory starts. -/
  directoryStart : Nat
  /-- The number of headers in the directory. -/
  count : Nat
  /-- Whether the numbers of the record agree with each other. -/
  consistent : Bool

/-! ### The long end record -/

/-- What the locator of a long end record says. -/
structure Locator where
  /-- Where the locator stands. -/
  position : Nat
  disk : Nat
  /-- Where the long end record would be if nothing stood in front of the archive. -/
  recordOffset : Nat
  disks : Nat

/-- The locator in front of the end record at a position. -/
def locatorBefore (bytes : ByteArray) (position : Nat) : Option Locator :=
  if 20 ≤ position ∧ Bytes.hasAt bytes locatorSignature (position - 20) then
    let place := position - 20
    some
      { position := place
        disk := Bytes.number bytes (place + 4) 4
        recordOffset := Bytes.number bytes (place + 8) 8
        disks := Bytes.number bytes (place + 16) 4 }
  else
    none

/-- Reads the long end record at `place`, for the end record at `position`. -/
def readLongRecord (bytes : ByteArray) (position : Nat) (locator : Locator) (place : Nat) :
    Except FormatError Located :=
  if bytes.size < place + 56 then
    .error (.io .shortRead)
  else
    let length := Bytes.number bytes (place + 4) 8 + 12
    let maker := Bytes.number bytes (place + 12) 2
    let needed := Bytes.number bytes (place + 14) 2
    let disk := Bytes.number bytes (place + 16) 4
    let directoryDisk := Bytes.number bytes (place + 20) 4
    let countHere := Bytes.number bytes (place + 24) 8
    let count := Bytes.number bytes (place + 32) 8
    let directoryOffset := Bytes.number bytes (place + 48) 8
    let archiveOffset := place - locator.recordOffset
    if length < 56 then
      .error (.invalid .longEndRecordTooShort)
    else if locator.position < place + length then
      .error (.invalid .longEndRecordTooLong)
    else if directoryDisk ≠ locator.disk then
      .error (.invalid .longEndRecordDisk)
    else if place + length ≠ locator.position then
      .error (.invalid .longEndRecordLength)
    else if place < 46 * count + directoryOffset then
      .error (.invalid .longEndRecordCount)
    else
      .ok
        { position := position
          archiveOffset := archiveOffset
          directoryStart := directoryOffset + archiveOffset
          count := count
          consistent := countHere ≤ count && needed ≤ maker && disk == directoryDisk }

/-- Tries the long end records among `count` places from `start` on, in order. -/
def findLongRecord (bytes : ByteArray) (position : Nat) (locator : Locator) (start count : Nat)
    (recorded : Option FormatError) : Except FormatError Located :=
  match _hfound : Bytes.findFirst bytes longEndSignature start count with
  | none => .error (recorded.getD (.invalid .noLongEndRecord))
  | some place =>
    match readLongRecord bytes position locator place with
    | .ok located => .ok located
    | .error e =>
      findLongRecord bytes position locator (place + 1) (start + count - (place + 1)) (some e)
termination_by count
decreasing_by
  have := Bytes.findFirst_eq_some _hfound
  omega

/-- The directory by way of a locator. -/
def locateLong (bytes : ByteArray) (position : Nat) (locator : Locator) :
    Except FormatError Located :=
  if locator.position ≤ locator.recordOffset then
    .error (.invalid .locatorBehindItself)
  else if 1 < locator.disks then
    .error (.invalid .severalDisks)
  else
    findLongRecord bytes position locator locator.recordOffset
      (locator.position - 3 - locator.recordOffset) none

/-! ### The end record -/

/-- The directory by way of the end record alone: the first central header from the offset on. -/
def locateShort (bytes : ByteArray) (position countHere count offset : Nat) (consistent : Bool) :
    Except FormatError Located :=
  let located (archiveOffset : Nat) : Located :=
    { position := position
      archiveOffset := archiveOffset
      directoryStart := offset + archiveOffset
      count := countHere
      consistent := consistent }
  if count = 0 then
    .ok (located (position - offset))
  else if position ≤ offset then
    .error (.invalid .directoryBehindEndRecord)
  else
    match Bytes.findFirst bytes centralSignature offset (position - 3 - offset) with
    | some place => .ok (located (place - offset))
    | none => .error (.invalid .noCentralHeader)

/-- Why a candidate is refused. -/
inductive Refusal
  /-- It is cut short; this is recorded only if nothing is recorded yet. -/
  | cutShort (cause : FormatError)
  /-- It is whole but wrong. -/
  | wrong (cause : FormatError)

/-- The error on record after a refusal. -/
def Refusal.recordOver (refusal : Refusal) (recorded : Option FormatError) : Option FormatError :=
  match refusal with
  | .cutShort cause => recorded.or (some cause)
  | .wrong cause => some cause

/-- Reads the end record at a position and locates the directory. -/
def readEndRecord (bytes : ByteArray) (position : Nat) : Except Refusal Located :=
  if bytes.size < position + 22 then
    .error (.cutShort (.io .shortRead))
  else
    let disk := Bytes.number bytes (position + 4) 2
    let directoryDisk := Bytes.number bytes (position + 6) 2
    let countHere := Bytes.number bytes (position + 8) 2
    let count := Bytes.number bytes (position + 10) 2
    let offset := Bytes.number bytes (position + 16) 4
    let commentLength := Bytes.number bytes (position + 20) 2
    if bytes.size < position + 22 + commentLength then
      .error (.cutShort (.invalid .commentBeyondEnd))
    else
      let locator :=
        if count = 0xFFFF ∨ offset = 0xFFFFFFFF then locatorBefore bytes position else none
      let located :=
        match locator with
        | some locator => locateLong bytes position locator
        | none => locateShort bytes position countHere count offset (disk == directoryDisk)
      match located with
      | .ok located => .ok located
      | .error cause => .error (.wrong cause)

/-- The directory according to the last good end record among the first `count` places. -/
def findEnd (bytes : ByteArray) (count : Nat) (recorded : Option FormatError) :
    Except FormatError Located :=
  match _hfound : Bytes.findLast bytes endSignature count with
  | none => .error (recorded.getD (.invalid .noEndRecord))
  | some position =>
    match readEndRecord bytes position with
    | .ok located => .ok located
    | .error refusal => findEnd bytes position (refusal.recordOver recorded)
termination_by count
decreasing_by exact (Bytes.findLast_eq_some _hfound).1

/-! ### Where an end record is found -/

/-- A long end record says where the directory is, and nothing about its own place: what is located
keeps the position of the short record. -/
theorem position_of_readLongRecord {bytes : ByteArray} {position place : Nat} {locator : Locator}
    {located : Located} (h : readLongRecord bytes position locator place = .ok located) :
    located.position = position := by
  unfold readLongRecord at h
  dsimp only at h
  repeat' split at h
  all_goals first
    | cases h; rfl
    | cases h

/-- Whichever of the long records counts, what is located keeps the position of the short
record. -/
theorem position_of_findLongRecord {bytes : ByteArray} {position start count : Nat}
    {locator : Locator} {recorded : Option FormatError} {located : Located}
    (h : findLongRecord bytes position locator start count recorded = .ok located) :
    located.position = position := by
  fun_induction findLongRecord bytes position locator start count recorded with
  | case1 => cases h
  | case2 _ _ _ _ _ _ hread =>
    cases h
    exact position_of_readLongRecord hread
  | case3 _ _ _ _ _ _ _ ih => exact ih h

/-- A directory that is located through the locator of a long record keeps the position of the
short one. -/
theorem position_of_locateLong {bytes : ByteArray} {position : Nat} {locator : Locator}
    {located : Located} (h : locateLong bytes position locator = .ok located) :
    located.position = position := by
  unfold locateLong at h
  split at h
  · cases h
  · split at h
    · cases h
    · exact position_of_findLongRecord h

/-- A directory that is located through the short record alone keeps its position. -/
theorem position_of_locateShort {bytes : ByteArray} {position countHere count offset : Nat}
    {consistent : Bool} {located : Located}
    (h : locateShort bytes position countHere count offset consistent = .ok located) :
    located.position = position := by
  unfold locateShort at h
  dsimp only at h
  repeat' split at h
  all_goals first
    | cases h; rfl
    | cases h

/-- Whatever an end record leads to, the directory is located from the position it was read at. -/
theorem position_of_readEndRecord {bytes : ByteArray} {position : Nat} {located : Located}
    (h : readEndRecord bytes position = .ok located) : located.position = position := by
  unfold readEndRecord at h
  dsimp only at h
  split at h
  · cases h
  · split at h
    · cases h
    · split at h
      · next hlocated =>
        cases h
        split at hlocated
        · exact position_of_locateLong hlocated
        · exact position_of_locateShort hlocated
      · cases h

/-- An end record is found below the place at which the search starts. -/
theorem position_of_findEnd {bytes : ByteArray} {count : Nat} {recorded : Option FormatError}
    {located : Located} (h : findEnd bytes count recorded = .ok located) :
    located.position < count := by
  fun_induction findEnd bytes count recorded with
  | case1 => cases h
  | case2 _ _ _ hfound _ hread =>
    cases h
    rw [position_of_readEndRecord hread]
    exact (Bytes.findLast_eq_some hfound).1
  | case3 _ _ _ hfound _ _ ih =>
    have := (Bytes.findLast_eq_some hfound).1
    have := ih h
    omega

end Archive

end FixtureKit
