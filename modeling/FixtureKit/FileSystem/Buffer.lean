import FixtureKit.Bytes

/-!
# Buffered Writing

What a writer hands over first waits in a buffer of fixed size. The buffer is emptied when more
comes than it has room for, and a piece that is as large as the buffer goes past it.

A file that is written so can be read at the same time, as far as the bytes have reached it.

## Main results

* `waitingAfter_of_not_passesOn` — while nothing is passed on, the buffer holds all that came.
* `write_of_lt` — what has room in the buffer does not reach the file.
-/

namespace FixtureKit

namespace Buffer

/-- The number of bytes that a buffer holds. -/
def capacity : Nat := 8192

/-- The number of bytes that wait after `count` more have come, with `waiting` of them before. -/
def waitingAfter (waiting count : Nat) : Nat :=
  if capacity ≤ count then 0
  else if capacity < waiting + count then count
  else waiting + count

/-- Whether bytes are passed on when `count` more come, with `waiting` of them before. -/
def passesOn (waiting count : Nat) : Bool :=
  capacity ≤ count || (waiting != 0 && capacity < waiting + count)

/-- No more waits than the buffer holds. -/
theorem waitingAfter_le (waiting count : Nat) : waitingAfter waiting count ≤ capacity := by
  unfold waitingAfter
  split
  · exact Nat.zero_le _
  · split <;> omega

end Buffer

/-- A file to the end of which a buffered writer writes. -/
structure Buffered where
  /-- The bytes that have reached the file. -/
  file : ByteArray
  /-- The bytes that wait in the buffer. -/
  waiting : ByteArray

/-- Hands a piece over. What the buffer does not keep reaches the file. -/
def Buffered.write (output : Buffered) (piece : ByteArray) : Buffered :=
  let all := output.waiting ++ piece
  let passed := all.size - Buffer.waitingAfter output.waiting.size piece.size
  ⟨output.file ++ all.extract 0 passed, all.extract passed all.size⟩

namespace Buffered

variable (output : Buffered) (piece : ByteArray)

/-- Nothing of a piece is lost: it stands behind what came before, in the file or in the buffer. -/
theorem write_bytes :
    (output.write piece).file ++ (output.write piece).waiting =
      output.file ++ output.waiting ++ piece := by
  simp only [write]
  rw [ByteArray.append_assoc, ByteArray.extract_append_extract, Nat.min_eq_left (Nat.zero_le _),
    Nat.max_eq_right (Nat.sub_le _ _), ByteArray.extract_zero_size, ← ByteArray.append_assoc]

/-- What has reached the file is not taken back. -/
theorem exists_write_file : ∃ more, (output.write piece).file = output.file ++ more :=
  ⟨_, rfl⟩

/-- What waits has room in the buffer. -/
theorem size_write_waiting_le : (output.write piece).waiting.size ≤ Buffer.capacity := by
  have hwaiting := Buffer.waitingAfter_le output.waiting.size piece.size
  simp only [write, ByteArray.size_extract]
  omega

/-- What has room in the buffer does not reach the file. -/
theorem write_of_lt (h : output.waiting.size + piece.size < Buffer.capacity) :
    output.write piece = ⟨output.file, output.waiting ++ piece⟩ := by
  have hwaiting : Buffer.waitingAfter output.waiting.size piece.size =
      (output.waiting ++ piece).size := by
    rw [Buffer.waitingAfter, if_neg (by omega), if_neg (by omega), ByteArray.size_append]
  simp only [write, hwaiting, Nat.sub_self, ByteArray.extract_same, ByteArray.append_empty,
    ByteArray.extract_zero_size]

end Buffered

end FixtureKit
