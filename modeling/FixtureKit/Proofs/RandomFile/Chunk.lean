import FixtureKit.Proofs.RandomFile.Requests

/-!
# Files Filled Through One Chunk

A file holds what the generator answered, byte for byte, and nothing of what stood there before.
The requests depend on the size alone, never on the replies.

The bytes pass through one chunk of memory that is used again for every request. A source that
writes over the front of the chunk finds there what it left the last time, and behind the front of a
short request the chunk keeps old bytes. Such a source is a generator whose state includes the
chunk, so what holds of every generator holds of it: none of the old bytes gets into the
file, unless the source itself puts them there.

## Main results

* `draw_onChunk`: a loop that uses one chunk again draws what the generator answers.
* `writeRandomFile_exact`: what a file holds, and what else is left alone.
-/

namespace FixtureKit

open FileSystem

/-! ### One chunk for all requests -/

/-- A source of bytes that writes over a piece of memory. What it leaves there may depend on what it
finds. -/
structure Overwriter (σ : Type) where
  /-- The piece as it is left, and the state after it. -/
  overwrite : σ → ByteArray → ByteArray × σ
  size_overwrite : ∀ state piece, (overwrite state piece).1.size = piece.size

namespace Overwriter

variable {σ : Type} (source : Overwriter σ)

/-- Answers a request with what the source leaves in the front of a chunk, which is kept for the
next request. -/
def onChunk : Generator (σ × ByteArray) where
  reply state count :=
    let piece := source.overwrite state.1 (Bytes.resized state.2 count)
    (piece.1, (piece.2, piece.1 ++ state.2.extract count state.2.size))
  size_reply state count := by
    simp only [source.size_overwrite, Bytes.size_resized]

/-- Draws `remaining` bytes: as long as some are missing, hands out the front of the chunk, as much
of it as is needed, and takes what is there then. -/
def drawThrough (chunk : ByteArray) (remaining : Nat) (state : σ) (content : ByteArray)
    (requests : List Nat) : RandomFile.Draw σ :=
  if remaining = 0 ∨ chunk.size = 0 then
    ⟨content, state, requests.reverse, true⟩
  else
    let count := min remaining chunk.size
    let piece := source.overwrite state (chunk.extract 0 count)
    drawThrough (piece.1 ++ chunk.extract count chunk.size) (remaining - count) piece.2
      (content ++ piece.1) (count :: requests)
termination_by remaining
decreasing_by omega

/-- The front of a chunk is all that a request sees of it. -/
theorem reply_onChunk (state : σ) {chunk : ByteArray} {count : Nat} (h : count ≤ chunk.size) :
    source.onChunk.reply (state, chunk) count =
      let piece := source.overwrite state (chunk.extract 0 count)
      (piece.1, (piece.2, piece.1 ++ chunk.extract count chunk.size)) := by
  have hfront : Bytes.resized chunk count = chunk.extract 0 count := by
    have hnothing : count - chunk.size = 0 := Nat.sub_eq_zero_of_le h
    rw [Bytes.resized, hnothing]
    exact ByteArray.append_empty
  simp only [onChunk, hfront]

/-- A loop that uses one chunk again draws what the generator answers: the chunk is a part of the
state and nothing else. -/
theorem draw_onChunk (chunk : ByteArray) (remaining waiting : Nat) (state : σ)
    (content : ByteArray) (requests : List Nat) :
    let drawn := RandomFile.draw source.onChunk true chunk.size remaining waiting (state, chunk)
      content requests
    source.drawThrough chunk remaining state content requests =
      ⟨drawn.content, drawn.state.1, drawn.requests, drawn.written⟩ := by
  fun_induction drawThrough source chunk remaining state content requests generalizing waiting with
  | case1 chunk remaining state content requests hdone =>
      rw [RandomFile.draw, if_pos hdone]
      rfl
  | case2 chunk remaining state content requests hmore count piece ih =>
      have hcount : count ≤ chunk.size := Nat.min_le_right _ _
      have hsize : (piece.1 ++ chunk.extract count chunk.size).size = chunk.size := by
        have hpiece : piece.1.size = count := by
          rw [source.size_overwrite, ByteArray.size_extract]
          omega
        rw [ByteArray.size_append, hpiece, ByteArray.size_extract]
        omega
      have hreply : source.onChunk.reply (state, chunk) (min remaining chunk.size) =
          (piece.1, (piece.2, piece.1 ++ chunk.extract count chunk.size)) :=
        source.reply_onChunk state hcount
      rw [hsize] at ih
      rw [RandomFile.draw_of_more source.onChunk hmore]
      simp only [hreply]
      exact ih _

end Overwriter

/-- A chunk before its first use: as long as a request can be for a file of the given size. -/
def RandomFile.freshChunk (size : Nat) : ByteArray :=
  ⟨Array.replicate (min requestLimit size) 0⟩

/-- What goes through one chunk is what a file is filled with. -/
theorem writeRandomFile_onChunk {σ : Type} (source : Overwriter σ) (state : σ)
    {fs opened : FileSystem} {path : String} {target : Location} (size : Nat)
    (hopen : fs.openForWriting path = .ok (.file target, opened)) :
    let chunk := RandomFile.freshChunk size
    let drawn := source.drawThrough chunk size state ByteArray.empty []
    let filled := writeRandomFile source.onChunk (state, chunk) fs path size
    filled.result = .ok () ∧ filled.files = opened.put target (.file drawn.content) ∧
      filled.state.1 = drawn.state ∧ filled.requests = drawn.requests := by
  intro chunk drawn filled
  have hsize : chunk.size = min RandomFile.requestLimit size := Array.size_replicate
  have hdrawn : drawn = _ := source.draw_onChunk chunk size 0 state ByteArray.empty []
  have hroom : decide (Sink.file target ≠ Sink.fullDevice) = true := by simp
  have hfilled : filled = writeRandomFile source.onChunk (state, chunk) fs path size := rfl
  rw [writeRandomFile, hopen] at hfilled
  simp only [hroom, ← hsize] at hfilled
  rw [hdrawn, hfilled]
  exact ⟨rfl, rfl, rfl, rfl⟩

/-! ### What a file holds -/

/-- **A file holds exactly what the generator answered.** Where the file cannot be opened, nothing
is asked of the generator and nothing changes. Otherwise there are as many full requests as fit the
size and one for the rest; the file holds the replies to these, one behind the other, whatever
it held before, the generator is left behind the last of them, and no other location changes. -/
theorem writeRandomFile_exact {σ : Type} (generator : Generator σ) (state : σ) (fs : FileSystem)
    (path : String) (size : Nat) :
    let filled := writeRandomFile generator state fs path size
    let requests := List.replicate (size / 65536) 65536 ++
      if size % 65536 = 0 then [] else [size % 65536]
    let replies := generator.replies state requests
    (∀ cause, fs.openForWriting path = .error cause →
      filled.result = .error ⟨path, cause⟩ ∧ filled.requests = [] ∧ filled.state = state ∧
        filled.files = fs) ∧
      ∀ target opened, fs.openForWriting path = .ok (.file target, opened) →
        filled.result = .ok () ∧ filled.requests = requests ∧ filled.state = replies.2 ∧
          filled.files.openForReading path = .ok (target, .file replies.1) ∧
          replies.1.size = size ∧
          filled.files.workingDirectory = fs.workingDirectory ∧
          ∀ location, location ≠ target → filled.files.get? location = fs.get? location := by
  intro filled requests replies
  constructor
  · intro cause hrefused
    have hfilled : filled = _ := writeRandomFile_of_error hrefused
    rw [hfilled]
    exact ⟨rfl, rfl, rfl, rfl⟩
  · intro target opened hopen
    have hfilled : filled = ⟨.ok (), opened.put target (.file replies.1), replies.2, requests⟩ :=
      writeRandomFile_of_openForWriting generator state size hopen
    have hsize : replies.1.size = size := by
      rw [generator.size_replies]
      exact RandomFile.sum_requestsUpTo 65536 size
    obtain ⟨hfill, hempty, -⟩ := find_of_openForWriting hopen
    rw [hfilled]
    refine ⟨rfl, rfl, rfl, openForReading_of_openForWriting hopen _, hsize, ?_, ?_⟩
    · rw [hempty]
      rfl
    · intro location hother
      rw [hempty, put_put, hfill.get?_put, if_neg hother]

/-! ### A file in place of a longer one

The path of the file is a link to one that is longer than what comes in its place, and the last
request is for one byte. In a directory that is missing no file can be made. -/

/-- A working directory with a link to a file of 200000 bytes. -/
def longerFile : FileSystem where
  workingDirectory := ["w"]
  objects :=
    [(["d", "w"], .directory), (["small", "d", "w"], .link "../old"),
      (["old", "w"], .file ⟨Array.replicate 200000 7⟩)]

/-- In the missing directory nothing is asked for. Behind the link three requests make a shorter
file out of the longer one. -/
theorem writeRandomFile_exact_longer :
    let refused := writeRandomFile Generator.ramp (7, 3) longerFile "e/small" 131073
    let filled := writeRandomFile Generator.ramp (7, 3) longerFile "d/small" 131073
    let replies := Generator.ramp.replies (7, 3) [65536, 65536, 1]
    longerFile.openForWriting "e/small" = .error .notFound ∧
      refused.result = .error ⟨"e/small", .notFound⟩ ∧ refused.requests = [] ∧
      refused.state = (7, 3) ∧ refused.files = longerFile ∧
      filled.result = .ok () ∧ filled.requests = [65536, 65536, 1] ∧ filled.state = (7, 6) ∧
      filled.files.openForReading "d/small" = .ok (["old", "w"], .file replies.1) ∧
      replies.1.size = 131073 ∧
      filled.files.get? ["small", "d", "w"] = some (.link "../old") := by
  intro refused filled replies
  have hrefused : longerFile.openForWriting "e/small" = .error .notFound := rfl
  have hopen : longerFile.openForWriting "d/small" = .ok (.file ["old", "w"], _) := rfl
  obtain ⟨hgone, -⟩ := writeRandomFile_exact Generator.ramp (7, 3) longerFile "e/small" 131073
  obtain ⟨herror, hnone, hkept, hsame⟩ := hgone _ hrefused
  obtain ⟨-, hthere⟩ := writeRandomFile_exact Generator.ramp (7, 3) longerFile "d/small" 131073
  obtain ⟨hok, hasked, hlast, hread, hsize, -, hothers⟩ := hthere _ _ hopen
  exact ⟨hrefused, herror, hnone, hkept, hsame, hok, hasked, hlast, hread, hsize,
    hothers _ (by decide)⟩

end FixtureKit
