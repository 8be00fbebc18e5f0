import FixtureKit.Archive.Write
import FixtureKit.Proofs.Deflate.Encoder

/-!
# What an Archive Finds in Itself

The copy of an archive into itself reads the file from its start in pieces as large as the buffer
through which it writes. What is written for a piece reaches the file when the buffer is full, and
from then on the copy can read it too. So it matters what has been handed to the buffer by the time
the copy has read all that was there at the beginning. If all of it still waits in the buffer, the
copy is at the end of the file. If not, it goes on to read what it has written itself.

Stored data is handed on piece by piece. Once a piece as large as the buffer has been read, the end
of the file stays as far away as it was, and the copy goes on until it has read more than the size
fields can tell. Compressed data is handed on as the encoder sees fit.

## Main results

* `ownContent_eq`: both kinds of data are copied alike, however they are handed on.
* `ownContent_of_heldBack`: if nothing gets past the buffer, an archive finds what was there.
* `ownContent_of_not_heldBack`: otherwise it finds more, or does not come to an end.
* `heldBack_stored_iff`: stored data is held back if it is smaller than the buffer.
* `join_handedOn_deflated`: what the encoder at hand has handed on by then.
* `heldBack_deflated_of_lt`, `not_heldBack_deflated`: the encoder at hand holds everything back up
  to one segment, and nothing that does not get shorter from then on.
-/

namespace FixtureKit

namespace Archive

/-! ### Writing portions -/

section Portions

variable {handOn : List ByteArray → ByteArray → List ByteArray} (output : Buffered)

/-- What has reached the file is not taken back by any more portions. -/
theorem exists_foldl_write_file (portions : List ByteArray) :
    ∃ more, (portions.foldl Buffered.write output).file = output.file ++ more := by
  induction portions generalizing output with
  | nil => exact ⟨ByteArray.empty, ByteArray.append_empty.symm⟩
  | cons portion portions ih =>
      obtain ⟨first, hfirst⟩ := output.exists_write_file portion
      obtain ⟨others, hothers⟩ := ih (output.write portion)
      exact ⟨first ++ others, by rw [List.foldl_cons, hothers, hfirst, ByteArray.append_assoc]⟩

/-- Nothing of any portions is lost. -/
theorem foldl_write_bytes (portions : List ByteArray) :
    (portions.foldl Buffered.write output).file ++ (portions.foldl Buffered.write output).waiting =
      output.file ++ output.waiting ++ Bytes.join portions := by
  induction portions generalizing output with
  | nil => rw [List.foldl_nil, Bytes.join_nil, ByteArray.append_empty]
  | cons portion portions ih =>
      rw [List.foldl_cons, ih, Buffered.write_bytes, Bytes.join_cons, ByteArray.append_assoc]

/-- Portions that have room in the buffer together do not reach the file. -/
theorem foldl_write_file_of_lt {portions : List ByteArray}
    (h : output.waiting.size + (Bytes.join portions).size < Buffer.capacity) :
    (portions.foldl Buffered.write output).file = output.file := by
  induction portions generalizing output with
  | nil => rfl
  | cons portion portions ih =>
      rw [Bytes.join_cons, ByteArray.size_append] at h
      rw [List.foldl_cons, output.write_of_lt portion (by omega), ih]
      rw [ByteArray.size_append]
      omega

/-- What waits behind any portions has room in the buffer. -/
theorem size_foldl_write_waiting_le (h : output.waiting.size ≤ Buffer.capacity)
    (portions : List ByteArray) :
    (portions.foldl Buffered.write output).waiting.size ≤ Buffer.capacity := by
  induction portions generalizing output with
  | nil => exact h
  | cons portion portions ih => exact ih _ (output.size_write_waiting_le portion)

/-- What is handed on for a row of pieces comes before what is handed on for those behind it. -/
theorem handedOn_append (taken first second : List ByteArray) :
    Deflate.handedOn handOn taken (first ++ second) =
      Deflate.handedOn handOn taken first ++ Deflate.handedOn handOn (taken ++ first) second := by
  induction first generalizing taken with
  | nil => rw [List.nil_append, Deflate.handedOn, List.nil_append, List.append_nil]
  | cons piece first ih =>
      rw [List.cons_append, Deflate.handedOn, ih, Deflate.handedOn, List.append_assoc,
        List.append_assoc, List.singleton_append]

end Portions

/-! ### Reading in pieces -/

/-- A piece ends where its bytes end, behind those in front of it. -/
theorem extract_append_piece (content : ByteArray) {start : Nat} (hstart : start ≤ content.size)
    (count : Nat) :
    content.extract 0 start ++ content.extract start (start + count) =
      content.extract 0 (start + (content.extract start (start + count)).size) := by
  have hcut := ByteArray.extract_extract (a := content) (i := 0) (j := content.size) (k := 0)
    (l := start + count)
  have hend : start + (content.extract start (start + count)).size =
      min (start + count) content.size := by
    rw [ByteArray.size_extract]
    omega
  rw [ByteArray.extract_zero_size, Nat.zero_add, Nat.zero_add] at hcut
  rw [hend, ← hcut, ByteArray.extract_append_extract, Nat.min_eq_left (Nat.zero_le _),
    Nat.max_eq_right (Nat.le_add_right _ _)]

/-- The pieces in which a copy takes some bytes from a place on. -/
def piecesFrom (content : ByteArray) (start : Nat) : List ByteArray :=
  if start < content.size then
    let piece := content.extract start (start + Buffer.capacity)
    piece :: piecesFrom content (start + piece.size)
  else
    []
termination_by content.size - start
decreasing_by
  have : 0 < Buffer.capacity := by decide
  rw [ByteArray.size_extract]
  omega

/-- All pieces but the last are as large as the buffer. -/
theorem size_join_dropLast_piecesFrom (content : ByteArray) (start : Nat) :
    (Bytes.join (piecesFrom content start).dropLast).size =
      (content.size - start - 1) / Buffer.capacity * Buffer.capacity := by
  have hcapacity : Buffer.capacity = 8192 := rfl
  fun_induction piecesFrom content start with
  | case1 start hinside piece ih =>
      have hsize : piece.size = min (start + Buffer.capacity) content.size - start :=
        ByteArray.size_extract
      by_cases hmore : start + piece.size < content.size
      · have hrest : piecesFrom content (start + piece.size) ≠ [] := by
          rw [piecesFrom, if_pos hmore]
          exact List.cons_ne_nil _ _
        rw [List.dropLast_cons_of_ne_nil hrest, Bytes.join_cons, ByteArray.size_append, ih]
        rw [hcapacity] at hsize ⊢
        omega
      · rw [piecesFrom, if_neg hmore, List.dropLast_singleton, Bytes.join_nil, ByteArray.size_empty]
        rw [hcapacity] at hsize ⊢
        omega
  | case2 start houtside =>
      rw [List.dropLast_nil, Bytes.join_nil, ByteArray.size_empty, hcapacity]
      omega

/-- Behind the bytes in front of them the pieces are the bytes from there on. -/
theorem extract_append_join_piecesFrom (content : ByteArray) {start : Nat}
    (hstart : start ≤ content.size) :
    content.extract 0 start ++ Bytes.join (piecesFrom content start) = content := by
  fun_induction piecesFrom content start with
  | case1 start hinside piece ih =>
      have hsize : piece.size = min (start + Buffer.capacity) content.size - start :=
        ByteArray.size_extract
      rw [Bytes.join_cons, ← ByteArray.append_assoc, extract_append_piece content hstart,
        ih (by omega)]
  | case2 start houtside =>
      obtain rfl : start = content.size := by omega
      rw [Bytes.join_nil, ByteArray.append_empty, ByteArray.extract_zero_size]

/-- All pieces together are the bytes. -/
theorem join_piecesFrom (content : ByteArray) : Bytes.join (piecesFrom content 0) = content := by
  have hall := extract_append_join_piecesFrom content (Nat.zero_le _)
  rwa [ByteArray.extract_same, ByteArray.empty_append] at hall

/-- The pieces in front of the last one are the bytes up to a multiple of the buffer. -/
theorem join_dropLast_piecesFrom (content : ByteArray) :
    Bytes.join (piecesFrom content 0).dropLast =
      content.extract 0 ((content.size - 1) / Buffer.capacity * Buffer.capacity) := by
  obtain ⟨last, hlast⟩ := Deflate.exists_join_dropLast (piecesFrom content 0)
  have hsize := size_join_dropLast_piecesFrom content 0
  rw [join_piecesFrom] at hlast
  rw [Nat.sub_zero] at hsize
  generalize Bytes.join (piecesFrom content 0).dropLast = front at hlast hsize ⊢
  rw [← hsize, hlast, ByteArray.extract_append_eq_left rfl]

/-! ### The copy -/

section Copying

variable {handOn : List ByteArray → ByteArray → List ByteArray} {output : Buffered}
  {taken : List ByteArray} {copied : Nat} {front content : ByteArray}

/-- Whether nothing gets past the buffer behind some bytes while they are taken in pieces. -/
def HeldBehind (handOn : List ByteArray → ByteArray → List ByteArray) (front : ByteArray)
    (output : Buffered) (taken : List ByteArray) (copied : Nat) : Prop :=
  ((Deflate.handedOn handOn taken (piecesFrom front copied)).foldl Buffered.write output).file =
    front

/-- A copy that is given up has taken too much. -/
theorem copyFromOutput_error {cause : IoError}
    (h : copyFromOutput handOn output taken copied = .error cause) : cause = .entryTooLarge := by
  fun_induction copyFromOutput handOn output taken copied with
  | case1 => exact (Except.error.inj h).symm
  | case2 => cases h
  | case3 output taken copied _ _ piece ih => exact ih h

/-- A copy that comes to its end has not taken too much. -/
theorem size_copyFromOutput_le (h : copyFromOutput handOn output taken copied = .ok content) :
    content.size ≤ sizeLimit := by
  fun_induction copyFromOutput handOn output taken copied with
  | case1 => cases h
  | case2 output taken copied hlimit _ =>
      obtain rfl := Except.ok.inj h
      rw [ByteArray.size_extract]
      omega
  | case3 output taken copied _ _ piece ih => exact ih h

/-- If nothing gets past the buffer, the copy takes what was there when it began. -/
theorem copyFromOutput_of_heldBehind (hsize : front.size ≤ sizeLimit) (hfile : output.file = front)
    (hcopied : copied ≤ front.size) (hheld : HeldBehind handOn front output taken copied) :
    copyFromOutput handOn output taken copied = .ok front := by
  fun_induction copyFromOutput handOn output taken copied with
  | case1 => omega
  | case2 output taken copied _ hend =>
      rw [hfile] at hend ⊢
      obtain rfl : copied = front.size := by omega
      rw [ByteArray.extract_zero_size]
  | case3 output taken copied _ hmore piece ih =>
      have hpiece : piece = front.extract copied (copied + Buffer.capacity) := by rw [← hfile]
      have hlength : piece.size = min (copied + Buffer.capacity) front.size - copied := by
        rw [hpiece, ByteArray.size_extract]
      rw [hfile] at hmore
      rw [HeldBehind, piecesFrom, if_pos (by omega), ← hpiece, Deflate.handedOn,
        List.foldl_append] at hheld
      obtain ⟨first, hfirst⟩ := exists_foldl_write_file output (handOn taken piece)
      obtain ⟨others, hothers⟩ := exists_foldl_write_file
        ((handOn taken piece).foldl Buffered.write output)
        (Deflate.handedOn handOn (taken ++ [piece]) (piecesFrom front (copied + piece.size)))
      -- the file does not shrink again, so it has not grown with the first portions either
      have hsame : ((handOn taken piece).foldl Buffered.write output).file = front := by
        rw [hheld] at hothers
        have hsizes := congrArg ByteArray.size hothers
        rw [hfirst, hfile, ByteArray.size_append, ByteArray.size_append] at hsizes
        have hnone : first = ByteArray.empty := ByteArray.size_eq_zero_iff.1 (by omega)
        rw [hfirst, hnone, hfile, ByteArray.append_empty]
      exact ih hsame (by omega) hheld

/-- What a copy takes starts with what was there when it began, and if it is no more, nothing has
got past the buffer. -/
theorem exists_of_copyFromOutput (h : copyFromOutput handOn output taken copied = .ok content)
    (hfront : ∃ more, output.file = front ++ more) (hcopied : copied ≤ output.file.size) :
    (∃ more, content = front ++ more) ∧
      (content = front → output.file = front ∧ HeldBehind handOn front output taken copied) := by
  fun_induction copyFromOutput handOn output taken copied with
  | case1 => cases h
  | case2 output taken copied _ hend =>
      obtain rfl : copied = output.file.size := by omega
      obtain rfl := Except.ok.inj h
      rw [ByteArray.extract_zero_size]
      refine ⟨hfront, fun hfile => ⟨hfile, ?_⟩⟩
      rw [HeldBehind, hfile, piecesFrom, if_neg (Nat.lt_irrefl _)]
      exact hfile
  | case3 output taken copied _ hmore piece ih =>
      obtain ⟨first, hfirst⟩ := exists_foldl_write_file output (handOn taken piece)
      have hlength : piece.size = min (copied + Buffer.capacity) output.file.size - copied :=
        ByteArray.size_extract
      have hgrown := congrArg ByteArray.size hfirst
      rw [ByteArray.size_append] at hgrown
      obtain ⟨more, hfile⟩ := hfront
      obtain ⟨hcontent, hheld⟩ := ih h
        ⟨more ++ first, by rw [hfirst, hfile, ByteArray.append_assoc]⟩ (by omega)
      refine ⟨hcontent, fun heq => ?_⟩
      obtain ⟨hsame, hrest⟩ := hheld heq
      have hbegan : output.file = front := by
        rw [hsame] at hgrown
        have hsizes := congrArg ByteArray.size hfile
        rw [ByteArray.size_append] at hsizes
        have hnone : more = ByteArray.empty := ByteArray.size_eq_zero_iff.1 (by omega)
        rw [hfile, hnone, ByteArray.append_empty]
      refine ⟨hbegan, ?_⟩
      have hpiece : piece = front.extract copied (copied + Buffer.capacity) := by rw [← hbegan]
      rw [HeldBehind, piecesFrom, if_pos (by rw [← hbegan]; omega), ← hpiece, Deflate.handedOn,
        List.foldl_append]
      exact hrest

/-- What a copy takes has been taken in pieces, and stands at the front of what was there when it
began with all that has been handed on behind it. -/
theorem exists_pieces_of_copyFromOutput
    (h : copyFromOutput handOn output taken copied = .ok content)
    (hbytes : output.file ++ output.waiting =
      front ++ Bytes.join (Deflate.handedOn handOn [] taken))
    (htaken : Bytes.join taken = output.file.extract 0 copied)
    (hcopied : copied ≤ output.file.size) :
    ∃ pieces rest, Bytes.join pieces = content ∧
      front ++ Bytes.join (Deflate.handedOn handOn [] pieces) = content ++ rest := by
  fun_induction copyFromOutput handOn output taken copied with
  | case1 => cases h
  | case2 output taken copied _ hend =>
      obtain rfl : copied = output.file.size := by omega
      obtain rfl := Except.ok.inj h
      rw [ByteArray.extract_zero_size] at htaken ⊢
      exact ⟨taken, output.waiting, htaken, hbytes.symm⟩
  | case3 output taken copied _ hmore piece ih =>
      obtain ⟨first, hfirst⟩ := exists_foldl_write_file output (handOn taken piece)
      have hlength : piece.size = min (copied + Buffer.capacity) output.file.size - copied :=
        ByteArray.size_extract
      -- the bytes that can be read only grow at their end, so what has been taken is still in front
      refine ih h ?_ ?_ ?_
      · rw [foldl_write_bytes, hbytes, handedOn_append, List.nil_append, Deflate.handedOn,
          Deflate.handedOn, List.append_nil, Bytes.join_append, ByteArray.append_assoc]
      · rw [Bytes.join_append, Bytes.join_cons, Bytes.join_nil, ByteArray.append_empty, htaken,
          extract_append_piece _ hcopied, hfirst,
          Bytes.extract_append_of_le (Nat.zero_le _) (by omega : copied + piece.size ≤ _)]
      · rw [hfirst, ByteArray.size_append]
        omega

end Copying

/-! ### Stored data -/

/-- A piece that fills the buffer goes past it, and nothing waits behind. -/
theorem waitingAfter_capacity (waiting : Nat) :
    Buffer.waitingAfter waiting Buffer.capacity = 0 := by
  rw [Buffer.waitingAfter, if_pos (Nat.le_refl _)]

/-- Less than a buffer waits in it. -/
theorem waitingAfter_zero {count : Nat} (h : count < Buffer.capacity) :
    Buffer.waitingAfter 0 count = count := by
  rw [Buffer.waitingAfter, if_neg (by omega), if_neg (by omega), Nat.zero_add]

/-- A count that is a buffer behind the end of the file never gets there: every piece takes the end
along. -/
theorem feedOnItself_of_ahead {onDisk copied : Nat} (h : copied + Buffer.capacity ≤ onDisk) :
    feedOnItself onDisk 0 copied = none := by
  generalize hwaiting : 0 = waiting
  fun_induction feedOnItself onDisk waiting copied with
  | case1 => rfl
  | case2 onDisk waiting copied _ hend =>
      have hpositive : 0 < Buffer.capacity := by decide
      omega
  | case3 onDisk waiting copied _ _ count stillWaiting ih =>
      have hcount : count = Buffer.capacity := Nat.min_eq_left (by omega)
      have hstill : stillWaiting = 0 := by
        rw [← waitingAfter_capacity waiting, ← hcount]
      exact ih (by omega) hstill.symm

/-- A count of less than a buffer is at its end after one piece, which waits in the buffer. -/
theorem feedOnItself_of_lt {onDisk : Nat} (h : onDisk < Buffer.capacity) :
    feedOnItself onDisk 0 0 = some onDisk := by
  have hlimit : ¬sizeLimit < 0 := Nat.not_lt_zero _
  have hfar : Buffer.capacity ≤ sizeLimit := by decide
  rw [feedOnItself, if_neg hlimit]
  split
  · next hempty => rw [Nat.le_zero.1 hempty]
  · have hcount : min Buffer.capacity (onDisk - 0) = onDisk := by omega
    simp only [hcount, waitingAfter_zero h]
    rw [feedOnItself, if_neg (by omega), if_pos (by omega), Nat.zero_add]

/-- A piece that fills the buffer reaches the file with all that has waited. -/
theorem size_file_write {output : Buffered} {piece : ByteArray}
    (hpiece : piece.size = Buffer.capacity) :
    (output.write piece).file.size = output.file.size + output.waiting.size + Buffer.capacity := by
  simp only [Buffered.write, hpiece, waitingAfter_capacity, ByteArray.size_append,
    ByteArray.size_extract]
  omega

/-- The portions of stored data are its pieces. -/
def pieceByPiece (_ : List ByteArray) (piece : ByteArray) : List ByteArray :=
  [piece]

/-- All that is handed on of stored data is the data. -/
theorem handedOn_pieceByPiece (taken pieces : List ByteArray) :
    Deflate.handedOn pieceByPiece taken pieces = pieces := by
  induction pieces generalizing taken with
  | nil => rfl
  | cons piece pieces ih =>
      rw [Deflate.handedOn, ih, pieceByPiece, List.singleton_append]

/-- A copy of stored data that is a buffer behind the end of the file never gets there. -/
theorem copyFromOutput_of_ahead {output : Buffered} {taken : List ByteArray} {copied : Nat}
    (h : copied + Buffer.capacity ≤ output.file.size) :
    copyFromOutput pieceByPiece output taken copied = .error .entryTooLarge := by
  fun_induction copyFromOutput pieceByPiece output taken copied with
  | case1 => rfl
  | case2 output taken copied _ hend =>
      have hpositive : 0 < Buffer.capacity := by decide
      omega
  | case3 output taken copied _ _ piece ih =>
      have hpiece : piece.size = Buffer.capacity := by
        change (output.file.extract copied (copied + Buffer.capacity)).size = _
        rw [ByteArray.size_extract]
        omega
      refine ih ?_
      rw [pieceByPiece, List.foldl_cons, List.foldl_nil, size_file_write hpiece]
      omega

/-- An archive that has filled the buffer when it begins to read itself never gets to its end. -/
theorem copyFromOutput_of_full {front : ByteArray} (hfull : Buffer.capacity ≤ front.size) :
    copyFromOutput pieceByPiece ⟨front, ByteArray.empty⟩ [] 0 = .error .entryTooLarge := by
  refine copyFromOutput_of_ahead ?_
  rwa [Nat.zero_add]

/-! ### Both kinds of data -/

section Kinds

variable [Deflate.Encoder] {compression : Compression} {front content : ByteArray}

/-- The portions in which the data of an entry is handed on. -/
def portionsOf : Compression → List ByteArray → ByteArray → List ByteArray
  | .stored => pieceByPiece
  | .deflated => Deflate.Encoder.handOn

/-- Whether an archive of which some bytes have been written is held back by the buffer until these
have all been read: nothing of the data that is made of them has reached the file by then. -/
def HeldBack (compression : Compression) (front : ByteArray) : Prop :=
  HeldBehind (portionsOf compression) front ⟨front, ByteArray.empty⟩ [] 0

/-- What makes less than a buffer is held back. -/
theorem heldBack_of_lt
    (h : (Bytes.join (Deflate.handedOn (portionsOf compression) [] (piecesFrom front 0))).size <
      Buffer.capacity) : HeldBack compression front :=
  foldl_write_file_of_lt ⟨front, ByteArray.empty⟩ (by rwa [ByteArray.size_empty, Nat.zero_add])

/-- What is held back makes no more than a buffer. -/
theorem size_le_of_heldBack (h : HeldBack compression front) :
    (Bytes.join (Deflate.handedOn (portionsOf compression) [] (piecesFrom front 0))).size ≤
      Buffer.capacity := by
  have hbytes := foldl_write_bytes ⟨front, ByteArray.empty⟩
    (Deflate.handedOn (portionsOf compression) [] (piecesFrom front 0))
  have hwaiting := size_foldl_write_waiting_le ⟨front, ByteArray.empty⟩ (Nat.zero_le _)
    (Deflate.handedOn (portionsOf compression) [] (piecesFrom front 0))
  rw [HeldBack, HeldBehind] at h
  rw [h, ByteArray.append_empty] at hbytes
  rwa [(ByteArray.append_right_inj front).1 hbytes] at hwaiting

/-- Stored data is held back if and only if it is smaller than the buffer. -/
theorem heldBack_stored_iff : HeldBack .stored front ↔ front.size < Buffer.capacity := by
  constructor
  · intro hheld
    refine Nat.lt_of_not_le fun hfull => ?_
    have hpositive : 0 < Buffer.capacity := by decide
    have hpiece : (front.extract 0 (0 + Buffer.capacity)).size = Buffer.capacity := by
      rw [ByteArray.size_extract]
      omega
    rw [HeldBack, HeldBehind, portionsOf, handedOn_pieceByPiece, piecesFrom, if_pos (by omega),
      List.foldl_cons] at hheld
    obtain ⟨more, hmore⟩ := exists_foldl_write_file
      (Buffered.write ⟨front, ByteArray.empty⟩ (front.extract 0 (0 + Buffer.capacity)))
      (piecesFrom front (0 + (front.extract 0 (0 + Buffer.capacity)).size))
    rw [hheld] at hmore
    have hsizes := congrArg ByteArray.size hmore
    rw [ByteArray.size_append, size_file_write hpiece] at hsizes
    simp only at hsizes
    omega
  · intro hsmall
    refine heldBack_of_lt ?_
    rwa [portionsOf, handedOn_pieceByPiece, join_piecesFrom]

/-- Both kinds of data are copied alike. -/
theorem ownContent_eq (compression : Compression) (front : ByteArray) :
    ownContent compression front =
      copyFromOutput (portionsOf compression) ⟨front, ByteArray.empty⟩ [] 0 := by
  cases compression with
  | deflated => rfl
  | stored =>
      rw [ownContent, portionsOf]
      by_cases hfull : Buffer.capacity ≤ front.size
      · rw [feedOnItself_of_ahead (by omega), copyFromOutput_of_full hfull]
      · have hfar : Buffer.capacity ≤ sizeLimit := by decide
        have hheld : HeldBehind pieceByPiece front ⟨front, ByteArray.empty⟩ [] 0 :=
          heldBack_stored_iff.2 (Nat.lt_of_not_le hfull)
        have hsize : front.size ≤ sizeLimit := by omega
        rw [feedOnItself_of_lt (by omega),
          copyFromOutput_of_heldBehind hsize rfl (Nat.zero_le _) hheld]
        simp only [ByteArray.extract_zero_size]

/-- An archive finds no more in itself than the size fields can tell. -/
theorem size_ownContent_le (h : ownContent compression front = .ok content) :
    content.size ≤ sizeLimit := by
  rw [ownContent_eq] at h
  exact size_copyFromOutput_le h

/-- If nothing gets past the buffer, an archive finds what was there when it began to read
itself. -/
theorem ownContent_of_heldBack (hsize : front.size ≤ sizeLimit)
    (hheld : HeldBack compression front) : ownContent compression front = .ok front := by
  rw [ownContent_eq]
  exact copyFromOutput_of_heldBehind hsize rfl (Nat.zero_le _) hheld

/-- Otherwise it does not come to an end, or it finds the start of its own compressed data as
well. -/
theorem ownContent_of_not_heldBack [Deflate.Encoder.Lawful] (hheld : ¬HeldBack compression front) :
    ownContent compression front = .error .entryTooLarge ∨
      compression = .deflated ∧ ∃ more rest, 0 < more.size ∧
        ownContent compression front = .ok (front ++ more) ∧
        Deflate.Encoder.compress (front ++ more) = more ++ rest := by
  cases hown : ownContent compression front with
  | error cause =>
      rw [ownContent_eq] at hown
      rw [copyFromOutput_error hown]
      exact .inl rfl
  | ok content =>
      have hcopy := hown
      rw [ownContent_eq] at hcopy
      cases compression with
      | stored =>
          rw [heldBack_stored_iff] at hheld
          rw [portionsOf, copyFromOutput_of_full (Nat.le_of_not_lt hheld)] at hcopy
          cases hcopy
      | deflated =>
          obtain ⟨⟨more, hmore⟩, hsame⟩ := exists_of_copyFromOutput hcopy
            ⟨ByteArray.empty, ByteArray.append_empty.symm⟩ (Nat.zero_le _)
          obtain ⟨pieces, left, hpieces, hleft⟩ := exists_pieces_of_copyFromOutput hcopy rfl
            ByteArray.extract_same.symm (Nat.zero_le _)
          obtain ⟨rest, hrest⟩ := Deflate.Encoder.Lawful.exists_compress_eq pieces
          subst hmore
          refine .inr ⟨rfl, more, left ++ rest, ?_, rfl, ?_⟩
          · refine Nat.pos_of_ne_zero fun hnone => hheld (hsame ?_).2
            rw [ByteArray.size_eq_zero_iff.1 hnone, ByteArray.append_empty]
          · rw [ByteArray.append_assoc] at hleft
            have hhanded := (ByteArray.append_right_inj front).1 hleft
            rw [← hpieces, hrest, ← ByteArray.append_assoc, ← hhanded, portionsOf]

end Kinds

/-! ### The encoder at hand -/

/-- When the encoder at hand has read all that was there, it has handed on the segments that were
finished with the piece before the last. -/
theorem join_handedOn_deflated (front : ByteArray) :
    Bytes.join (Deflate.handedOn (portionsOf .deflated) [] (piecesFrom front 0)) =
      Deflate.finished
        (front.extract 0 ((front.size - 1) / Buffer.capacity * Buffer.capacity)) := by
  rw [portionsOf, Deflate.join_handedOn, join_dropLast_piecesFrom]

/-- The encoder at hand holds everything back up to one segment. -/
theorem heldBack_deflated_of_lt {front : ByteArray} (h : front.size < Deflate.segmentSize) :
    HeldBack .deflated front := by
  refine heldBack_of_lt ?_
  have hsize : (front.extract 0 ((front.size - 1) / Buffer.capacity * Buffer.capacity)).size <
      Deflate.segmentSize := by
    rw [ByteArray.size_extract]
    omega
  rw [join_handedOn_deflated, Deflate.finished_of_lt hsize]
  decide

/-- The encoder at hand does not hold back a segment without repetitions that is finished before the
last piece comes. -/
theorem not_heldBack_deflated {front : ByteArray} {count : Nat}
    (hsize : (count + 1) * Deflate.segmentSize + 2 ≤
      (front.size - 1) / Buffer.capacity * Buffer.capacity)
    (h : Deflate.Unrepeated front (count * Deflate.segmentSize)
      ((count + 1) * Deflate.segmentSize)) : ¬HeldBack .deflated front := by
  intro hheld
  have hsmall := size_le_of_heldBack hheld
  have hinside : (front.size - 1) / Buffer.capacity * Buffer.capacity ≤ front.size :=
    Nat.le_trans (Nat.div_mul_le_self _ _) (Nat.sub_le _ _)
  have hlarge := h.lt_size_finished hsize hinside
  have hcapacity : Buffer.capacity < Deflate.segmentSize := by decide
  rw [join_handedOn_deflated] at hsmall
  omega

/-- With the encoder at hand, an archive finds what was there when it began to read itself, as long
as that is less than a buffer. -/
theorem ownContent_of_lt {front : ByteArray} (compression : Compression)
    (h : front.size < Buffer.capacity) : ownContent compression front = .ok front := by
  have hlimit : Buffer.capacity ≤ sizeLimit := by decide
  have hsegment : Buffer.capacity ≤ Deflate.segmentSize := by decide
  refine ownContent_of_heldBack (by omega) ?_
  cases compression with
  | stored => exact heldBack_stored_iff.2 h
  | deflated => exact heldBack_deflated_of_lt (by omega)

end Archive

end FixtureKit
