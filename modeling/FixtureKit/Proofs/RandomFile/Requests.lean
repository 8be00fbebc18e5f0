import FixtureKit.Proofs.FileSystem.Filling
import FixtureKit.RandomFile
import Mathlib.Algebra.Ring.Nat

/-!
# The Requests for a File

The loop that fills a file draws as many full requests as fit and one more for the rest.
Where there is room for everything, the buffer has no say in it: the file holds the
replies to exactly these requests, one behind the other, and the generator is left in the
state behind the last of them.

## Main results

* `draw_of_room`: with room, drawing is answering the requests of a size.
* `draw_of_no_room`: without room, one request is made and nothing is written.
* `writeRandomFile_of_openForWriting`: a file that can be made holds the replies.
* `openForWriting_of_writeRandomFile_ok`: nothing else is filled without failure.
* `files_of_writeRandomFile_error`: what is not filled is not changed.
-/

namespace FixtureKit

/-- The replies to requests, one behind the other, and the state after the last. -/
def Generator.replies {σ : Type} (generator : Generator σ) (state : σ) :
    List Nat → ByteArray × σ
  | [] => (ByteArray.empty, state)
  | count :: requests =>
    let (reply, next) := generator.reply state count
    let (more, last) := generator.replies next requests
    (reply ++ more, last)

/-- The replies are as long as the requests together. -/
theorem Generator.size_replies {σ : Type} (generator : Generator σ) (state : σ)
    (requests : List Nat) : (generator.replies state requests).1.size = requests.sum := by
  induction requests generalizing state with
  | nil => rfl
  | cons count requests ih =>
      rw [Generator.replies, ByteArray.size_append, generator.size_reply, ih, List.sum_cons]

namespace RandomFile

/-- The requests of at most `limit` bytes for `size` bytes: full ones and one for the rest. -/
def requestsUpTo (limit size : Nat) : List Nat :=
  List.replicate (size / limit) limit ++ if size % limit = 0 then [] else [size % limit]

/-- The requests for a file of the given size. -/
def requestsFor (size : Nat) : List Nat :=
  requestsUpTo requestLimit size

/-- Less than the limit is one request. -/
theorem requestsUpTo_of_lt {limit size : Nat} (hpositive : 0 < size) (h : size < limit) :
    requestsUpTo limit size = [size] := by
  rw [requestsUpTo, Nat.div_eq_of_lt h, Nat.mod_eq_of_lt h, List.replicate_zero, List.nil_append,
    if_neg (by omega)]

/-- From the limit on, the first request is for as much as the limit allows. -/
theorem requestsUpTo_of_le {limit size : Nat} (hpositive : 0 < limit) (h : limit ≤ size) :
    requestsUpTo limit size = limit :: requestsUpTo limit (size - limit) := by
  rw [requestsUpTo, requestsUpTo, Nat.div_eq_sub_div hpositive h, Nat.mod_eq_sub_mod h,
    List.replicate_succ, List.cons_append]

/-- The requests ask for the size together. -/
theorem sum_requestsUpTo (limit size : Nat) : (requestsUpTo limit size).sum = size := by
  have hdivision := Nat.div_add_mod size limit
  rw [requestsUpTo, List.sum_append, List.sum_replicate_nat, Nat.mul_comm]
  split
  · rw [List.sum_nil]
    omega
  · rw [List.sum_singleton]
    omega

/-- With room for everything, a request is made as long as bytes are missing. -/
theorem draw_of_more {σ : Type} (generator : Generator σ) {limit remaining : Nat}
    (hmore : ¬(remaining = 0 ∨ limit = 0)) (waiting : Nat) (state : σ) (content : ByteArray)
    (requests : List Nat) :
    draw generator true limit remaining waiting state content requests =
      let count := min remaining limit
      let answer := generator.reply state count
      draw generator true limit (remaining - count) (Buffer.waitingAfter waiting count) answer.2
        (content ++ answer.1) (count :: requests) := by
  rw [draw, if_neg hmore]
  rfl

/-- With room for everything, drawing is answering the requests of a size. -/
theorem draw_of_room {σ : Type} (generator : Generator σ) {limit : Nat} (hlimit : 0 < limit)
    (remaining waiting : Nat) (state : σ) (content : ByteArray) (requests : List Nat) :
    draw generator true limit remaining waiting state content requests =
      let drawn := generator.replies state (requestsUpTo limit remaining)
      ⟨content ++ drawn.1, drawn.2, requests.reverse ++ requestsUpTo limit remaining, true⟩ := by
  induction remaining using Nat.strongRecOn generalizing waiting state content requests with
  | ind remaining ih =>
      by_cases hmore : remaining = 0 ∨ limit = 0
      · obtain rfl : remaining = 0 := by omega
        rw [draw, if_pos hmore]
        simp [requestsUpTo, Generator.replies]
      · have hcount : requestsUpTo limit remaining =
            min remaining limit :: requestsUpTo limit (remaining - min remaining limit) := by
          rcases Nat.lt_or_ge remaining limit with hlt | hle
          · rw [requestsUpTo_of_lt (by omega) hlt, Nat.min_eq_left (Nat.le_of_lt hlt),
              Nat.sub_self]
            simp [requestsUpTo]
          · rw [requestsUpTo_of_le hlimit hle, Nat.min_eq_right hle]
        rw [draw_of_more generator hmore, ih _ (by omega), hcount]
        simp only [Generator.replies, List.reverse_cons, List.append_assoc,
          List.singleton_append, ByteArray.append_assoc]

/-- The limit that a file of a size is drawn with gives the same requests as the common one. -/
theorem requestsUpTo_min (size : Nat) :
    requestsUpTo (min requestLimit size) size = requestsFor size := by
  rw [requestsFor]
  rcases Nat.lt_or_ge size requestLimit with hlt | hle
  · rw [Nat.min_eq_right (Nat.le_of_lt hlt)]
    rcases Nat.eq_zero_or_pos size with rfl | hpositive
    · simp [requestsUpTo]
    · rw [requestsUpTo_of_lt hpositive hlt, requestsUpTo_of_le hpositive (Nat.le_refl size),
        Nat.sub_self]
      simp [requestsUpTo]
  · rw [Nat.min_eq_left hle]

end RandomFile

/-- A file that can be made is filled with the replies to the requests of its size. -/
theorem writeRandomFile_of_openForWriting {σ : Type} (generator : Generator σ) (state : σ)
    {fs opened : FileSystem} {path : String} {target : Location} (size : Nat)
    (hopen : fs.openForWriting path = .ok (.file target, opened)) :
    writeRandomFile generator state fs path size =
      let drawn := generator.replies state (RandomFile.requestsFor size)
      ⟨.ok (), opened.put target (.file drawn.1), drawn.2, RandomFile.requestsFor size⟩ := by
  have hdraw : RandomFile.draw generator true (min RandomFile.requestLimit size) size 0 state
      ByteArray.empty [] =
        let drawn := generator.replies state (RandomFile.requestsFor size)
        ⟨drawn.1, drawn.2, RandomFile.requestsFor size, true⟩ := by
    rcases Nat.eq_zero_or_pos size with rfl | hpositive
    · rw [RandomFile.draw, if_pos (.inl rfl)]
      simp [RandomFile.requestsFor, RandomFile.requestsUpTo, Generator.replies]
    · have hlimit : 0 < min RandomFile.requestLimit size := by
        have : 0 < RandomFile.requestLimit := by decide
        omega
      rw [RandomFile.draw_of_room generator hlimit, RandomFile.requestsUpTo_min]
      simp only [ByteArray.empty_append, List.reverse_nil, List.nil_append]
  have hroom : decide (Sink.file target ≠ Sink.fullDevice) = true := by simp
  rw [writeRandomFile, hopen]
  simp only [hroom, hdraw]

/-- The same where only the file that is filled has changed by opening it. -/
theorem writeRandomFile_of_opens {σ : Type} (generator : Generator σ) (state : σ)
    {fs : FileSystem} {path : String} {target : Location} (size : Nat)
    (hopen : fs.openForWriting path =
      .ok (.file target, fs.put target (.file ByteArray.empty))) :
    writeRandomFile generator state fs path size =
      let drawn := generator.replies state (RandomFile.requestsFor size)
      ⟨.ok (), fs.put target (.file drawn.1), drawn.2, RandomFile.requestsFor size⟩ := by
  rw [writeRandomFile_of_openForWriting generator state size hopen]
  simp only [FileSystem.put_put]

/-- Only a file can be filled, and not the full device. -/
theorem openForWriting_of_writeRandomFile_ok {σ : Type} {generator : Generator σ} {state : σ}
    {fs : FileSystem} {path : String} {size : Nat}
    (h : (writeRandomFile generator state fs path size).result = .ok ()) :
    ∃ target, fs.openForWriting path =
      .ok (.file target, fs.put target (.file ByteArray.empty)) := by
  rw [writeRandomFile] at h
  split at h
  · cases h
  · next sink opened hopen =>
      cases sink with
      | fullDevice => cases h
      | file target =>
          obtain ⟨-, rfl, -⟩ := FileSystem.find_of_openForWriting hopen
          exact ⟨target, hopen⟩

/-- A file that cannot be filled leaves all files alone, and the error names its path. -/
theorem files_of_writeRandomFile_error {σ : Type} {generator : Generator σ} {state : σ}
    {fs : FileSystem} {path : String} {size : Nat} {e : FillError}
    (h : (writeRandomFile generator state fs path size).result = .error e) :
    e.path = path ∧ (writeRandomFile generator state fs path size).files = fs := by
  cases hopen : fs.openForWriting path with
  | error cause =>
      rw [writeRandomFile_of_error hopen] at h ⊢
      cases h
      exact ⟨rfl, rfl⟩
  | ok opening =>
      obtain ⟨sink, opened⟩ := opening
      rcases FileSystem.openForWriting_eq_ok hopen with ⟨target, rfl, -⟩ | ⟨rfl, rfl⟩
      · rw [writeRandomFile_of_openForWriting generator state size hopen] at h
        cases h
      · rw [writeRandomFile, hopen] at h ⊢
        cases h
        exact ⟨rfl, rfl⟩

end FixtureKit
