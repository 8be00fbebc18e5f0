import FixtureKit.Proofs.Generator.Unfolding
import FixtureKit.Proofs.RandomFile.Requests

/-!
# Files and the Laws of Generators

A file is filled in full requests and one for the rest. From a generator that is based on words
this makes no difference: every full request is made of whole words, so all requests together
are answered like a single one. From a generator whose replies extend, a smaller file holds the
first bytes of a larger one: the full requests for the smaller are made for the larger as well, and
the last reply is the front of the one that the larger file has there, however long that
is.

## Main results

* `WordBased.replies_requestsFor`: the requests for a file are answered like a single one.
* `RepliesExtend.replies_requestsUpTo`: a smaller file holds the first bytes of a larger one.
* `dropLast_requestsUpTo`: all requests but the last are made for the larger file, too.
* `writeRandomFile_single`, `writeRandomFile_smaller`: the same for the files that are written.
-/

namespace FixtureKit

open FileSystem RandomFile

/-! ### Replies to requests -/

namespace Generator

variable {σ : Type} {generator : Generator σ}

/-- The replies to a row of requests are the first one, and the others from the state behind it. -/
theorem replies_cons (state : σ) (count : Nat) (requests : List Nat) :
    generator.replies state (count :: requests) =
      ((generator.reply state count).1 ++
          (generator.replies (generator.reply state count).2 requests).1,
        (generator.replies (generator.reply state count).2 requests).2) := rfl

/-- The replies to one request are its reply. -/
theorem replies_singleton (state : σ) (count : Nat) :
    generator.replies state [count] = generator.reply state count := by
  simp only [replies, ByteArray.append_empty]

/-- Requests are answered one after the other, so the last of them can be made later. -/
theorem replies_append (state : σ) (requests later : List Nat) :
    generator.replies state (requests ++ later) =
      let front := generator.replies state requests
      let back := generator.replies front.2 later
      (front.1 ++ back.1, back.2) := by
  induction requests generalizing state with
  | nil => simp [replies]
  | cons count requests ih =>
      simp only [List.cons_append, replies_cons, ih, ByteArray.append_assoc]

/-! ### One request in place of many -/

/-- Requests for whole words are answered like a single one. -/
theorem WordBased.replies_of_dvd (h : generator.WordBased) (state : σ) {requests : List Nat}
    (hwords : ∀ count ∈ requests, 8 ∣ count) :
    generator.replies state requests = generator.reply state requests.sum := by
  induction requests generalizing state with
  | nil =>
      have hnone : (generator.reply state 0).1 = ByteArray.empty := by
        rw [← ByteArray.size_eq_zero_iff, generator.size_reply]
      rw [replies, List.sum_nil, ← hnone]
      exact Prod.ext rfl (h.state_reply_zero state).symm
  | cons count requests ih =>
      obtain ⟨hcount, hrest⟩ := List.forall_mem_cons.1 hwords
      rw [List.sum_cons, h.reply_add state count _ hcount]
      simp only [replies_cons, ih _ hrest]

/-- The requests for a file are answered like a single one: all but the last are for whole words. -/
theorem WordBased.replies_requestsFor (h : generator.WordBased) (state : σ) (size : Nat) :
    generator.replies state (requestsFor size) = generator.reply state size := by
  have hlimit : 8 ∣ requestLimit := by decide
  have hfull : ∀ count ∈ List.replicate (size / requestLimit) requestLimit, 8 ∣ count := by
    intro count hcount
    rw [List.eq_of_mem_replicate hcount]
    exact hlimit
  have hsum := sum_requestsUpTo requestLimit size
  rw [requestsUpTo] at hsum
  rw [requestsFor, requestsUpTo]
  split at hsum
  · next hexact =>
      rw [List.append_nil] at hsum
      rw [if_pos hexact, List.append_nil, h.replies_of_dvd state hfull, hsum]
  · next hrest =>
      have hdvd : 8 ∣ (List.replicate (size / requestLimit) requestLimit).sum := by
        rw [List.sum_replicate_nat]
        exact Nat.dvd_mul_left_of_dvd hlimit _
      rw [List.sum_append, List.sum_singleton] at hsum
      rw [if_neg hrest, replies_append, h.replies_of_dvd state hfull]
      simp only [replies_singleton]
      rw [← h.reply_add state _ _ hdvd, hsum]

/-! ### A smaller file and a larger one -/

/-- The replies for fewer bytes are the first bytes of those for more. A request that is the last
for the fewer bytes may be a longer one for the others, also a full one with more behind it. -/
theorem RepliesExtend.replies_requestsUpTo (h : generator.RepliesExtend) {limit : Nat}
    (hlimit : 0 < limit) (state : σ) {first size : Nat} (hle : first ≤ size) :
    (generator.replies state (requestsUpTo limit first)).1 =
      (generator.replies state (requestsUpTo limit size)).1.extract 0 first := by
  have hsize := generator.size_reply state limit
  induction first using Nat.strongRecOn generalizing state size with
  | ind first ih =>
      rcases Nat.eq_zero_or_pos first with rfl | hpositive
      · rw [ByteArray.extract_same]
        simp [requestsUpTo, replies]
      rcases Nat.lt_or_ge first limit with hlast | hfull
      · rw [requestsUpTo_of_lt hpositive hlast, replies_singleton]
        rcases Nat.lt_or_ge size limit with hshort | hlong
        · rw [requestsUpTo_of_lt (Nat.lt_of_lt_of_le hpositive hle) hshort, replies_singleton]
          exact h state first size hle
        · rw [requestsUpTo_of_le hlimit hlong, replies_cons,
            Bytes.extract_append_of_le (Nat.zero_le _)
              (by omega : first ≤ (generator.reply state limit).1.size)]
          exact h state first limit (Nat.le_of_lt hlast)
      · rw [requestsUpTo_of_le hlimit hfull,
          requestsUpTo_of_le hlimit (Nat.le_trans hfull hle), replies_cons, replies_cons,
          Bytes.extract_append_of_ge (by omega : (generator.reply state limit).1.size ≤ first),
          hsize, ih (first - limit) (by omega) _ (Nat.sub_le_sub_right hle limit)
            (generator.size_reply _ limit)]

end Generator

/-- All requests for fewer bytes but the last are made for more bytes, too. -/
theorem RandomFile.dropLast_requestsUpTo {limit : Nat} (hlimit : 0 < limit) {first size : Nat}
    (hle : first ≤ size) : (requestsUpTo limit first).dropLast <+: requestsUpTo limit size := by
  induction first using Nat.strongRecOn generalizing size with
  | ind first ih =>
      rcases Nat.eq_zero_or_pos first with rfl | hpositive
      · simp [requestsUpTo]
      rcases Nat.lt_or_ge first limit with hlast | hfull
      · rw [requestsUpTo_of_lt hpositive hlast]
        exact List.nil_prefix
      · rw [requestsUpTo_of_le hlimit hfull, requestsUpTo_of_le hlimit (Nat.le_trans hfull hle)]
        cases hmore : requestsUpTo limit (first - limit) with
        | nil => exact List.nil_prefix
        | cons count requests =>
            rw [List.dropLast_cons_cons, List.prefix_cons_inj, ← hmore]
            exact ih (first - limit) (by omega) (Nat.sub_le_sub_right hle limit)

/-! ### Files -/

/-- **Full requests do not show in a file** that is filled from a generator based on words, such as
the constant one and both congruential ones: the file holds the reply to a single request of its
size, and the generator is left as that request would leave it. -/
theorem writeRandomFile_single :
    (Generator.constant.WordBased ∧ Generator.congruential.WordBased ∧
      Generator.congruentialWords.WordBased) ∧
      ∀ {σ : Type} (generator : Generator σ), generator.WordBased →
        ∀ (state : σ) (fs : FileSystem) (path : String) (target : Location) (opened : FileSystem),
          fs.openForWriting path = .ok (.file target, opened) → ∀ size,
            let filled := writeRandomFile generator state fs path size
            let single := generator.reply state size
            filled.result = .ok () ∧
              filled.files.openForReading path = .ok (target, .file single.1) ∧
              filled.state = single.2 := by
  refine ⟨⟨Generator.wordBased_constant, Generator.wordBased_congruential,
    Generator.wordBased_congruentialWords⟩, ?_⟩
  intro σ generator hwords state fs path target opened hopen size filled single
  have hfilled : filled = _ := writeRandomFile_of_openForWriting generator state size hopen
  rw [hfilled, hwords.replies_requestsFor]
  exact ⟨rfl, openForReading_of_openForWriting hopen _, rfl⟩

/-- A working directory with a link to a file that is missing. -/
def missingTarget : FileSystem where
  workingDirectory := ["w"]
  objects := [(["a", "w"], .link "b")]

/-- Two full requests and one for five bytes of a word, through the link. -/
theorem writeRandomFile_single_linked :
    let filled := writeRandomFile Generator.congruentialWords 7 missingTarget "a" 131077
    let single := Generator.congruentialWords.reply 7 131077
    Generator.congruentialWords.WordBased ∧
      missingTarget.openForWriting "a" =
        .ok (.file ["b", "w"], missingTarget.put ["b", "w"] (.file ByteArray.empty)) ∧
      filled.result = .ok () ∧
      filled.files.openForReading "a" = .ok (["b", "w"], .file single.1) ∧
      filled.state = single.2 := by
  have hopen : missingTarget.openForWriting "a" =
      .ok (.file ["b", "w"], missingTarget.put ["b", "w"] (.file ByteArray.empty)) := rfl
  obtain ⟨⟨-, -, hwords⟩, hsingle⟩ := writeRandomFile_single
  exact ⟨hwords, hopen, hsingle _ hwords 7 missingTarget "a" _ _ hopen 131077⟩

/-- **A smaller file holds the first bytes of a larger one** that is filled from the same state of a
generator whose replies extend, as those of all four deterministic ones do. All requests for the
smaller file but the last are also made for the larger one. -/
theorem writeRandomFile_smaller :
    (Generator.ramp.RepliesExtend ∧ Generator.constant.RepliesExtend ∧
      Generator.congruential.RepliesExtend ∧ Generator.congruentialWords.RepliesExtend) ∧
      ∀ {σ : Type} (generator : Generator σ), generator.RepliesExtend →
        ∀ (state : σ) (fs fs' : FileSystem) (path path' : String) (target target' : Location)
          (opened opened' : FileSystem), fs.openForWriting path = .ok (.file target, opened) →
          fs'.openForWriting path' = .ok (.file target', opened') →
          ∀ first size, first ≤ size →
            let smaller := writeRandomFile generator state fs path first
            let larger := writeRandomFile generator state fs' path' size
            (∃ content, larger.files.contentOf path' = .ok content ∧
              smaller.files.contentOf path = .ok (content.extract 0 first)) ∧
              smaller.requests.dropLast <+: larger.requests := by
  refine ⟨⟨Generator.repliesExtend_ramp, Generator.repliesExtend_constant,
    Generator.repliesExtend_congruential, Generator.repliesExtend_congruentialWords⟩, ?_⟩
  intro σ generator hextend state fs fs' path path' target target' opened opened' hopen hopen'
    first size hle smaller larger
  have hsmaller : smaller = _ := writeRandomFile_of_openForWriting generator state first hopen
  have hlarger : larger = _ := writeRandomFile_of_openForWriting generator state size hopen'
  have hlimit : 0 < requestLimit := by decide
  have hreplies := hextend.replies_requestsUpTo hlimit state hle
  rw [hsmaller, hlarger]
  refine ⟨⟨_, contentOf_of_openForReading (openForReading_of_openForWriting hopen' _), ?_⟩,
    dropLast_requestsUpTo hlimit hle⟩
  rw [requestsFor, requestsFor, ← hreplies]
  exact contentOf_of_openForReading (openForReading_of_openForWriting hopen _)

/-- Two full requests, and the same two with more behind them, in two places. -/
theorem writeRandomFile_smaller_full :
    let smaller := writeRandomFile Generator.ramp (7, 3) missingTarget "a" 131072
    let larger := writeRandomFile Generator.ramp (7, 3) missingTarget "c" 200000
    Generator.ramp.RepliesExtend ∧
      missingTarget.openForWriting "a" =
        .ok (.file ["b", "w"], missingTarget.put ["b", "w"] (.file ByteArray.empty)) ∧
      missingTarget.openForWriting "c" =
        .ok (.file ["c", "w"], missingTarget.put ["c", "w"] (.file ByteArray.empty)) ∧
      131072 ≤ 200000 ∧
      (∃ content, larger.files.contentOf "c" = .ok content ∧
        smaller.files.contentOf "a" = .ok (content.extract 0 131072)) ∧
      smaller.requests.dropLast <+: larger.requests := by
  have hopen : missingTarget.openForWriting "a" =
      .ok (.file ["b", "w"], missingTarget.put ["b", "w"] (.file ByteArray.empty)) := rfl
  have hopen' : missingTarget.openForWriting "c" =
      .ok (.file ["c", "w"], missingTarget.put ["c", "w"] (.file ByteArray.empty)) := rfl
  have hle : 131072 ≤ 200000 := by decide
  obtain ⟨⟨hramp, -⟩, hsmaller⟩ := writeRandomFile_smaller
  exact ⟨hramp, hopen, hopen', hle, hsmaller _ hramp (7, 3) missingTarget missingTarget "a" "c"
    _ _ _ _ hopen hopen' 131072 200000 hle⟩

end FixtureKit
