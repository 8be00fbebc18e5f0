import FixtureKit.Generator

/-!
# Replies in Parts

The deterministic generators unfold a state byte by byte. The first bytes of what they answer
depend on nothing that comes behind, and where the rule for a byte repeats itself along the
index, a request can be answered in two parts: the second part starts in the state that the
first one leaves.

Two laws of generators say this of whole replies. Neither holds of every generator. `WordBased`
is about the state as well, and so about what later requests see: the ramp counts its
requests and does not obey it.

## Main results

* `unfold_add`: unfolding in two parts, for a rule that repeats itself behind the first.
* `unfold_extract`: unfolding fewer bytes gives the first bytes.
* `wordBased_congruentialWords`: whole words can be asked for separately.
-/

namespace FixtureKit

namespace Generator

/-! ### The laws -/

/-- A generator whose replies can be had in parts, as long as every part but the last is made of
whole words of eight bytes. -/
structure WordBased {σ : Type} (generator : Generator σ) : Prop where
  /-- Asking for nothing changes nothing. -/
  state_reply_zero : ∀ state, (generator.reply state 0).2 = state
  /-- Behind whole words, the rest can be asked for separately. -/
  reply_add : ∀ state first more, 8 ∣ first →
    generator.reply state (first + more) =
      let front := generator.reply state first
      let back := generator.reply front.2 more
      (front.1 ++ back.1, back.2)

/-- A generator that answers a longer request from the same state with more of the same bytes. -/
def RepliesExtend {σ : Type} (generator : Generator σ) : Prop :=
  ∀ state first count, first ≤ count →
    (generator.reply state first).1 = (generator.reply state count).1.extract 0 first

/-! ### Unfolding -/

section Unfolding

variable {σ : Type} (next : Nat → σ → UInt8 × σ)

/-- Unfolding takes the first byte and goes on from the state behind it. -/
theorem unfoldFrom_succ (count index : Nat) (state : σ) (bytes : ByteArray) :
    unfoldFrom next (count + 1) index state bytes =
      unfoldFrom next count (index + 1) (next index state).2 (bytes.push (next index state).1) :=
  rfl

/-- Bytes are pushed one after the other, so the last of them can be pushed later. -/
theorem unfoldFrom_add (first more index : Nat) (state : σ) (bytes : ByteArray) :
    unfoldFrom next (first + more) index state bytes =
      let front := unfoldFrom next first index state bytes
      unfoldFrom next more (index + first) front.2 front.1 := by
  induction first generalizing index state bytes with
  | zero => rw [Nat.zero_add]; rfl
  | succ first ih =>
      rw [Nat.succ_add, unfoldFrom_succ, unfoldFrom_succ, ih, Nat.add_right_comm, Nat.add_assoc]

/-- What is pushed does not depend on what has been pushed before. -/
theorem unfoldFrom_append (count index : Nat) (state : σ) (bytes : ByteArray) :
    unfoldFrom next count index state bytes =
      let pushed := unfoldFrom next count index state ByteArray.empty
      (bytes ++ pushed.1, pushed.2) := by
  induction count generalizing index state bytes with
  | zero => simp [unfoldFrom]
  | succ count ih =>
      have hpush (front : ByteArray) (b : UInt8) (back : ByteArray) :
          front.push b ++ back = front ++ (ByteArray.empty.push b ++ back) := by
        rw [← ByteArray.append_toByteArray_singleton, ← ByteArray.append_toByteArray_singleton,
          ByteArray.empty_append, ByteArray.append_assoc]
      rw [unfoldFrom_succ, unfoldFrom_succ, ih _ _ (bytes.push _), ih _ _ (ByteArray.empty.push _)]
      simp only [hpush bytes]

/-- Where the rule repeats itself, it makes no difference from which index on it is followed. -/
theorem unfoldFrom_shift {shift : Nat}
    (hrepeats : ∀ index state, next (index + shift) state = next index state)
    (count index : Nat) (state : σ) (bytes : ByteArray) :
    unfoldFrom next count (index + shift) state bytes =
      unfoldFrom next count index state bytes := by
  induction count generalizing index state bytes with
  | zero => rfl
  | succ count ih => rw [unfoldFrom_succ, unfoldFrom_succ, hrepeats, Nat.add_right_comm, ih]

/-- Unfolding in two parts, for a rule that repeats itself behind the first. -/
theorem unfold_add {first : Nat}
    (hrepeats : ∀ index state, next (index + first) state = next index state) (more : Nat)
    (state : σ) :
    unfold next (first + more) state =
      let front := unfold next first state
      let back := unfold next more front.2
      (front.1 ++ back.1, back.2) := by
  have hshift := unfoldFrom_shift next hrepeats more 0
  calc unfold next (first + more) state
      = unfoldFrom next (first + more) 0 state ByteArray.empty := rfl
    _ = unfoldFrom next more (0 + first) (unfold next first state).2 (unfold next first state).1 :=
        unfoldFrom_add next first more 0 state ByteArray.empty
    _ = unfoldFrom next more 0 (unfold next first state).2 (unfold next first state).1 :=
        hshift _ _
    _ = _ := unfoldFrom_append next more 0 _ _

/-- Unfolding fewer bytes gives the first bytes. -/
theorem unfold_extract {first count : Nat} (h : first ≤ count) (state : σ) :
    (unfold next first state).1 = (unfold next count state).1.extract 0 first := by
  obtain ⟨more, rfl⟩ := Nat.exists_eq_add_of_le h
  have hfront : unfold next (first + more) state =
      unfoldFrom next more (0 + first) (unfold next first state).2 (unfold next first state).1 :=
    unfoldFrom_add next first more 0 state ByteArray.empty
  rw [hfront, unfoldFrom_append,
    ByteArray.extract_append_eq_left (size_unfold next first state).symm]

end Unfolding

/-! ### The deterministic generators -/

/-- A byte that is repeated can be repeated in parts. -/
theorem wordBased_constant : constant.WordBased where
  state_reply_zero _ := rfl
  reply_add state _ more _ := unfold_add _ (fun _ _ => rfl) more state

/-- Each byte takes one step of the state, so a reply can be had in parts of any length. -/
theorem wordBased_congruential : congruential.WordBased where
  state_reply_zero _ := rfl
  reply_add state _ more _ := unfold_add _ (fun _ _ => rfl) more state

/-- Whole words can be asked for separately: behind them the next word starts anyway. -/
theorem wordBased_congruentialWords : congruentialWords.WordBased where
  state_reply_zero _ := rfl
  reply_add state first more hwords := by
    have hplace (index : Nat) : (index + first) % 8 = index % 8 := by omega
    exact unfold_add _ (fun index _ => by simp only [hplace index]) more state

/-- The ramp counts its requests, also those for nothing. -/
example : ¬ramp.WordBased := fun h => absurd (h.state_reply_zero (0, 0)) (by decide)

/-- A longer reply of one byte repeated starts with the shorter one. -/
theorem repliesExtend_constant : constant.RepliesExtend :=
  fun state _ _ h => unfold_extract _ h state

/-- A longer reply of bytes that count up starts with the shorter one. -/
theorem repliesExtend_ramp : ramp.RepliesExtend :=
  fun state _ _ h => unfold_extract _ h (state.1 + 37 * UInt64.ofNat state.2)

/-- A longer reply of single bytes starts with the shorter one, as each byte takes a step of its
own. -/
theorem repliesExtend_congruential : congruential.RepliesExtend :=
  fun state _ _ h => unfold_extract _ h state

/-- A longer reply of words starts with the shorter one, even if that ends within a word. -/
theorem repliesExtend_congruentialWords : congruentialWords.RepliesExtend :=
  fun state _ _ h => unfold_extract _ h state

end Generator

end FixtureKit
