import FixtureKit.Bytes

/-!
# Byte Generators

A generator answers requests for bytes out of a state. Nothing is assumed of it but that a reply
has the length that was asked for. Four deterministic generators make files that can be made
again: a constant byte, a ramp, and a linear congruential sequence taken byte by byte or in words
of eight bytes. A fifth one hands out bytes that were drawn elsewhere.

## Main results

* `size_unfold` — unfolding a state gives as many bytes as were asked for.
-/

namespace FixtureKit

/-- A source of bytes with a state; a reply is as long as the request. -/
structure Generator (σ : Type) where
  /-- The reply to a request for a number of bytes, and the state after it. -/
  reply : σ → Nat → ByteArray × σ
  size_reply : ∀ state count, (reply state count).1.size = count

namespace Generator

/-- Pushes `count` bytes, each got from its index and the state, which changes with every byte. -/
@[specialize]
def unfoldFrom {σ : Type} (next : Nat → σ → UInt8 × σ) :
    (count index : Nat) → σ → ByteArray → ByteArray × σ
  | 0, _, state, bytes => (bytes, state)
  | count + 1, index, state, bytes =>
    let (b, state) := next index state
    unfoldFrom next count (index + 1) state (bytes.push b)

/-- Unfolding adds one byte for each that is counted. -/
theorem size_unfoldFrom {σ : Type} (next : Nat → σ → UInt8 × σ) (count index : Nat) (state : σ)
    (bytes : ByteArray) :
    (unfoldFrom next count index state bytes).1.size = bytes.size + count := by
  induction count generalizing index state bytes with
  | zero => rfl
  | succ count ih =>
    rw [unfoldFrom, ih, ByteArray.size_push]
    omega

/-- The `count` bytes that `next` gives from a state on. -/
@[inline]
def unfold {σ : Type} (next : Nat → σ → UInt8 × σ) (count : Nat) (state : σ) : ByteArray × σ :=
  unfoldFrom next count 0 state (ByteArray.emptyWithCapacity count)

/-- Unfolding gives as many bytes as were asked for. -/
theorem size_unfold {σ : Type} (next : Nat → σ → UInt8 × σ) (count : Nat) (state : σ) :
    (unfold next count state).1.size = count := by
  rw [unfold, size_unfoldFrom]
  exact Nat.zero_add count

/-! ### Deterministic generators -/

/-- One step of the linear congruential sequence. -/
def congruentialStep (state : UInt64) : UInt64 :=
  state * 6364136223846793005 + 1442695040888963407

/-- Every byte is the low byte of the state, which never changes. -/
def constant : Generator UInt64 where
  reply state count := unfold (fun _ s => (s.toUInt8, s)) count state
  size_reply state count := size_unfold _ count state

/-- A request starts 37 above the request before it, and goes up by one from byte to byte. The
state is the seed and the number of requests so far. -/
def ramp : Generator (UInt64 × Nat) where
  reply state count :=
    let start := state.1 + 37 * UInt64.ofNat state.2
    ((unfold (fun index s => ((s + UInt64.ofNat index).toUInt8, s)) count start).1,
      (state.1, state.2 + 1))
  size_reply _ count := size_unfold _ count _

/-- Every byte is the high byte of the next state. -/
def congruential : Generator UInt64 where
  reply state count :=
    unfold (fun _ s => let s := congruentialStep s; ((s >>> 56).toUInt8, s)) count state
  size_reply state count := size_unfold _ count state

/-- Every eight bytes are the bytes of the next state, the lowest first. A request starts with a
new state, so that the bytes left over from the one before are lost. -/
def congruentialWords : Generator UInt64 where
  reply state count :=
    unfold
      (fun index s =>
        let s := if index % 8 = 0 then congruentialStep s else s
        ((s >>> UInt64.ofNat (8 * (index % 8))).toUInt8, s))
      count state
  size_reply state count := size_unfold _ count state

/-! ### Bytes drawn elsewhere -/

/-- Hands out a supply of bytes from the start on, and zeros when it is used up. The state is the
supply and the number of bytes handed out so far. -/
def supply : Generator (ByteArray × Nat) where
  reply state count :=
    (Bytes.resized (state.1.extract state.2 (state.2 + count)) count, (state.1, state.2 + count))
  size_reply _ count := Bytes.size_resized _ count

end Generator

end FixtureKit
