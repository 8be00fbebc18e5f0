import FixtureKit.Checksum

/-!
# Bursts of Errors

The checksum tells two rows of bytes apart that differ in a burst, that is, within four
bytes one behind the other, wherever the burst is and however much stands around it.

What is behind the burst does not matter, because a step of the register can be undone
when its byte is known. Through the burst itself the register is followed backwards: where
two registers agree above some bit after a step, they have agreed above the eighth bit
behind it before, and four steps are not enough to go through all thirty-two bits.

## Main results

* `agree_of_shift`: what two registers have agreed on before a shift.
* `foldl_step_injective`: bytes that follow keep different registers different.
* `crc32_ne_of_burst`: a burst changes the checksum.
-/

namespace FixtureKit

namespace Crc32

/-! ### Single bits -/

/-- A bit of a register, the lowest being the first. -/
def bit (register : UInt32) (i : Nat) : Bool :=
  register.toBitVec.getLsbD i

/-- Two registers of the same bits are equal. -/
theorem eq_of_bit {r s : UInt32} (h : ∀ i, bit r i = bit s i) : r = s :=
  UInt32.toBitVec_inj.1 (BitVec.eq_of_getLsbD_eq fun i _ => h i)

/-- The bits of two registers are added one by one. -/
theorem bit_xor (r s : UInt32) (i : Nat) : bit (r ^^^ s) i = (bit r i ^^ bit s i) := by
  rw [bit, UInt32.toBitVec_xor, BitVec.getLsbD_xor]
  rfl

/-- A byte in a register has its own bits only. -/
theorem bit_toUInt32_of_le (b : UInt8) {i : Nat} (h : 8 ≤ i) : bit b.toUInt32 i = false := by
  rw [bit, UInt8.toBitVec_toUInt32, BitVec.getLsbD_setWidth, BitVec.getLsbD_of_ge _ _ h,
    Bool.and_false]

/-- The mask of a register is full if its lowest bit is set, and empty if not. -/
theorem polynomial_and_mask (r : UInt32) :
    polynomial &&& (0 - (r &&& 1)) = if bit r 0 then polynomial else 0 := by
  have hlow : (r &&& 1).toBitVec = BitVec.setWidth 32 (BitVec.ofBool (bit r 0)) := by
    rw [UInt32.toBitVec_and]
    exact BitVec.and_one_eq_setWidth_ofBool_getLsbD
  cases hbit : bit r 0 with
  | false =>
      have hzero : r &&& 1 = 0 := UInt32.toBitVec_inj.1 (by rw [hlow, hbit]; rfl)
      rw [hzero]
      rfl
  | true =>
      have hone : r &&& 1 = 1 := UInt32.toBitVec_inj.1 (by rw [hlow, hbit]; rfl)
      rw [hone]
      rfl

/-- A shift moves all bits down, and adds those of the polynomial if the lowest one was set. -/
theorem bit_shift (r : UInt32) (i : Nat) :
    bit (shift r) i = (bit r (i + 1) ^^ (bit r 0 && bit polynomial i)) := by
  have hdown : bit (r >>> 1) i = bit r (i + 1) := by
    rw [bit, bit, UInt32.toBitVec_shiftRight, Nat.add_comm]
    exact BitVec.getLsbD_ushiftRight _ _ _
  rw [shift, bit_xor, hdown, polynomial_and_mask]
  cases bit r 0 with
  | false => simp [bit]
  | true => simp

/-- The polynomial reaches the highest bit, so this one tells what the lowest has been. -/
theorem bit_shift_top (r : UInt32) : bit (shift r) 31 = bit r 0 := by
  have htop : bit polynomial 31 = true := by decide
  have hbeyond : bit r 32 = false := BitVec.getLsbD_of_ge _ _ (Nat.le_refl 32)
  rw [bit_shift, htop, hbeyond, Bool.and_true, Bool.false_xor]

/-! ### Registers that agree -/

/-- Two registers agree on the bits below `low` and on those from `high` on. -/
def Agree (low high : Nat) (r s : UInt32) : Prop :=
  ∀ i, i < low ∨ high ≤ i → bit r i = bit s i

variable {low high : Nat} {r s : UInt32}

/-- Equal registers agree outside of any window. -/
theorem agree_of_eq (h : r = s) : Agree low high r s :=
  fun i _ => congrArg (bit · i) h

/-- Registers that agree outside of an empty window are equal. -/
theorem eq_of_agree (h : Agree low low r s) : r = s :=
  eq_of_bit fun i => h i (Nat.lt_or_ge i low)

/-- Two registers have agreed on the lowest bit, and on what has been moved down, if they agree
on the highest bit after a shift. -/
theorem agree_of_shift (hhigh : high ≤ 31) (h : Agree low high (shift r) (shift s)) :
    Agree (low + 1) (high + 1) r s := by
  have hzero : bit r 0 = bit s 0 := by
    rw [← bit_shift_top, ← bit_shift_top]
    exact h 31 (.inr hhigh)
  intro i hi
  cases i with
  | zero => exact hzero
  | succ i =>
      have hsame := h i (by omega)
      rw [bit_shift, bit_shift, hzero] at hsame
      exact Bool.xor_left_inj.1 hsame

/-- A step is eight shifts. -/
theorem agree_of_step {b c : UInt8} (hhigh : high ≤ 24) (h : Agree 0 high (step r b) (step s c)) :
    Agree 8 (high + 8) (r ^^^ b.toUInt32) (s ^^^ c.toUInt32) := by
  rw [step, step] at h
  have hone := agree_of_shift (by omega) h
  have htwo := agree_of_shift (by omega) hone
  have hthree := agree_of_shift (by omega) htwo
  have hfour := agree_of_shift (by omega) hthree
  have hfive := agree_of_shift (by omega) hfour
  have hsix := agree_of_shift (by omega) hfive
  have hseven := agree_of_shift (by omega) hsix
  exact agree_of_shift (by omega) hseven

/-- The bytes that are added have no part in the bits above the eighth. -/
theorem agree_of_xor {b c : UInt8} (h : Agree 8 (high + 8) (r ^^^ b.toUInt32) (s ^^^ c.toUInt32)) :
    Agree 0 (high + 8) r s := by
  intro i hi
  have hsame := h i (by omega)
  rwa [bit_xor, bit_xor, bit_toUInt32_of_le b (by omega), bit_toUInt32_of_le c (by omega),
    Bool.xor_false, Bool.xor_false] at hsame

/-- On one register, different bytes show in the lowest eight bits. -/
theorem byte_eq_of_agree {b c : UInt8}
    (h : Agree 8 (high + 8) (r ^^^ b.toUInt32) (r ^^^ c.toUInt32)) : b = c := by
  refine UInt8.toUInt32_inj.1 (eq_of_bit fun i => ?_)
  rcases Nat.lt_or_ge i 8 with hi | hi
  · have hsame := h i (.inl hi)
    rw [bit_xor, bit_xor] at hsame
    exact Bool.xor_right_inj.1 hsame
  · rw [bit_toUInt32_of_le b hi, bit_toUInt32_of_le c hi]

/-! ### Rows of bytes -/

/-- The register before a byte can be told from the one behind it, so two registers that differ
once differ for as long as the bytes agree. -/
theorem step_injective (b : UInt8) (h : step r b = step s b) : r = s := by
  have hall := agree_of_step (Nat.zero_le 24) (agree_of_eq h)
  have hsum : r ^^^ b.toUInt32 = s ^^^ b.toUInt32 := eq_of_agree hall
  exact (UInt32.xor_left_inj _).1 hsum

/-- Bytes that follow keep different registers different. -/
theorem foldl_step_injective (bytes : List UInt8) (h : bytes.foldl step r = bytes.foldl step s) :
    r = s := by
  induction bytes generalizing r s with
  | nil => exact h
  | cons b bytes ih => exact step_injective b (ih h)

/-- Where at most four bytes lead two registers to one, the registers agree above the bits that
the bytes have gone through, and the bytes are the same if the registers are. -/
theorem agree_of_foldl {old new : List UInt8} (hlength : old.length = new.length)
    (hshort : old.length ≤ 4) (h : old.foldl step r = new.foldl step s) :
    Agree 0 (8 * old.length) r s ∧ (r = s → old = new) := by
  induction old generalizing new r s with
  | nil =>
      obtain rfl := List.length_eq_zero_iff.1 hlength.symm
      exact ⟨agree_of_eq h, fun _ => rfl⟩
  | cons b old ih =>
      obtain ⟨c, new, rfl⟩ := List.exists_cons_of_length_eq_add_one hlength.symm
      rw [List.length_cons, List.length_cons, Nat.add_right_cancel_iff] at hlength
      rw [List.length_cons] at hshort ⊢
      obtain ⟨hagree, hrest⟩ := ih hlength (by omega) h
      have hstep := agree_of_step (by omega) hagree
      refine ⟨agree_of_xor hstep, ?_⟩
      rintro rfl
      obtain rfl := byte_eq_of_agree hstep
      rw [hrest rfl]

end Crc32

/-- A burst changes the checksum: four bytes or fewer, one behind the other, that are not what
they were. -/
theorem crc32_ne_of_burst {bytes damaged : ByteArray} {front old new back : List UInt8}
    (hbytes : bytes.data.toList = front ++ (old ++ back))
    (hdamaged : damaged.data.toList = front ++ (new ++ back))
    (hlength : old.length = new.length) (hshort : old.length ≤ 4) (hne : old ≠ new) :
    crc32 bytes ≠ crc32 damaged := by
  intro hsame
  rw [crc32_eq_foldl, crc32_eq_foldl, UInt32.xor_left_inj, hbytes, hdamaged] at hsame
  simp only [List.foldl_append] at hsame
  have hburst := Crc32.foldl_step_injective back hsame
  exact hne ((Crc32.agree_of_foldl hlength hshort hburst).2 rfl)

end FixtureKit
