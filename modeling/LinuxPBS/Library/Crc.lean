import Mathlib.Data.BitVec
import Mathlib.Logic.Function.Iterate

/-!
# A reflected CRC, by bits and by a table

The register of a reflected CRC is shifted right once for a bit of the message, and the
polynomial goes into it when the bit that falls out differs from that of the message.  The
message is the low bits first of one byte after the other.

A shift is linear in exclusive or, so eight bits of the message can be added to the
register at once (`shift_iterate_xor`), and eight shifts of the register are those of
its low byte and the rest moved down (`shift_iterate_low`).  The first is a byte at
a time, the second a table of 256 words.  The width and the polynomial are arbitrary.
-/

namespace LinuxPBS.Crc

variable {w : ℕ} (poly : BitVec w)

/-- The register takes a bit of the message. -/
def takeBit (register : BitVec w) (bit : Bool) : BitVec w :=
  if (register.getLsbD 0 ^^ bit) then (register >>> 1) ^^^ poly else register >>> 1

/-- The register is shifted, as for a bit `0`. -/
def shift (register : BitVec w) : BitVec w := takeBit poly register false

/-- The lowest bits of a word, the least significant first. -/
def lowBits (count : ℕ) (word : BitVec w) : List Bool :=
  (List.range count).map word.getLsbD

/-- The register behind a message that is given by bits. -/
def takeBits (register : BitVec w) (bits : List Bool) : BitVec w :=
  bits.foldl (takeBit poly) register

theorem lowBits_succ (count : ℕ) (word : BitVec w) :
    lowBits (count + 1) word = word.getLsbD 0 :: lowBits count (word >>> 1) := by
  unfold lowBits
  rw [List.range_succ_eq_map, List.map_cons, List.map_map]
  refine congrArg _ (List.map_congr_left fun index _ => ?_)
  rw [BitVec.getLsbD_ushiftRight, Nat.add_comm]
  rfl

theorem takeBits_append (register : BitVec w) (first second : List Bool) :
    takeBits poly register (first ++ second) =
      takeBits poly (takeBits poly register first) second :=
  List.foldl_append

/-- A word that is added to the register can be taken bit by bit instead. -/
theorem shift_xor (register word : BitVec w) :
    shift poly (register ^^^ word) = takeBit poly register (word.getLsbD 0) ^^^ (word >>> 1) := by
  unfold shift takeBit
  rw [BitVec.getLsbD_xor, Bool.xor_false, BitVec.ushiftRight_xor_distrib]
  split
  · ac_rfl
  · rfl

theorem shift_iterate_xor (count : ℕ) (register word : BitVec w) :
    (shift poly)^[count] (register ^^^ word) =
      takeBits poly register (lowBits count word) ^^^ (word >>> count) := by
  induction count generalizing register word with
  | zero => exact congrArg (register ^^^ ·) (BitVec.ushiftRight_zero word).symm
  | succ count ih =>
      calc (shift poly)^[count + 1] (register ^^^ word)
          = (shift poly)^[count]
              (takeBit poly register (word.getLsbD 0) ^^^ (word >>> 1)) := by
            rw [Function.iterate_succ_apply, shift_xor]
        _ = takeBits poly (takeBit poly register (word.getLsbD 0)) (lowBits count (word >>> 1)) ^^^
              ((word >>> 1) >>> count) := ih _ _
        _ = takeBits poly register (lowBits (count + 1) word) ^^^ (word >>> (count + 1)) := by
            rw [lowBits_succ, ← BitVec.shiftRight_add, Nat.add_comm 1 count]
            rfl

/-- Zeros only shift the register. -/
theorem takeBits_replicate (count : ℕ) (register : BitVec w) :
    takeBits poly register (List.replicate count false) = (shift poly)^[count] register := by
  induction count generalizing register with
  | zero => rfl
  | succ count ih => exact ih (shift poly register)

/-- The word has no bits among its lowest ones. -/
theorem lowBits_eq_replicate {count : ℕ} {word : BitVec w}
    (hclear : ∀ index < count, word.getLsbD index = false) :
    lowBits count word = List.replicate count false := by
  unfold lowBits
  refine List.eq_replicate_iff.mpr ⟨by simp, fun bit hbit => ?_⟩
  obtain ⟨index, hindex, rfl⟩ := List.mem_map.mp hbit
  exact hclear index (List.mem_range.mp hindex)

/-- The lowest bits of a word, as a word. -/
def lowWord (count : ℕ) (word : BitVec w) : BitVec w := word &&& BitVec.ofNat w (2 ^ count - 1)

theorem getLsbD_lowWord (count : ℕ) (word : BitVec w) (index : ℕ) :
    (lowWord count word).getLsbD index = (word.getLsbD index && decide (index < count)) := by
  unfold lowWord
  rw [BitVec.getLsbD_and, BitVec.getLsbD_ofNat, Nat.testBit_two_pow_sub_one]
  by_cases hindex : index < w
  · simp [hindex]
  · simp [BitVec.getLsbD_of_ge word index (not_lt.mp hindex)]

/-- The shifts of a register are those of its lowest bits, and the rest moved down. -/
theorem shift_iterate_low (count : ℕ) (register : BitVec w) :
    (shift poly)^[count] register =
      (shift poly)^[count] (lowWord count register) ^^^ (register >>> count) := by
  have hsplit : register = lowWord count register ^^^ (lowWord count register ^^^ register) := by
    rw [← BitVec.xor_assoc, BitVec.xor_self, BitVec.zero_xor]
  have hhigh : ∀ index, (lowWord count register ^^^ register).getLsbD index =
      (register.getLsbD index && decide (count ≤ index)) := by
    intro index
    rw [BitVec.getLsbD_xor, getLsbD_lowWord]
    by_cases hindex : index < count
    · simp [hindex]
    · simp [hindex, not_lt.mp hindex]
  have hclear : lowBits count (lowWord count register ^^^ register) =
      List.replicate count false :=
    lowBits_eq_replicate fun index hindex => by simp [hhigh, hindex]
  have hmoved : (lowWord count register ^^^ register) >>> count = register >>> count := by
    apply BitVec.eq_of_getLsbD_eq
    intro index _
    rw [BitVec.getLsbD_ushiftRight, hhigh, BitVec.getLsbD_ushiftRight]
    simp
  calc (shift poly)^[count] register
      = (shift poly)^[count]
          (lowWord count register ^^^ (lowWord count register ^^^ register)) := by rw [← hsplit]
    _ = takeBits poly (lowWord count register) (List.replicate count false) ^^^
          (register >>> count) := by rw [shift_iterate_xor, hclear, hmoved]
    _ = (shift poly)^[count] (lowWord count register) ^^^ (register >>> count) := by
        rw [takeBits_replicate]

/-! ## Bytes -/

/-- The bits of a message, the low bits first of one byte after the other. -/
def messageBits (data : List UInt8) : List Bool :=
  data.flatMap fun byte => lowBits 8 byte.toBitVec

end LinuxPBS.Crc
