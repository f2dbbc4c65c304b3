import LinuxPBS.Library.Crc
import LinuxPBS.Upt.Accepts

/-!
# The checksum of the UPOS messages

`CRC32` takes a byte at a time through a table of 256 words.  `value_updates` says that its
value is the CRC-32 of all the bytes it has been given, defined bit by bit, however
they are handed over; `Value` inverts the register in place, so it is to be called once.

The encoder and the parser of the messages take the checksum over one buffer
(`crc32_eq_bitwise`).
-/

namespace LinuxPBS.Upt

open LinuxPBS.Crc

/-! ## The class -/

/-- `CRC32` -/
structure Crc32 where
  mValue : UInt32
  deriving DecidableEq, Repr

namespace Crc32

/-- `CRC32::Init`, which the constructor calls -/
def init : Crc32 := ⟨0xFFFFFFFF⟩

/-- `CRC32::Update` -/
def update (crc : Crc32) (data : List UInt8) (length : UInt32) : Crc32 :=
  ⟨(data.take length.toNat).foldl crc32Step crc.mValue⟩

/-- `CRC32::Value`, with the register it leaves. -/
def value (crc : Crc32) : Crc32 × UInt32 := (⟨crc.mValue ^^^ 0xFFFFFFFF⟩, crc.mValue ^^^ 0xFFFFFFFF)

/-- The chunks are passed in order. -/
def updates (crc : Crc32) (chunks : List (List UInt8)) : Crc32 :=
  chunks.foldl (fun crc chunk => crc.update chunk (UInt32.ofNat chunk.length)) crc

end Crc32

/-! ## The definition by bits -/

/-- The reflected polynomial of the CRC-32. -/
def crc32Polynomial : BitVec 32 := 0xEDB88320

/-- The CRC-32 of a string of bytes, bit by bit. -/
def bitwiseCrc32 (data : List UInt8) : UInt32 :=
  ⟨takeBits crc32Polynomial 0xFFFFFFFF (messageBits data)⟩ ^^^ 0xFFFFFFFF

example : bitwiseCrc32 ("123456789".toList.map fun c => UInt8.ofNat c.toNat) = 0xCBF43926 := by
  decide +kernel

/-! ## A byte -/

/-- Every word of the table is eight shifts of its index. -/
theorem crc32Table_eq :
    crc32Table.map UInt32.toBitVec =
      (List.range 256).map fun index => (shift crc32Polynomial)^[8] (BitVec.ofNat 32 index) := by
  decide +kernel

theorem crc32Table_getD {index : ℕ} (hindex : index < 256) :
    (crc32Table.getD index 0).toBitVec = (shift crc32Polynomial)^[8] (BitVec.ofNat 32 index) := by
  have hword : (crc32Table.map UInt32.toBitVec)[index]? =
      some ((shift crc32Polynomial)^[8] (BitVec.ofNat 32 index)) := by
    rw [crc32Table_eq, List.getElem?_map, List.getElem?_range hindex]
    rfl
  rw [List.getElem?_map, Option.map_eq_some_iff] at hword
  obtain ⟨word, hentry, hvalue⟩ := hword
  rw [List.getD_eq_getElem?_getD, hentry]
  exact hvalue

/-- A byte as a word. -/
def byteWord (byte : UInt8) : BitVec 32 := byte.toBitVec.setWidth 32

theorem lowBits_byteWord (byte : UInt8) : lowBits 8 (byteWord byte) = lowBits 8 byte.toBitVec := by
  refine List.map_congr_left fun index hindex => ?_
  have hlt := List.mem_range.mp hindex
  simp [byteWord, show index < 32 by omega]

theorem byteWord_shift (byte : UInt8) : byteWord byte >>> 8 = 0#32 := by
  apply BitVec.eq_of_getLsbD_eq
  intro index _
  rw [BitVec.getLsbD_ushiftRight, byteWord, BitVec.getLsbD_setWidth,
    BitVec.getLsbD_of_ge byte.toBitVec (8 + index) (by omega), Bool.and_false]
  exact BitVec.getLsbD_zero.symm

/-- The index into the table: the register is cut to sixteen bits first. -/
theorem index_eq (value : UInt32) (byte : UInt8) :
    ((value.toUInt16.toUInt32 ^^^ byte.toUInt32) &&& 0xFF).toBitVec =
      lowWord 8 (value.toBitVec ^^^ byteWord byte) := by
  have hmask : ((0xFF : UInt32).toBitVec) = BitVec.ofNat 32 (2 ^ 8 - 1) := rfl
  apply BitVec.eq_of_getLsbD_eq
  intro index hindex
  rw [UInt32.toBitVec_and, hmask, ← lowWord, getLsbD_lowWord, getLsbD_lowWord]
  by_cases hlow : index < 8
  · have hcut : (value.toUInt16.toUInt32).toBitVec.getLsbD index =
        value.toBitVec.getLsbD index := by
      have hwidths : (value.toUInt16.toUInt32).toBitVec =
          (value.toBitVec.setWidth 16).setWidth 32 := rfl
      rw [hwidths, BitVec.getLsbD_setWidth, BitVec.getLsbD_setWidth, decide_eq_true hindex,
        decide_eq_true (show index < 16 by omega), Bool.true_and, Bool.true_and]
    rw [UInt32.toBitVec_xor, BitVec.getLsbD_xor, hcut, BitVec.getLsbD_xor]
    rfl
  · rw [decide_eq_false hlow, Bool.and_false, Bool.and_false]

theorem shiftRight_masked (value : UInt32) :
    ((value >>> 8) &&& 0x00FFFFFF).toBitVec = value.toBitVec >>> 8 := by
  have hmask : ((0x00FFFFFF : UInt32).toBitVec) = BitVec.ofNat 32 (2 ^ 24 - 1) := rfl
  have hshift : (value >>> 8).toBitVec = value.toBitVec >>> 8 := rfl
  apply BitVec.eq_of_getLsbD_eq
  intro index hindex
  rw [UInt32.toBitVec_and, hmask, ← lowWord, getLsbD_lowWord, hshift, BitVec.getLsbD_ushiftRight]
  by_cases hlow : index < 24
  · rw [decide_eq_true hlow, Bool.and_true]
  · rw [BitVec.getLsbD_of_ge _ _ (by omega), Bool.false_and]

/-- One turn of the loop takes the eight bits of a byte. -/
theorem crc32Step_bits (value : UInt32) (byte : UInt8) :
    (crc32Step value byte).toBitVec =
      takeBits crc32Polynomial value.toBitVec (lowBits 8 byte.toBitVec) := by
  have hindex := index_eq value byte
  have hlt : ((value.toUInt16.toUInt32 ^^^ byte.toUInt32) &&& 0xFF).toNat < 256 := by
    rw [UInt32.toNat_and]
    exact Nat.lt_of_le_of_lt Nat.and_le_right (by decide)
  have hentry := crc32Table_getD hlt
  have hword : BitVec.ofNat 32 ((value.toUInt16.toUInt32 ^^^ byte.toUInt32) &&& 0xFF).toNat =
      lowWord 8 (value.toBitVec ^^^ byteWord byte) := by
    rw [← hindex]
    exact (BitVec.ofNat_toNat _ _).trans (BitVec.setWidth_eq _)
  rw [hword] at hentry
  calc (crc32Step value byte).toBitVec
      = (shift crc32Polynomial)^[8] (lowWord 8 (value.toBitVec ^^^ byteWord byte)) ^^^
          (value.toBitVec >>> 8) := by
        rw [crc32Step, UInt32.toBitVec_xor, hentry, shiftRight_masked]
    _ = (shift crc32Polynomial)^[8] (value.toBitVec ^^^ byteWord byte) := by
        rw [shift_iterate_low crc32Polynomial 8 (value.toBitVec ^^^ byteWord byte),
          BitVec.ushiftRight_xor_distrib, byteWord_shift, BitVec.xor_zero]
    _ = takeBits crc32Polynomial value.toBitVec (lowBits 8 byte.toBitVec) := by
        rw [shift_iterate_xor, byteWord_shift, BitVec.xor_zero, lowBits_byteWord]

theorem foldl_crc32Step (value : UInt32) (data : List UInt8) :
    (data.foldl crc32Step value).toBitVec =
      takeBits crc32Polynomial value.toBitVec (messageBits data) := by
  induction data generalizing value with
  | nil => rfl
  | cons byte rest ih =>
      have hbits : messageBits (byte :: rest) = lowBits 8 byte.toBitVec ++ messageBits rest := rfl
      rw [List.foldl_cons, ih, crc32Step_bits, hbits, takeBits_append]

/-! ## Streaming -/

/-- The checksum over a buffer is the one by bits. -/
theorem crc32_eq_bitwise (data : List UInt8) (length : UInt32) :
    crc32 data length = bitwiseCrc32 (data.take length.toNat) := by
  have hfold : (data.take length.toNat).foldl crc32Step 0xFFFFFFFF =
      ⟨takeBits crc32Polynomial 0xFFFFFFFF (messageBits (data.take length.toNat))⟩ :=
    UInt32.toBitVec_inj.mp (foldl_crc32Step _ _)
  rw [crc32, hfold, bitwiseCrc32]

namespace Crc32

/-- The register goes on where the last chunk has left it. -/
theorem updates_mValue {chunks : List (List UInt8)}
    (hchunks : ∀ chunk ∈ chunks, chunk.length < 2 ^ 32) (crc : Crc32) :
    (crc.updates chunks).mValue = chunks.flatten.foldl crc32Step crc.mValue := by
  induction chunks generalizing crc with
  | nil => rfl
  | cons chunk rest ih =>
      have hlength : (UInt32.ofNat chunk.length).toNat = chunk.length :=
        toNat_ofNat_of_lt (hchunks chunk List.mem_cons_self)
      have hchunk : (crc.update chunk (UInt32.ofNat chunk.length)).mValue =
          chunk.foldl crc32Step crc.mValue := by
        rw [update, hlength, List.take_length]
      rw [updates, List.foldl_cons, ← updates,
        ih fun other hmem => hchunks other (List.mem_cons_of_mem _ hmem), hchunk,
        List.flatten_cons, List.foldl_append]

/-- However the bytes are cut into chunks, the value is the CRC-32 of all of them. -/
theorem value_updates (chunks : List (List UInt8))
    (hchunks : ∀ chunk ∈ chunks, chunk.length < 2 ^ 32) :
    (init.updates chunks).value.2 = bitwiseCrc32 chunks.flatten := by
  have hfold : (init.updates chunks).mValue =
      ⟨takeBits crc32Polynomial 0xFFFFFFFF (messageBits chunks.flatten)⟩ := by
    rw [updates_mValue hchunks]
    exact UInt32.toBitVec_inj.mp (foldl_crc32Step _ _)
  rw [value, hfold, bitwiseCrc32]

theorem value_updates_digits :
    (init.updates [[0x31, 0x32, 0x33], [], [0x34, 0x35, 0x36, 0x37, 0x38, 0x39]]).value.2 =
      bitwiseCrc32 [0x31, 0x32, 0x33, 0x34, 0x35, 0x36, 0x37, 0x38, 0x39] :=
  value_updates [[0x31, 0x32, 0x33], [], [0x34, 0x35, 0x36, 0x37, 0x38, 0x39]] (by decide)

end Crc32

end LinuxPBS.Upt
