import LinuxPBS.Library.Bytes

/-!
# Byte vectors of the common helpers

The functions of `common.cpp` that cut byte vectors into pieces and read
little-endian words from them.  A word that does not fit is an exception that the
function catches itself: it logs and returns zero.
-/

namespace LinuxPBS.Common

open LinuxPBS.Bytes

/-- `FnExtractSubVector` -/
def extractSubVector (source : List UInt8) (offset length : ℕ) : List UInt8 :=
  if offset ≥ source.length then [] else (source.drop offset).take length

/-- `FnConvertToUint8` -/
def convertToUint8 (vec : List UInt8) (offset : ℕ := 0) : UInt8 :=
  if offset + 1 > vec.length then 0 else UInt8.ofNat (ofLeBytes ((vec.drop offset).take 1))

/-- `FnConvertToUint16` -/
def convertToUint16 (vec : List UInt8) (offset : ℕ := 0) : UInt16 :=
  if offset + 2 > vec.length then 0 else UInt16.ofNat (ofLeBytes ((vec.drop offset).take 2))

/-- `FnConvertToUint32` -/
def convertToUint32 (vec : List UInt8) (offset : ℕ := 0) : UInt32 :=
  if offset + 4 > vec.length then 0 else UInt32.ofNat (ofLeBytes ((vec.drop offset).take 4))

/-- `FnConvertToUint64` -/
def convertToUint64 (vec : List UInt8) (offset : ℕ := 0) : UInt64 :=
  if offset + 8 > vec.length then 0 else UInt64.ofNat (ofLeBytes ((vec.drop offset).take 8))

/-- `FnConvertUint32ToVector`: the highest byte first. -/
def convertUint32ToVector (value : UInt32) : List UInt8 := (leBytes 4 value.toNat).reverse

/-- `FnConvertAsciiToUint8Vector` -/
def convertAsciiToUint8Vector (asciiStr : String) : List UInt8 :=
  asciiStr.toList.map fun c => UInt8.ofNat c.toNat

/-- `FnConvertToLittleEndian` -/
def convertToLittleEndian (bigEndianVec : List UInt8) : List UInt8 := bigEndianVec.reverse

@[simp] theorem length_convertUint32ToVector (value : UInt32) :
    (convertUint32ToVector value).length = 4 := by
  rw [convertUint32ToVector, List.length_reverse, length_leBytes]

@[simp] theorem length_convertAsciiToUint8Vector (asciiStr : String) :
    (convertAsciiToUint8Vector asciiStr).length = asciiStr.length := by
  rw [convertAsciiToUint8Vector, List.length_map, String.length_toList]

/-! ## Reading back what was written -/

@[simp] theorem convertToUint8_leBytes (value : UInt8) :
    convertToUint8 (leBytes 1 value.toNat) = value := by
  rw [convertToUint8, if_neg (by simp), List.drop_zero, List.take_of_length_le (by simp),
    ofLeBytes_uint8, UInt8.ofNat_toNat]

@[simp] theorem convertToUint16_leBytes (value : UInt16) :
    convertToUint16 (leBytes 2 value.toNat) = value := by
  rw [convertToUint16, if_neg (by simp), List.drop_zero, List.take_of_length_le (by simp),
    ofLeBytes_uint16, UInt16.ofNat_toNat]

@[simp] theorem convertToUint32_leBytes (value : UInt32) :
    convertToUint32 (leBytes 4 value.toNat) = value := by
  rw [convertToUint32, if_neg (by simp), List.drop_zero, List.take_of_length_le (by simp),
    ofLeBytes_uint32, UInt32.ofNat_toNat]

@[simp] theorem convertToUint64_leBytes (value : UInt64) :
    convertToUint64 (leBytes 8 value.toNat) = value := by
  rw [convertToUint64, if_neg (by simp), List.drop_zero, List.take_of_length_le (by simp),
    ofLeBytes_uint64, UInt64.ofNat_toNat]

/-! ## Writing back what was read -/

theorem extractSubVector_eq (source : List UInt8) (offset length : ℕ) :
    extractSubVector source offset length = (source.drop offset).take length := by
  unfold extractSubVector
  split_ifs with hend
  · rw [List.drop_eq_nil_of_le hend, List.take_nil]
  · rfl

theorem leBytes_convertToUint8 {vec : List UInt8} (hlength : vec.length = 1) :
    leBytes 1 (convertToUint8 vec).toNat = vec := by
  rw [convertToUint8, if_neg (by omega), List.drop_zero, List.take_of_length_le hlength.le,
    UInt8.toNat_ofNat']
  exact leBytes_ofLeBytes_mod hlength

theorem leBytes_convertToUint16 {vec : List UInt8} (hlength : vec.length = 2) :
    leBytes 2 (convertToUint16 vec).toNat = vec := by
  rw [convertToUint16, if_neg (by omega), List.drop_zero, List.take_of_length_le hlength.le,
    UInt16.toNat_ofNat']
  exact leBytes_ofLeBytes_mod hlength

theorem leBytes_convertToUint32 {vec : List UInt8} (hlength : vec.length = 4) :
    leBytes 4 (convertToUint32 vec).toNat = vec := by
  rw [convertToUint32, if_neg (by omega), List.drop_zero, List.take_of_length_le hlength.le,
    UInt32.toNat_ofNat']
  exact leBytes_ofLeBytes_mod hlength

theorem leBytes_convertToUint64 {vec : List UInt8} (hlength : vec.length = 8) :
    leBytes 8 (convertToUint64 vec).toNat = vec := by
  rw [convertToUint64, if_neg (by omega), List.drop_zero, List.take_of_length_le hlength.le,
    UInt64.toNat_ofNat']
  exact leBytes_ofLeBytes_mod hlength

/-- A piece is cut out between what stands in front of it and what stands behind it. -/
theorem extractSubVector_append (before piece after : List UInt8) :
    extractSubVector (before ++ (piece ++ after)) before.length piece.length = piece := by
  unfold extractSubVector
  split_ifs with hend
  · rw [List.length_append, List.length_append] at hend
    have hempty : piece.length = 0 := by omega
    exact (List.eq_nil_of_length_eq_zero hempty).symm
  · rw [List.drop_left' rfl, List.take_left' rfl]

end LinuxPBS.Common
