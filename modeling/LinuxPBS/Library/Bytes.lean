import Mathlib

/-!
# Little-endian words and byte buffers

`leBytes n value` is how a little-endian machine lays out the low `n` bytes of a
number, `ofLeBytes` reads such a layout back.  `Buffer` is a block of memory that
is filled from its start with an offset that moves on: `Buffer.copy` is the usual
`memcpy` at the offset followed by its increment.  Filling a block piece by piece
gives the concatenation of the pieces, as long as the block is large enough
(`Buffer.copyAll_filled`).
-/

namespace LinuxPBS.Bytes

/-! ## Words -/

/-- The low `n` bytes of a number, the lowest first. -/
def leBytes : ℕ → ℕ → List UInt8
  | 0, _ => []
  | n + 1, value => UInt8.ofNat value :: leBytes n (value / 256)

/-- The number a list of bytes denotes, the lowest byte first. -/
def ofLeBytes : List UInt8 → ℕ
  | [] => 0
  | byte :: rest => byte.toNat + 256 * ofLeBytes rest

@[simp] theorem length_leBytes (n value : ℕ) : (leBytes n value).length = n := by
  induction n generalizing value with
  | zero => rfl
  | succ n ih => rw [leBytes, List.length_cons, ih]

theorem ofLeBytes_leBytes (n value : ℕ) : ofLeBytes (leBytes n value) = value % 256 ^ n := by
  induction n generalizing value with
  | zero => rw [Nat.pow_zero, Nat.mod_one]; rfl
  | succ n ih =>
      have hbyte : value % 2 ^ 8 = value % 256 := rfl
      rw [leBytes, ofLeBytes, ih, UInt8.toNat_ofNat', hbyte, Nat.pow_succ',
        Nat.mod_mul (a := 256)]

theorem ofLeBytes_leBytes_of_lt {n value : ℕ} (hlt : value < 256 ^ n) :
    ofLeBytes (leBytes n value) = value := by
  rw [ofLeBytes_leBytes, Nat.mod_eq_of_lt hlt]

theorem ofLeBytes_lt (bytes : List UInt8) : ofLeBytes bytes < 256 ^ bytes.length := by
  induction bytes with
  | nil => exact Nat.one_pos
  | cons byte rest ih =>
      have hbyte := byte.toNat_lt
      rw [ofLeBytes, List.length_cons, Nat.pow_succ']
      omega

theorem leBytes_ofLeBytes (bytes : List UInt8) :
    leBytes bytes.length (ofLeBytes bytes) = bytes := by
  induction bytes with
  | nil => rfl
  | cons byte rest ih =>
      have hbyte := byte.toNat_lt
      have hrest : (byte.toNat + 256 * ofLeBytes rest) / 256 = ofLeBytes rest := by omega
      have hfirst : UInt8.ofNat (byte.toNat + 256 * ofLeBytes rest) = byte := by
        rw [← UInt8.toNat_inj, UInt8.toNat_ofNat']
        omega
      rw [List.length_cons, ofLeBytes, leBytes, hrest, hfirst, ih]

/-- The number read from `n` bytes fits the word it is stored in. -/
theorem leBytes_ofLeBytes_mod {n : ℕ} {bytes : List UInt8} (hlength : bytes.length = n) :
    leBytes n (ofLeBytes bytes % 2 ^ (8 * n)) = bytes := by
  subst hlength
  have hlt := ofLeBytes_lt bytes
  rw [show (256 : ℕ) = 2 ^ 8 from rfl, ← Nat.pow_mul] at hlt
  rw [Nat.mod_eq_of_lt hlt, leBytes_ofLeBytes]

@[simp] theorem ofLeBytes_uint8 (value : UInt8) : ofLeBytes (leBytes 1 value.toNat) = value.toNat :=
  ofLeBytes_leBytes_of_lt value.toNat_lt

@[simp] theorem ofLeBytes_uint16 (value : UInt16) :
    ofLeBytes (leBytes 2 value.toNat) = value.toNat :=
  ofLeBytes_leBytes_of_lt value.toNat_lt

@[simp] theorem ofLeBytes_uint32 (value : UInt32) :
    ofLeBytes (leBytes 4 value.toNat) = value.toNat :=
  ofLeBytes_leBytes_of_lt value.toNat_lt

@[simp] theorem ofLeBytes_uint64 (value : UInt64) :
    ofLeBytes (leBytes 8 value.toNat) = value.toNat :=
  ofLeBytes_leBytes_of_lt value.toNat_lt

/-! ## Buffers -/

/-- A block of memory and the offset of the next write. -/
structure Buffer where
  bytes : List UInt8
  offset : ℕ
  deriving DecidableEq, Repr

/-- A fresh block of `size` zero bytes. -/
def Buffer.zeroed (size : ℕ) : Buffer := { bytes := List.replicate size 0, offset := 0 }

/-- Copy a piece to the offset and move the offset behind it. -/
def Buffer.copy (buffer : Buffer) (piece : List UInt8) : Buffer where
  bytes := buffer.bytes.take buffer.offset ++ piece ++ buffer.bytes.drop (buffer.offset + piece.length)
  offset := buffer.offset + piece.length

/-- Copy several pieces one behind the other. -/
def Buffer.copyAll (buffer : Buffer) (pieces : List (List UInt8)) : Buffer :=
  pieces.foldl Buffer.copy buffer

theorem Buffer.copyAll_append (buffer : Buffer) (first second : List (List UInt8)) :
    buffer.copyAll (first ++ second) = (buffer.copyAll first).copyAll second :=
  List.foldl_append

/-- A block whose first bytes are written and whose other bytes are still zero. -/
def Buffer.Filled (buffer : Buffer) (written : List UInt8) (free : ℕ) : Prop :=
  buffer = { bytes := written ++ List.replicate free 0, offset := written.length }

theorem Buffer.zeroed_filled (size : ℕ) : (Buffer.zeroed size).Filled [] size := rfl

theorem Buffer.Filled.copy {buffer : Buffer} {written : List UInt8} {free : ℕ}
    (hfilled : buffer.Filled written free) (piece : List UInt8) :
    (buffer.copy piece).Filled (written ++ piece) (free - piece.length) := by
  unfold Buffer.Filled at hfilled ⊢
  subst hfilled
  have hdrop : (written ++ List.replicate free (0 : UInt8)).drop (written.length + piece.length) =
      List.replicate (free - piece.length) 0 := by
    rw [List.drop_append, List.drop_replicate, Nat.add_sub_cancel_left,
      List.drop_eq_nil_of_le (Nat.le_add_right _ _), List.nil_append]
  simp only [Buffer.copy, hdrop, List.take_left', List.length_append]

theorem Buffer.copyAll_filled (pieces : List (List UInt8)) {buffer : Buffer} {written : List UInt8}
    {free : ℕ} (hfilled : buffer.Filled written free) :
    (buffer.copyAll pieces).Filled (written ++ pieces.flatten) (free - pieces.flatten.length) := by
  induction pieces generalizing buffer written free with
  | nil => simpa [Buffer.copyAll] using hfilled
  | cons piece rest ih =>
      rw [List.flatten_cons, List.length_append, ← List.append_assoc, ← Nat.sub_sub]
      exact ih (hfilled.copy piece)

/-- A block of the right size that is filled piece by piece holds their concatenation. -/
theorem Buffer.copyAll_zeroed (pieces : List (List UInt8)) :
    ((Buffer.zeroed pieces.flatten.length).copyAll pieces).bytes = pieces.flatten := by
  have hfilled :=
    Buffer.copyAll_filled pieces (Buffer.zeroed_filled pieces.flatten.length)
  unfold Buffer.Filled at hfilled
  rw [hfilled]
  simp

end LinuxPBS.Bytes
