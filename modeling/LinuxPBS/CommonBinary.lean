import LinuxPBS.Common
import LinuxPBS.Library.Digits
import LinuxPBS.Library.Record

/-!
# Binary strings of the common helpers

The functions of `common.cpp` that take fields out of a string of bits and write
numbers as binary coded decimals.  A string that holds raw bytes is a list of
bytes here, one that holds text a list of characters, and a binary string the list
of its digits.  An exception is caught in the function, which returns what it has
made so far.
-/

namespace LinuxPBS.Common

open Digits CxxText

/-! ## Bits -/

/-- `FnVectorUint8ToBinaryString` -/
def vectorUint8ToBinaryString (vec : List UInt8) : List ℕ :=
  vec.flatMap fun byte => fixedDigits 2 8 byte.toNat

/-- Eight binary digits a byte. -/
def octets : List ℕ → List UInt8
  | a :: b :: c :: d :: e :: f :: g :: h :: rest =>
      UInt8.ofNat (128 * a + 64 * b + 32 * c + 16 * d + 8 * e + 4 * f + 2 * g + h) :: octets rest
  | _ => []

/-- `FnConvertBinaryStringToString`; a length that is no multiple of eight is an exception. -/
def convertBinaryStringToString (data : List ℕ) : List UInt8 :=
  if data.length % 8 ≠ 0 then [] else octets data

/-- `FnConvertStringToDecimal` -/
def convertStringToDecimal (data : List UInt8) : UInt32 :=
  data.foldl (fun result c => (result <<< 8) ||| c.toUInt32) 0

/-- The number that some binary digits denote. -/
def bitsValue (bits : List ℕ) : ℕ := bits.foldl (fun value bit => 2 * value + bit) 0

theorem length_vectorUint8ToBinaryString (vec : List UInt8) :
    (vectorUint8ToBinaryString vec).length = 8 * vec.length := by
  induction vec with
  | nil => rfl
  | cons byte vec ih =>
      unfold vectorUint8ToBinaryString at ih ⊢
      rw [List.flatMap_cons, List.length_append, ih, length_fixedDigits, List.length_cons]
      omega

theorem lt_of_mem_vectorUint8ToBinaryString {vec : List UInt8} {bit : ℕ}
    (hmem : bit ∈ vectorUint8ToBinaryString vec) : bit < 2 := by
  obtain ⟨byte, -, hbyte⟩ := List.mem_flatMap.mp hmem
  exact lt_of_mem_fixedDigits (by decide) hbyte

theorem length_octets (bits : List ℕ) : (octets bits).length = bits.length / 8 := by
  induction bits using octets.induct with
  | case1 a b c d e f g h rest ih =>
      rw [octets, List.length_cons, ih]
      simp only [List.length_cons]
      omega
  | case2 bits hshort =>
      have hlength : bits.length < 8 := by
        by_contra hlong
        match bits with
        | a :: b :: c :: d :: e :: f :: g :: h :: rest => exact hshort a b c d e f g h rest rfl
        | [] | [_] | [_, _] | [_, _, _] | [_, _, _, _] | [_, _, _, _, _] | [_, _, _, _, _, _]
        | [_, _, _, _, _, _, _] => exact hlong (by simp)
      rw [octets, Nat.div_eq_of_lt hlength]
      · rfl
      · exact hshort

theorem length_convertBinaryStringToString {bits : List ℕ} {k : ℕ} (hlength : bits.length = 8 * k) :
    (convertBinaryStringToString bits).length = k := by
  rw [convertBinaryStringToString, if_neg (by omega), length_octets]
  omega

theorem fixedDigits_octet {a b c d e f g h : ℕ}
    (hbits : ∀ bit ∈ [a, b, c, d, e, f, g, h], bit < 2) :
    fixedDigits 2 8 (UInt8.ofNat (128 * a + 64 * b + 32 * c + 16 * d + 8 * e + 4 * f + 2 * g +
      h)).toNat = [a, b, c, d, e, f, g, h] := by
  simp only [List.forall_mem_cons, List.not_mem_nil, false_implies, implies_true,
    and_true] at hbits
  obtain ⟨ha, hb, hc, hd, he, hf, hg, hh⟩ := hbits
  rw [UInt8.toNat_ofNat', Nat.mod_eq_of_lt (by omega)]
  simp only [fixedDigits, List.nil_append, List.cons_append, List.cons.injEq, and_true]
  omega

/-- The bits of the bytes made of some bits. -/
theorem vectorUint8ToBinaryString_convertBinaryStringToString {bits : List ℕ}
    (hlength : bits.length % 8 = 0) (hbits : ∀ bit ∈ bits, bit < 2) :
    vectorUint8ToBinaryString (convertBinaryStringToString bits) = bits := by
  rw [convertBinaryStringToString, if_neg (not_not.mpr hlength)]
  induction bits using octets.induct with
  | case1 a b c d e f g h rest ih =>
      have hfirst : ∀ bit ∈ [a, b, c, d, e, f, g, h], bit < 2 := fun bit hbit =>
        hbits bit (List.mem_append_left rest hbit)
      have hrest : ∀ bit ∈ rest, bit < 2 := fun bit hbit =>
        hbits bit (List.mem_append_right [a, b, c, d, e, f, g, h] hbit)
      have hshorter : rest.length % 8 = 0 := by
        simp only [List.length_cons] at hlength
        omega
      have htail := ih hshorter hrest
      unfold vectorUint8ToBinaryString at htail ⊢
      rw [octets, List.flatMap_cons, htail, fixedDigits_octet hfirst]
      rfl
  | case2 bits hshort =>
      match bits with
      | [] => rfl
      | a :: b :: c :: d :: e :: f :: g :: h :: rest =>
          exact absurd rfl (hshort a b c d e f g h rest)
      | [_] | [_, _] | [_, _, _] | [_, _, _, _] | [_, _, _, _, _] | [_, _, _, _, _, _]
      | [_, _, _, _, _, _, _] => simp at hlength

theorem octets_byte (byte : UInt8) (rest : List ℕ) :
    octets (fixedDigits 2 8 byte.toNat ++ rest) = byte :: octets rest := by
  have hlt : byte.toNat < 256 := byte.toNat_lt
  simp only [fixedDigits, List.nil_append, List.cons_append, octets, List.cons.injEq, and_true]
  apply UInt8.toNat_inj.mp
  rw [UInt8.toNat_ofNat']
  omega

/-- The bytes made of the bits of some bytes. -/
theorem convertBinaryStringToString_vectorUint8ToBinaryString (vec : List UInt8) :
    convertBinaryStringToString (vectorUint8ToBinaryString vec) = vec := by
  have hlength := length_vectorUint8ToBinaryString vec
  rw [convertBinaryStringToString, if_neg (by omega)]
  clear hlength
  induction vec with
  | nil => rfl
  | cons byte vec ih =>
      unfold vectorUint8ToBinaryString at ih ⊢
      rw [List.flatMap_cons, octets_byte, ih]

open Record

/-- Bits that start and end with a byte are the bits of a field. -/
theorem field_vectorUint8ToBinaryString (vec : List UInt8) (offset count : ℕ) :
    field (vectorUint8ToBinaryString vec) (8 * offset) (8 * count) =
      vectorUint8ToBinaryString (field vec offset count) := by
  induction offset generalizing vec with
  | zero =>
      unfold field
      rw [Nat.mul_zero, List.drop_zero, List.drop_zero]
      induction count generalizing vec with
      | zero => rfl
      | succ count ih =>
          cases vec with
          | nil => rfl
          | cons byte vec =>
              have htail := ih vec
              unfold vectorUint8ToBinaryString at htail ⊢
              have hbyte : (fixedDigits 2 8 byte.toNat).length = 8 := length_fixedDigits 2 8 _
              rw [List.take_succ_cons, List.flatMap_cons, List.flatMap_cons, ← htail,
                Nat.mul_succ, Nat.add_comm, List.take_append, hbyte, Nat.add_sub_cancel_left,
                List.take_of_length_le (by omega)]
  | succ offset ih =>
      cases vec with
      | nil => simp [vectorUint8ToBinaryString, field]
      | cons byte vec =>
          have hbyte : (fixedDigits 2 8 byte.toNat).length = 8 := length_fixedDigits 2 8 _
          have htail := ih vec
          unfold vectorUint8ToBinaryString at htail ⊢
          rw [List.flatMap_cons, Nat.mul_succ, Nat.add_comm, field_append_right hbyte, htail]
          rfl

/-! ## Numbers -/

theorem foldl_octets {bits : List ℕ} (hlength : bits.length % 8 = 0)
    (hbits : ∀ bit ∈ bits, bit < 2) (start : ℕ) :
    (octets bits).foldl (fun value byte => 256 * value + byte.toNat) start =
      bits.foldl (fun value bit => 2 * value + bit) start := by
  induction bits using octets.induct generalizing start with
  | case1 a b c d e f g h rest ih =>
      have hrest : ∀ bit ∈ rest, bit < 2 := fun bit hbit =>
        hbits bit (List.mem_append_right [a, b, c, d, e, f, g, h] hbit)
      have hshorter : rest.length % 8 = 0 := by
        simp only [List.length_cons] at hlength
        omega
      simp only [List.forall_mem_cons] at hbits
      obtain ⟨ha, hb, hc, hd, he, hf, hg, hh, -⟩ := hbits
      simp only [octets, List.foldl_cons]
      rw [ih hshorter hrest, UInt8.toNat_ofNat', Nat.mod_eq_of_lt (by omega)]
      congr 1
      omega
  | case2 bits hshort =>
      match bits with
      | [] => rfl
      | a :: b :: c :: d :: e :: f :: g :: h :: rest =>
          exact absurd rfl (hshort a b c d e f g h rest)
      | [_] | [_, _] | [_, _, _] | [_, _, _, _] | [_, _, _, _, _] | [_, _, _, _, _, _]
      | [_, _, _, _, _, _, _] => simp at hlength

/-- One byte more, as long as there is room. -/
theorem toNat_shiftLeft_or {value : UInt32} {byte : UInt8} (hroom : value.toNat < 2 ^ 24) :
    ((value <<< 8) ||| byte.toUInt32).toNat = 256 * value.toNat + byte.toNat := by
  have hshift : value.toNat <<< 8 % 2 ^ 32 = value.toNat <<< 8 := by
    rw [Nat.shiftLeft_eq]
    omega
  have height : UInt32.toNat 8 % 32 = 8 := rfl
  have hbyte : byte.toNat < 2 ^ 8 := byte.toNat_lt
  rw [UInt32.toNat_or, UInt32.toNat_shiftLeft, UInt8.toNat_toUInt32, height, hshift,
    ← Nat.shiftLeft_add_eq_or_of_lt hbyte, Nat.shiftLeft_eq]
  omega

theorem toNat_convertStringToDecimal {a b c : UInt8} :
    (convertStringToDecimal [a, b, c]).toNat =
      [a, b, c].foldl (fun value byte => 256 * value + byte.toNat) 0 := by
  have ha := a.toNat_lt
  have hb := b.toNat_lt
  have hfirst : (((0 : UInt32) <<< 8) ||| a.toUInt32).toNat = a.toNat := by
    rw [toNat_shiftLeft_or (by decide)]
    exact Nat.zero_add _
  have hsecond : (((((0 : UInt32) <<< 8) ||| a.toUInt32) <<< 8) ||| b.toUInt32).toNat =
      256 * (((0 : UInt32) <<< 8) ||| a.toUInt32).toNat + b.toNat :=
    toNat_shiftLeft_or (by omega)
  unfold convertStringToDecimal
  simp only [List.foldl_cons, List.foldl_nil]
  rw [toNat_shiftLeft_or (by omega), hsecond, hfirst]
  omega

/-- The number of a field of 24 bits. -/
theorem toNat_convertStringToDecimal_bits {bits : List ℕ} (hlength : bits.length = 24)
    (hbits : ∀ bit ∈ bits, bit < 2) :
    (convertStringToDecimal (convertBinaryStringToString bits)).toNat = bitsValue bits := by
  have hthree := length_convertBinaryStringToString (k := 3) hlength
  rw [convertBinaryStringToString, if_neg (by omega)] at hthree ⊢
  rw [bitsValue, ← foldl_octets (by omega) hbits]
  match octets bits, hthree with
  | [a, b, c], _ => exact toNat_convertStringToDecimal

/-! ## Binary coded decimals -/

/-- `FnPadLeft0_Uint32` -/
def padLeft0_Uint32 (width : ℕ) (count : UInt32) : List Char :=
  List.replicate (width - (Nat.toDigits 10 count.toNat).length) '0' ++ Nat.toDigits 10 count.toNat

/-- Two hexadecimal characters a byte, up to a pair that is none. -/
def hexPairs : List Char → List UInt8
  | high :: low :: rest =>
      match stoulHex (String.ofList [high, low]) with
      | some byte => UInt8.ofNat byte :: hexPairs rest
      | none => []
  | _ => []

/-- `FnConvertHexStringToString`; an odd length is an exception. -/
def convertHexStringToString (data : List Char) : List UInt8 :=
  if data.length % 2 ≠ 0 then [] else hexPairs data

theorem stoulHex_decimals {high low : ℕ} (hhigh : high < 10) (hlow : low < 10) :
    stoulHex (String.ofList [high.digitChar, low.digitChar]) = some (16 * high + low) := by
  have htable : ∀ high low : Fin 10,
      stoulHex (String.ofList [high.val.digitChar, low.val.digitChar]) =
        some (16 * high.val + low.val) := by decide +kernel
  exact htable ⟨high, hhigh⟩ ⟨low, hlow⟩

theorem hexPairs_decimals {digits : List ℕ} (hdigits : ∀ d ∈ digits, d < 10) :
    hexPairs (digits.map Nat.digitChar) = packed digits := by
  induction digits using packed.induct with
  | case1 high low rest ih =>
      simp only [List.forall_mem_cons] at hdigits
      obtain ⟨hhigh, hlow, hrest⟩ := hdigits
      simp only [List.map_cons, hexPairs, stoulHex_decimals hhigh hlow, packed, ih hrest]
  | case2 digits hshort =>
      rcases digits with _ | ⟨high, _ | ⟨low, rest⟩⟩
      · rfl
      · rfl
      · exact absurd rfl (hshort high low rest)

/-- An even number of decimals. -/
theorem convertHexStringToString_decimals {digits : List ℕ} (heven : digits.length % 2 = 0)
    (hdigits : ∀ d ∈ digits, d < 10) :
    convertHexStringToString (digits.map Nat.digitChar) = packed digits := by
  rw [convertHexStringToString, List.length_map, if_neg (not_not.mpr heven),
    hexPairs_decimals hdigits]

/-- A number of at most six decimals becomes three bytes. -/
theorem convertHexStringToString_padLeft0_Uint32 {count : UInt32} (hlt : count.toNat < 10 ^ 6) :
    convertHexStringToString (padLeft0_Uint32 6 count) = bcdBytes 3 count.toNat := by
  rw [padLeft0_Uint32, padded_toDigits (by decide) (by decide) hlt,
    convertHexStringToString_decimals (by rw [length_fixedDigits])
      fun d hd => lt_of_mem_fixedDigits (by decide) hd]
  rfl

/-! ## Dates -/

/-- `FnGetDateTimeFormat_yyyymmddhhmmss` and `FnFormatEpochTime` -/
def dateTimeFormat_yyyymmddhhmmss (time : DateTime) : List Char :=
  Nat.toDigits 10 time.year ++ twoDigits time.month ++ twoDigits time.day ++
    twoDigits time.hour ++ twoDigits time.minute ++ twoDigits time.second

/-- A time whose year has four digits. -/
structure Moment extends DateTime where
  year_mem : 1000 ≤ year ∧ year < 10000
  month_lt : month < 100
  day_lt : day < 100
  hour_lt : hour < 100
  minute_lt : minute < 100
  second_lt : second < 100

theorem morning_year : 1000 ≤ 2026 ∧ 2026 < 10000 := by decide
theorem morning_month : 9 < 100 := by decide
theorem morning_day : 1 < 100 := by decide
theorem morning_hour : 8 < 100 := by decide
theorem morning_minute : 30 < 100 := by decide
theorem morning_second : 0 < 100 := by decide

/-- A morning in September 2026. -/
def morning : Moment where
  year := 2026
  month := 9
  day := 1
  hour := 8
  minute := 30
  second := 0
  year_mem := morning_year
  month_lt := morning_month
  day_lt := morning_day
  hour_lt := morning_hour
  minute_lt := morning_minute
  second_lt := morning_second

theorem twoDigits_eq {n : ℕ} (hlt : n < 100) :
    twoDigits n = (fixedDigits 10 2 n).map Nat.digitChar :=
  padded_toDigits (by decide) (by decide) hlt

/-- The fourteen digits of a time. -/
def Moment.digits (time : Moment) : List ℕ :=
  fixedDigits 10 4 time.year ++ fixedDigits 10 2 time.month ++ fixedDigits 10 2 time.day ++
    fixedDigits 10 2 time.hour ++ fixedDigits 10 2 time.minute ++ fixedDigits 10 2 time.second

theorem Moment.format_eq (time : Moment) :
    dateTimeFormat_yyyymmddhhmmss time.toDateTime = time.digits.map Nat.digitChar := by
  obtain ⟨hyear, hyears⟩ := time.year_mem
  have hfour := toDigits_eq_fixedDigits (k := 4) (by decide) hyear hyears
  unfold dateTimeFormat_yyyymmddhhmmss Moment.digits
  simp only [hfour, twoDigits_eq time.month_lt, twoDigits_eq time.day_lt,
    twoDigits_eq time.hour_lt, twoDigits_eq time.minute_lt, twoDigits_eq time.second_lt,
    List.map_append]

/-- The seven bytes of a time. -/
theorem Moment.length_bytes (time : Moment) :
    (convertHexStringToString (dateTimeFormat_yyyymmddhhmmss time.toDateTime)).length = 7 := by
  have hlength : time.digits.length = 14 := by
    simp only [Moment.digits, List.length_append, length_fixedDigits]
  have hdigits : ∀ d ∈ time.digits, d < 10 := by
    intro d hd
    simp only [Moment.digits, List.mem_append] at hd
    rcases hd with ((((hd | hd) | hd) | hd) | hd) | hd
    all_goals exact lt_of_mem_fixedDigits (by decide) hd
  rw [time.format_eq, convertHexStringToString_decimals (by rw [hlength]) hdigits, length_packed,
    hlength]

end LinuxPBS.Common
