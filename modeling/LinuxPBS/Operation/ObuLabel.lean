import LinuxPBS.Library.Digits
import LinuxPBS.Operation.LateAnswer

/-!
# One label, two texts

The label of an OBU is a number of 40 bits.  `ProcessOUBInformation` stores it
as the text `longToHex` makes of it: small letters, and no zeros in front.
`processEEPTransData` compares that text with the one `FnDecimalIntToHexString`
makes of the label in the transaction data: capital letters, ten places.

Both are read off the ten hexadecimal digits of the label, so the two texts are
one exactly when there is neither a leading zero nor a letter among the digits
(`labelsAgree_iff`).  The longer text always reads back as the five bytes of
the label (`convertHexStringToByteArray_decimalIntToHexString`).
-/

namespace LinuxPBS.Operation

open Common CxxText Digits Handler

/-- The text that is stored and the text that is compared with it are one, of ten characters,
and name the bytes of the label. -/
def LabelsAgree (label : ℕ) : Prop :=
  longToHex label = decimalIntToHexString label 5 ∧
    (longToHex label).length = 10 ∧
    (convertHexStringToByteArray (longToHex label) 5).map Vector.toList = some (beBytes 5 label)

/-- Ten hexadecimal digits, the first of them not zero and none of them a letter. -/
def PlainDigits (label : ℕ) : Prop :=
  16 ^ 9 ≤ label ∧ ∀ digit ∈ fixedDigits 16 10 label, digit < 10

/-! ## The characters of a digit -/

/-- The capital form of a hexadecimal digit. -/
def upperDigit (digit : ℕ) : Char := (Nat.digitChar digit).toUpper

/-- Only the letters have two forms. -/
theorem upperDigit_eq_iff {digit : ℕ} (hlt : digit < 16) :
    upperDigit digit = Nat.digitChar digit ↔ digit < 10 := by
  have htable : ∀ digit : Fin 16, upperDigit digit = Nat.digitChar digit ↔ digit.val < 10 := by
    decide
  exact htable ⟨digit, hlt⟩

theorem isSpace_upperDigit {digit : ℕ} (hlt : digit < 16) : isSpace (upperDigit digit) = false := by
  have htable : ∀ digit : Fin 16, isSpace (upperDigit digit) = false := by decide
  exact htable ⟨digit, hlt⟩

/-- A pair of digits reads back as the byte it is. -/
theorem stoulHex_pair {high low : ℕ} (hhigh : high < 16) (hlow : low < 16) :
    stoulHex (String.ofList [upperDigit high, upperDigit low]) = some (16 * high + low) := by
  have htable : ∀ high low : Fin 16,
      stoulHex (String.ofList [upperDigit high.val, upperDigit low.val]) =
        some (16 * high.val + low.val) := by
    decide +kernel
  exact htable ⟨high, hhigh⟩ ⟨low, hlow⟩

/-! ## The two texts -/

theorem decimalIntToHexString_eq {label : ℕ} (hlt : label < 2 ^ 40) :
    decimalIntToHexString label 5 =
      String.ofList ((fixedDigits 16 10 label).map upperDigit) := by
  have hpadded := padded_toDigits (b := 16) (k := 10) (by omega) (by omega)
    (show label < 16 ^ 10 from hlt)
  rw [decimalIntToHexString, List.length_map]
  congr 1
  calc List.replicate (5 * 2 - (Nat.toDigits 16 label).length) '0' ++
        (Nat.toDigits 16 label).map Char.toUpper
      = (List.replicate (10 - (Nat.toDigits 16 label).length) '0' ++
          Nat.toDigits 16 label).map Char.toUpper := by
        rw [List.map_append, List.map_replicate]
        rfl
    _ = (fixedDigits 16 10 label).map upperDigit := by
        rw [hpadded, List.map_map]
        rfl

/-- A label with a digit in the first place is stored with all its ten digits. -/
theorem longToHex_eq {label : ℕ} (hle : 16 ^ 9 ≤ label) (hlt : label < 2 ^ 40) :
    longToHex label = String.ofList ((fixedDigits 16 10 label).map Nat.digitChar) := by
  have hlong : ¬(Nat.toDigits 16 label).length ≤ 9 := by
    rw [Nat.length_toDigits_le_iff (by omega) (by omega)]
    exact Nat.not_lt.mpr hle
  have hnone : 10 - (Nat.toDigits 16 label).length = 0 := by omega
  rw [longToHex, ← padded_toDigits (by omega) (by omega) (show label < 16 ^ 10 from hlt), hnone,
    List.replicate_zero, List.nil_append]

/-! ## The bytes of a text -/

/-- The two characters of byte `i`. -/
theorem pair_at {α : Type*} {items : List α} {i : ℕ} (hi : i * 2 + 1 < items.length) :
    (items.drop (i * 2)).take 2 = [items[i * 2], items[i * 2 + 1]] := by
  rw [List.drop_eq_getElem_cons (by omega), List.drop_eq_getElem_cons hi]
  rfl

/-- A text of hexadecimal digits reads back as the bytes the digits make. -/
theorem convertHexStringToByteArray_upper {digits : List ℕ} {size : ℕ}
    (hlength : digits.length = 2 * size) (hlt : ∀ digit ∈ digits, digit < 16) :
    (convertHexStringToByteArray (String.ofList (digits.map upperDigit)) size).map Vector.toList =
      some (packed digits) := by
  have hhex : (String.ofList (digits.map upperDigit)).toList.filter (fun c => !isSpace c) =
      digits.map upperDigit := by
    rw [String.toList_ofList, List.filter_eq_self]
    intro c hc
    obtain ⟨digit, hdigit, rfl⟩ := List.mem_map.mp hc
    rw [isSpace_upperDigit (hlt digit hdigit)]
    rfl
  -- every pair of characters is read
  have hbyte : ∀ i (hi : i * 2 + 1 < digits.length),
      stoulHex (String.ofList (((digits.map upperDigit).drop (i * 2)).take 2)) =
        some (16 * digits[i * 2] + digits[i * 2 + 1]) := by
    intro i hi
    rw [pair_at (by rwa [List.length_map]), List.getElem_map, List.getElem_map]
    exact stoulHex_pair (hlt _ (List.getElem_mem _)) (hlt _ (List.getElem_mem _))
  have hread : ¬((digits.map upperDigit).length ≠ size * 2 ∨
      (List.range size).any (fun i =>
        (stoulHex (String.ofList (((digits.map upperDigit).drop (i * 2)).take 2))).isNone)) := by
    rw [List.length_map, not_or, not_not, List.any_eq_true]
    refine ⟨by omega, ?_⟩
    rintro ⟨i, hi, hnone⟩
    rw [hbyte i (by rw [List.mem_range] at hi; omega)] at hnone
    exact Bool.false_ne_true hnone
  unfold convertHexStringToByteArray
  simp only [hhex]
  rw [if_neg hread, Option.map_some, Option.some.injEq]
  apply List.ext_getElem
  · rw [Vector.length_toList, length_packed]
    omega
  · intro i hi hi'
    have hdigits : i * 2 + 1 < digits.length := by
      rw [Vector.length_toList] at hi
      omega
    rw [Vector.getElem_toList, Vector.getElem_ofFn, hbyte i hdigits, Option.getD_some,
      getElem_packed digits hi' hdigits]

/-- The text of ten places reads back as the bytes of the label. -/
theorem convertHexStringToByteArray_decimalIntToHexString {label : ℕ} (hlt : label < 2 ^ 40) :
    (convertHexStringToByteArray (decimalIntToHexString label 5) 5).map Vector.toList =
      some (beBytes 5 label) := by
  rw [decimalIntToHexString_eq hlt, ← packed_hex 5 label]
  apply convertHexStringToByteArray_upper (length_fixedDigits 16 10 label)
  intro digit hdigit
  exact lt_of_mem_fixedDigits (by omega) hdigit

/-! ## When they agree -/

/-- The digits of a label are the same characters in both texts when none is a letter. -/
theorem map_upperDigit_iff (label : ℕ) :
    (fixedDigits 16 10 label).map Nat.digitChar = (fixedDigits 16 10 label).map upperDigit ↔
      ∀ digit ∈ fixedDigits 16 10 label, digit < 10 := by
  rw [List.map_inj_left]
  apply forall₂_congr
  intro digit hdigit
  rw [eq_comm, upperDigit_eq_iff (lt_of_mem_fixedDigits (by omega) hdigit)]

/-- Shorter than ten characters, the stored text of a label is not the other one. -/
theorem longToHex_short {label : ℕ} (hlt : label < 16 ^ 9) : (longToHex label).length ≤ 9 := by
  rw [longToHex, String.length_ofList, Nat.length_toDigits_le_iff (by omega) (by omega)]
  exact hlt

/-- The text of ten places has ten characters. -/
theorem length_decimalIntToHexString {label : ℕ} (hlt : label < 2 ^ 40) :
    (decimalIntToHexString label 5).length = 10 := by
  rw [decimalIntToHexString_eq hlt, String.length_ofList, List.length_map, length_fixedDigits]

/-- The text that is stored is the one that is compared with it exactly when the ten
hexadecimal digits of the label are decimals and the first of them is not zero. -/
theorem longToHex_eq_iff {label : ℕ} (hlt : label < 2 ^ 40) :
    longToHex label = decimalIntToHexString label 5 ↔ PlainDigits label := by
  constructor
  · intro heq
    have hle : 16 ^ 9 ≤ label := by
      by_contra hshort
      have hnine := longToHex_short (Nat.lt_of_not_le hshort)
      rw [heq, length_decimalIntToHexString hlt] at hnine
      omega
    refine ⟨hle, (map_upperDigit_iff label).mp ?_⟩
    rw [longToHex_eq hle hlt, decimalIntToHexString_eq hlt] at heq
    exact String.ofList_injective heq
  · rintro ⟨hle, hplain⟩
    rw [longToHex_eq hle hlt, decimalIntToHexString_eq hlt, (map_upperDigit_iff label).mpr hplain]

/-- The texts of a label agree in everything exactly when its digits are plain. -/
theorem labelsAgree_iff {label : ℕ} (hlt : label < 2 ^ 40) :
    LabelsAgree label ↔ PlainDigits label := by
  constructor
  · rintro ⟨heq, -, -⟩
    exact (longToHex_eq_iff hlt).mp heq
  · intro hplain
    have heq := (longToHex_eq_iff hlt).mpr hplain
    refine ⟨heq, ?_, ?_⟩
    · rw [heq, length_decimalIntToHexString hlt]
    · rw [heq, convertHexStringToByteArray_decimalIntToHexString hlt]

/-- The label `1122334455`, for one. -/
theorem labelsAgree_iff_plain : LabelsAgree 0x1122334455 ∧ PlainDigits 0x1122334455 := by
  have hplain : PlainDigits 0x1122334455 := by
    unfold PlainDigits
    decide
  exact ⟨(labelsAgree_iff (by decide)).mpr hplain, hplain⟩

/-- A letter is stored small and compared with its capital; a zero in front is not stored. -/
theorem labels_differ : ¬LabelsAgree 0x11223344AB ∧ ¬LabelsAgree 0x0122334455 := by
  constructor
  · rintro ⟨heq, -, -⟩
    exact absurd heq (by decide +kernel)
  · rintro ⟨-, hlength, -⟩
    exact absurd hlength (by decide +kernel)

end LinuxPBS.Operation
