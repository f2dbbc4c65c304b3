import Mathlib.Data.List.TakeWhile
import Mathlib.Data.Rat.Floor
import Mathlib.Algebra.Order.Floor.Ring
import Mathlib.Data.Int.Log

/-!
# Numbers as C++ reads and prints them

`std::stoi`, `std::stof` and `std::stod` read the longest numeric prefix of a
text after its leading blanks and ignore whatever follows; they throw when there
is no such prefix, and `stoi` also throws when the value does not fit an `int`.
A throw is `none` here.  `std::to_string` prints an `int` in decimal and a
`float` with six decimals.

Floating point values are exact rationals: a reading function returns the value
its text denotes, with no rounding to a binary format; where an amount may be too
large for a `float` to keep its cents, `toFloat` is that rounding.  Only decimal
notation is read; the infinities, NaN and hexadecimal notation have no counterpart.

What is proved is the round trip: a printed number is read back, exactly for an
`int` (`stoi_toString`) and up to the sixth decimal for a `float`
(`stof_toStringFloat`).
-/

namespace LinuxPBS.CxxText

/-! ## Reading -/

/-- `std::isspace` in the C locale. -/
def isSpace (c : Char) : Bool :=
  c = ' ' || c = '\t' || c = '\n' || c = '\r' || c.toNat = 0x0b || c.toNat = 0x0c

/-- An optional sign and what follows it. -/
def takeSign : List Char → Bool × List Char
  | '-' :: rest => (true, rest)
  | '+' :: rest => (false, rest)
  | rest => (false, rest)

/-- The value of a string of decimal digits. -/
def digitsValue (digits : List Char) : ℕ := Nat.ofDigitChars 10 digits 0

/-- Negate when the sign says so. -/
def withSign {α : Type*} [Neg α] (negative : Bool) (value : α) : α :=
  if negative then -value else value

/-- The value `strtol` finds, before the range check of `std::stoi`. -/
def readInteger (text : List Char) : Option ℤ :=
  let (negative, rest) := takeSign (text.dropWhile isSpace)
  let digits := rest.takeWhile Char.isDigit
  if digits = [] then none else some (withSign negative (digitsValue digits : ℤ))

/-- The range of a 32-bit `int`. -/
def FitsInt (value : ℤ) : Prop := -2 ^ 31 ≤ value ∧ value < 2 ^ 31

instance (value : ℤ) : Decidable (FitsInt value) := inferInstanceAs (Decidable (_ ∧ _))

/-- `std::stoi` -/
def stoi (text : String) : Option ℤ :=
  (readInteger text.toList).bind fun value => if FitsInt value then some value else none

/-- The power of ten an exponent part stands for; no exponent part is `1`. -/
def readExponent : List Char → ℚ
  | c :: rest =>
      if c = 'e' ∨ c = 'E' then
        let (negative, rest) := takeSign rest
        let power : ℚ := 10 ^ digitsValue (rest.takeWhile Char.isDigit)
        if negative then power⁻¹ else power
      else 1
  | [] => 1

/-- The digits after a decimal point, and what follows them. -/
def takeFraction : List Char → List Char × List Char
  | '.' :: rest => (rest.takeWhile Char.isDigit, rest.dropWhile Char.isDigit)
  | rest => ([], rest)

/-- The value `strtod` finds. -/
def readDecimal (text : List Char) : Option ℚ :=
  let (negative, rest) := takeSign (text.dropWhile isSpace)
  let digits := rest.takeWhile Char.isDigit
  let (fraction, rest) := takeFraction (rest.dropWhile Char.isDigit)
  if digits = [] ∧ fraction = [] then none
  else
    let value : ℚ := digitsValue digits + digitsValue fraction / 10 ^ fraction.length
    some (withSign negative (value * readExponent rest))

/-- `std::stof` -/
def stof (text : String) : Option ℚ := readDecimal text.toList

/-- `std::stod` -/
def stod (text : String) : Option ℚ := readDecimal text.toList

/-! ## Printing -/

/-- Round to the nearest integer, halves to the even one, as `printf` does. -/
def roundHalfEven (value : ℚ) : ℤ :=
  if Int.fract value = 1 / 2 then 2 * ⌊(value + 1 / 2) / 2⌋ else ⌊value + 1 / 2⌋

/-- The decimals of `%f`: exactly six digits. -/
def sixDigits (value : ℕ) : List Char :=
  List.replicate (6 - (Nat.toDigits 10 value).length) '0' ++ Nat.toDigits 10 value

/-- The characters of `%f` for a number of millionths. -/
def printMicros (negative : Bool) (micros : ℕ) : List Char :=
  (if negative then ['-'] else []) ++ Nat.toDigits 10 (micros / 10 ^ 6) ++
    '.' :: sixDigits (micros % 10 ^ 6)

/-- `std::to_string(float)` -/
def toStringFloat (value : ℚ) : String :=
  String.ofList (printMicros (decide (value < 0)) (roundHalfEven (|value| * 10 ^ 6)).natAbs)

/-! ## The round trips -/

/-- A digit is neither blank, nor a sign, nor the decimal point. -/
theorem isSpace_eq_false_of_isDigit {c : Char} (hc : c.isDigit = true) : isSpace c = false := by
  have hrange : 48 ≤ c.toNat ∧ c.toNat ≤ 57 := by
    simpa [Char.isDigit, UInt32.le_iff_toNat_le] using hc
  have hne (d : Char) (hd : d.toNat < 48) : c ≠ d := fun h => by subst h; omega
  simp [isSpace, hne ' ' (by decide), hne '\t' (by decide), hne '\n' (by decide),
    hne '\r' (by decide)]
  omega

theorem takeSign_of_isDigit {c : Char} (hc : c.isDigit = true) (rest : List Char) :
    takeSign (c :: rest) = (false, c :: rest) := by
  unfold takeSign
  split
  · rename_i h
    obtain ⟨rfl, -⟩ := List.cons.inj h
    exact absurd hc (by decide)
  · rename_i h
    obtain ⟨rfl, -⟩ := List.cons.inj h
    exact absurd hc (by decide)
  · rfl

theorem isDigit_of_mem_toDigits {c : Char} (n : ℕ) (hc : c ∈ Nat.toDigits 10 n) :
    c.isDigit = true :=
  Nat.isDigit_of_mem_toDigits (by decide) (by decide) hc

/-- What reading sees after the sign: all the digits, and what follows them. -/
theorem span_toDigits (n : ℕ) (rest : List Char) (hrest : ∀ c ∈ rest.head?, c.isDigit = false) :
    (Nat.toDigits 10 n ++ rest).takeWhile Char.isDigit = Nat.toDigits 10 n ∧
      (Nat.toDigits 10 n ++ rest).dropWhile Char.isDigit = rest := by
  have hdigits : ∀ c ∈ Nat.toDigits 10 n, c.isDigit = true := fun c => isDigit_of_mem_toDigits n
  rw [List.takeWhile_append_of_pos hdigits, List.dropWhile_append_of_pos hdigits]
  cases rest with
  | nil => simp
  | cons c rest =>
      have hc : c.isDigit = false := hrest c (by simp)
      simp [hc]

theorem digitsValue_toDigits (n : ℕ) : digitsValue (Nat.toDigits 10 n) = n :=
  Nat.ofDigitChars_ten_toDigits

/-- The sign of a printed number is read back, and nothing is skipped. -/
theorem takeSign_printed (negative : Bool) (n : ℕ) (rest : List Char) :
    takeSign (((if negative then ['-'] else []) ++ Nat.toDigits 10 n ++ rest).dropWhile isSpace)
      = (negative, Nat.toDigits 10 n ++ rest) := by
  cases negative with
  | true => simp [isSpace, takeSign]
  | false =>
      cases hdigits : Nat.toDigits 10 n with
      | nil => exact absurd hdigits Nat.toDigits_ne_nil
      | cons c digits =>
          have hc : c.isDigit = true := isDigit_of_mem_toDigits n (by simp [hdigits])
          simp [isSpace_eq_false_of_isDigit hc, takeSign_of_isDigit hc]

/-- The characters `std::to_string` prints. -/
theorem toList_toString (value : ℤ) :
    (toString value).toList =
      (if decide (value < 0) then ['-'] else []) ++ Nat.toDigits 10 value.natAbs := by
  rw [Int.toString_eq_repr, Int.repr_eq_if]
  by_cases hneg : value < 0
  · have habs : (-value).toNat = value.natAbs := by omega
    simp [hneg, not_le.mpr hneg, habs]
  · have habs : value.toNat = value.natAbs := by omega
    simp [hneg, not_lt.mp hneg, habs]

/-- `strtol` reads back what `std::to_string` printed. -/
theorem readInteger_toString (value : ℤ) : readInteger (toString value).toList = some value := by
  have hvalue : withSign (decide (value < 0)) (value.natAbs : ℤ) = value := by
    unfold withSign
    by_cases hneg : value < 0
    · rw [decide_eq_true hneg, if_pos rfl]
      omega
    · rw [decide_eq_false hneg, if_neg (by decide)]
      omega
  have hprinted : (toString value).toList =
      (if decide (value < 0) then ['-'] else []) ++ Nat.toDigits 10 value.natAbs ++ [] := by
    rw [toList_toString, List.append_nil]
  unfold readInteger
  rw [hprinted, takeSign_printed]
  simp only [(span_toDigits value.natAbs [] (by simp)).1, digitsValue_toDigits,
    if_neg Nat.toDigits_ne_nil, hvalue]

/-- `std::stoi` reads back what `std::to_string` printed, if it fits. -/
theorem stoi_toString (value : ℤ) :
    stoi (toString value) = if FitsInt value then some value else none := by
  unfold stoi
  rw [readInteger_toString, Option.bind_some]

theorem digitsValue_sixDigits (n : ℕ) : digitsValue (sixDigits n) = n := by
  rw [digitsValue, sixDigits, Nat.ofDigitChars_append, Nat.ofDigitChars_replicate_zero, mul_zero]
  exact digitsValue_toDigits n

theorem length_sixDigits {n : ℕ} (hn : n < 10 ^ 6) : (sixDigits n).length = 6 := by
  have hlength : (Nat.toDigits 10 n).length ≤ 6 :=
    (Nat.length_toDigits_le_iff (by decide) (by decide)).mpr hn
  simp only [sixDigits, List.length_append, List.length_replicate]
  omega

theorem isDigit_of_mem_sixDigits {c : Char} {n : ℕ} (hc : c ∈ sixDigits n) :
    c.isDigit = true := by
  rcases List.mem_append.mp hc with hzero | hdigit
  · rw [List.eq_of_mem_replicate hzero]
    decide
  · exact isDigit_of_mem_toDigits n hdigit

/-- `std::stof` reads back what `std::to_string` printed: the value in millionths. -/
theorem stof_toStringFloat (value : ℚ) :
    stof (toStringFloat value) =
      some (withSign (decide (value < 0))
        (((roundHalfEven (|value| * 10 ^ 6)).natAbs : ℚ) / 10 ^ 6)) := by
  generalize hmicros : (roundHalfEven (|value| * 10 ^ 6)).natAbs = micros
  have hsix : (sixDigits (micros % 10 ^ 6)).length = 6 :=
    length_sixDigits (Nat.mod_lt _ (by decide))
  have hspan := span_toDigits (micros / 10 ^ 6) ('.' :: sixDigits (micros % 10 ^ 6)) (by simp)
  have hfraction : takeFraction ('.' :: sixDigits (micros % 10 ^ 6)) =
      (sixDigits (micros % 10 ^ 6), []) := by
    have hall : ∀ c ∈ sixDigits (micros % 10 ^ 6), c.isDigit = true :=
      fun c => isDigit_of_mem_sixDigits
    rw [takeFraction, List.takeWhile_eq_self_iff.mpr hall, List.dropWhile_eq_nil_iff.mpr hall]
  have hsplit : ((micros / 10 ^ 6 : ℕ) : ℚ) + ((micros % 10 ^ 6 : ℕ) : ℚ) / 10 ^ 6 =
      (micros : ℚ) / 10 ^ 6 := by
    have hdiv : (micros : ℚ) = 10 ^ 6 * ((micros / 10 ^ 6 : ℕ) : ℚ) +
        ((micros % 10 ^ 6 : ℕ) : ℚ) := by
      exact_mod_cast (Nat.div_add_mod micros (10 ^ 6)).symm
    rw [hdiv]
    ring
  unfold stof readDecimal toStringFloat printMicros
  rw [hmicros, String.toList_ofList, takeSign_printed]
  simp only [hspan.1, hspan.2, hfraction, digitsValue_toDigits, digitsValue_sixDigits, hsix,
    Nat.toDigits_ne_nil, false_and, if_false, readExponent, mul_one, hsplit]

/-! ## Narrowing to a float -/

/-- Conversion to `float`: the nearest number with a significand of 24 bits, halves to the even
one.  There is no overflow, and nothing is too small. -/
def toFloat (value : ℚ) : ℚ :=
  let ulp : ℚ := 2 ^ (Int.log 2 |value| - 23)
  roundHalfEven (value / ulp) * ulp

/-- What is less than a half away is the nearest integer. -/
theorem roundHalfEven_eq {value : ℚ} {n : ℤ} (hnear : |value - n| < 1 / 2) :
    roundHalfEven value = n := by
  obtain ⟨hbelow, habove⟩ := abs_lt.mp hnear
  have hfloor : ⌊value + 1 / 2⌋ = n := by
    rw [Int.floor_eq_iff]
    constructor <;> linarith
  unfold roundHalfEven
  rw [if_neg, hfloor]
  intro hhalf
  have hvalue : value = ⌊value⌋ + 1 / 2 := by rw [← hhalf, Int.floor_add_fract]
  -- then the distance to an integer is a half at least
  rw [hvalue] at hbelow habove
  have hlow : n < ⌊value⌋ + 1 := by
    have : (n : ℚ) < ((⌊value⌋ + 1 : ℤ) : ℚ) := by push_cast; linarith
    exact_mod_cast this
  have hhigh : ⌊value⌋ < n := by
    have : ((⌊value⌋ : ℤ) : ℚ) < n := by linarith
    exact_mod_cast this
  omega

theorem abs_sub_roundHalfEven (value : ℚ) : |value - roundHalfEven value| ≤ 1 / 2 := by
  unfold roundHalfEven
  split_ifs with hhalf
  · have hvalue : value = ⌊value⌋ + 1 / 2 := by rw [← hhalf, Int.floor_add_fract]
    have hceil : value + 1 / 2 = ((⌊value⌋ + 1 : ℤ) : ℚ) := by push_cast; linarith
    -- a half lies between two integers, one of them even
    have heven : 2 * ⌊(value + 1 / 2) / 2⌋ = ⌊value⌋ ∨ 2 * ⌊(value + 1 / 2) / 2⌋ = ⌊value⌋ + 1 := by
      have hdiv : ⌊(value + 1 / 2) / 2⌋ = (⌊value⌋ + 1) / 2 := by
        rw [hceil]
        exact_mod_cast Rat.floor_intCast_div_natCast (⌊value⌋ + 1) 2
      rw [hdiv]
      omega
    rw [abs_le]
    rcases heven with h | h <;>
    · rw [h]
      push_cast
      constructor <;> linarith
  · have hfloor := Int.floor_le (value + 1 / 2)
    have hlt := Int.lt_floor_add_one (value + 1 / 2)
    rw [abs_le]
    constructor <;> linarith

/-- The error of a conversion, below a power of two. -/
theorem abs_sub_toFloat_le {value : ℚ} {e : ℤ} (hpos : 0 < value) (hlt : value < 2 ^ e) :
    |value - toFloat value| ≤ 2 ^ (e - 25) := by
  unfold toFloat
  dsimp only
  have hlog : Int.log 2 |value| < e := by
    rw [abs_of_pos hpos]
    exact (Int.lt_zpow_iff_log_lt (by norm_num) hpos).mp (by exact_mod_cast hlt)
  have hulp : (0 : ℚ) < 2 ^ (Int.log 2 |value| - 23) := zpow_pos (by norm_num) _
  have hexp : Int.log 2 |value| - 23 ≤ e - 24 := by omega
  have hround := abs_sub_roundHalfEven (value / 2 ^ (Int.log 2 |value| - 23))
  calc |value - roundHalfEven (value / 2 ^ (Int.log 2 |value| - 23)) * 2 ^ (Int.log 2 |value| - 23)|
      = |value / 2 ^ (Int.log 2 |value| - 23) -
          roundHalfEven (value / 2 ^ (Int.log 2 |value| - 23))| * 2 ^ (Int.log 2 |value| - 23) := by
        rw [← abs_of_pos hulp, ← abs_mul, sub_mul, abs_of_pos hulp, div_mul_cancel₀ _ hulp.ne']
    _ ≤ 1 / 2 * 2 ^ (Int.log 2 |value| - 23) := mul_le_mul_of_nonneg_right hround hulp.le
    _ ≤ 1 / 2 * 2 ^ (e - 24) :=
        mul_le_mul_of_nonneg_left (zpow_le_zpow_right₀ (by norm_num) hexp) (by norm_num)
    _ = 2 ^ (e - 25) := by
        rw [show e - 24 = e - 25 + 1 by ring, zpow_add_one₀ (by norm_num)]
        ring

end LinuxPBS.CxxText
