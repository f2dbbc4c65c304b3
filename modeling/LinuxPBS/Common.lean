import Mathlib.Data.List.Infix
import LinuxPBS.Library.CxxText

/-!
# `common.cpp` and `parsedata.h`

The text functions the operation module uses.  A `std::out_of_range` of
`std::string::substr`, like the exceptions of the number readers, is `none`.
-/

namespace LinuxPBS.Common

open CxxText

/-! ## Taking texts apart -/

/-- All pieces between separators, empty ones included. -/
def splitChars (separator : Char) : List Char → List (List Char)
  | [] => [[]]
  | c :: rest =>
      if c = separator then [] :: splitChars separator rest
      else match splitChars separator rest with
        | [] => [[c]]
        | piece :: pieces => (c :: piece) :: pieces

/-- `boost::algorithm::split` and `splitUdpCsv` at one separator. -/
def split (separator : Char) (text : String) : List String :=
  (splitChars separator text.toList).map String.ofList

/-- `ParseData::Parse`: the fields between the start and the end delimiter; a missing end
delimiter means the end of the text. -/
def parseData (startChar endChar separatorChar : Char) (text : String) : List String :=
  match text.toList.dropWhile (· ≠ startChar) with
  | [] => []
  | _ :: rest =>
      let payload := rest.takeWhile (· ≠ endChar)
      if payload = [] then [] else (splitChars separatorChar payload).map String.ofList

/-- `FnBiteString`: the text before the first `c`, and what is left after it. -/
def biteChars (c : Char) (text : List Char) : List Char × List Char :=
  (text.takeWhile (· ≠ c), (text.dropWhile (· ≠ c)).tail)

/-- `FnParseString`: unlike `split`, nothing follows a final separator. -/
def parseChars (c : Char) : ℕ → List Char → List (List Char)
  | 0, _ => []
  | _ + 1, [] => []
  | fuel + 1, text => (biteChars c text).1 :: parseChars c fuel (biteChars c text).2

/-- The `param=value` pairs the event handlers make of their text. -/
def pairs (text : String) : List (String × String) :=
  let pieces := parseChars ',' (text.length + 1) text.toList
  pieces.map fun piece =>
    let (param, value) := biteChars '=' piece
    (String.ofList param, String.ofList value)

/-- `std::string::substr` -/
def substr (text : String) (position count : ℕ) : Option String :=
  if position ≤ text.length then
    some (String.ofList ((text.toList.drop position).take count))
  else none

/-- `substr` from the start never throws. -/
def substr0 (text : String) (count : ℕ) : String := String.ofList (text.toList.take count)

/-- `std::string::find(…) != npos` -/
def contains (text piece : String) : Bool := decide (piece.toList <:+: text.toList)

/-- `FnToUpper` -/
def toUpper (text : String) : String := String.ofList (text.toList.map Char.toUpper)

/-! ## Numbers -/

/-- `std::stoul` and `std::stoull`: 64 bits, a minus sign wraps around. -/
def stoull (text : String) : Option ℕ :=
  (readInteger text.toList).bind fun value =>
    if -2 ^ 64 < value ∧ value < 2 ^ 64 then some (value % 2 ^ 64).toNat else none

/-- `std::stoul(text, nullptr, 16)`; the prefix `0x` is optional. -/
def stoulHex (text : String) : Option ℕ :=
  let (negative, rest) := takeSign (text.toList.dropWhile isSpace)
  let isHex (c : Char) : Bool := c.isDigit || ('a' ≤ c && c ≤ 'f') || ('A' ≤ c && c ≤ 'F')
  let value (c : Char) : ℕ :=
    if c.isDigit then c.toNat - '0'.toNat else c.toLower.toNat - 'a'.toNat + 10
  let digits := match rest with
    | '0' :: x :: rest' =>
        if (x = 'x' ∨ x = 'X') ∧ rest'.head?.any isHex then rest'.takeWhile isHex
        else rest.takeWhile isHex
    | rest => rest.takeWhile isHex
  let number := digits.foldl (fun number c => 16 * number + value c) 0
  if digits = [] ∨ 2 ^ 64 ≤ number then none
  else some (if negative then (2 ^ 64 - number) % 2 ^ 64 else number)

/-- `parseUdpInt`: an `int` with nothing around it but blanks. -/
def parseUdpInt (text : String) : Option ℤ :=
  let trimmed := ((text.toList.dropWhile isSpace).reverse.dropWhile isSpace).reverse
  let (negative, digits) := match trimmed with
    | '-' :: digits => (true, digits)
    | digits => (false, digits)
  if digits = [] ∨ digits.any (! Char.isDigit ·) then none
  else
    let value : ℤ := withSign negative (digitsValue digits)
    if FitsInt value then some value else none

/-- The decimals of `std::setprecision(2)`. -/
def twoDigits (value : ℕ) : List Char :=
  List.replicate (2 - (Nat.toDigits 10 value).length) '0' ++ Nat.toDigits 10 value

/-- `SetFeeFormat` -/
def setFeeFormat (fee : ℚ) : String :=
  let cents := (roundHalfEven (|fee| * 100)).natAbs
  String.ofList ((if fee < 0 then ['-'] else []) ++ Nat.toDigits 10 (cents / 100) ++
    '.' :: twoDigits (cents % 100))

/-- `FnFormatToFloatString` -/
def formatToFloatString (text : String) : String :=
  match stof text with
  | some value => setFeeFormat (value / 100)
  | none => "Invalid Input"

/-- `longToHex` -/
def longToHex (value : ℕ) : String := String.ofList (Nat.toDigits 16 value)

/-- `FnDecimalIntToHexString` -/
def decimalIntToHexString (value byteSize : ℕ) : String :=
  let digits := (Nat.toDigits 16 value).map Char.toUpper
  String.ofList (List.replicate (byteSize * 2 - digits.length) '0' ++ digits)

/-- `FnPadLeft0` -/
def padLeft0 (width : ℕ) (count : ℤ) : String :=
  let text := (toString count).toList
  String.ofList (List.replicate (width - text.length) '0' ++ text)

/-- `FnConvertHexStringToByteArray`: pairs of hexadecimal digits, blanks left out. -/
def convertHexStringToByteArray (input : String) (outputSize : ℕ) :
    Option (Vector UInt8 outputSize) :=
  let hexStr := input.toList.filter fun c => !isSpace c
  let byte (i : ℕ) : Option ℕ := stoulHex (String.ofList ((hexStr.drop (i * 2)).take 2))
  if hexStr.length ≠ outputSize * 2 ∨ (List.range outputSize).any (fun i => (byte i).isNone) then
    none
  else some (.ofFn fun i => UInt8.ofNat ((byte i).getD 0))

/-- `FnDecimalStringToTwoBytes`; the number is taken as an `int`. -/
def decimalStringToTwoBytes (decimalString : String) (littleEndian : Bool) :
    Option (Vector UInt8 2) :=
  (stoull decimalString).bind fun number =>
    let value : ℤ := (number : ℤ).bmod (2 ^ 32)
    if value < 0 ∨ 0xFFFF < value then none
    else
      let low := UInt8.ofInt value
      let high := UInt8.ofInt (value / 256)
      some (if littleEndian then #v[low, high] else #v[high, low])

/-- The members of `std::tm` that a date and a time fill in, the year in full. -/
structure DateTime where
  year : ℕ
  month : ℕ
  day : ℕ
  hour : ℕ
  minute : ℕ
  second : ℕ
  deriving DecidableEq, Repr

/-- A field of `std::get_time`: so many digits at most, and a value in its range. -/
def readField (digits minimum maximum : ℕ) (text : List Char) : Option (ℕ × List Char) :=
  let field := (text.take digits).takeWhile Char.isDigit
  let value := digitsValue field
  if field = [] ∨ value < minimum ∨ maximum < value then none
  else some (value, text.drop field.length)

/-- A character of the format that stands for itself. -/
def readLiteral (c : Char) : List Char → Option (List Char)
  | [] => none
  | first :: rest => if first = c then some rest else none

/-- `FnParseDateTimeString`: the format `%Y-%m-%d %H:%M:%S`, where the blank stands for any
number of blanks. -/
def parseDateTimeString (dateTimeStr : String) : Option DateTime := do
  let (year, text) ← readField 4 0 9999 (dateTimeStr.toList.dropWhile isSpace)
  let text ← readLiteral '-' text
  let (month, text) ← readField 2 1 12 text
  let text ← readLiteral '-' text
  let (day, text) ← readField 2 1 31 text
  let (hour, text) ← readField 2 0 23 (text.dropWhile isSpace)
  let text ← readLiteral ':' text
  let (minute, text) ← readField 2 0 59 text
  let text ← readLiteral ':' text
  let (second, _) ← readField 2 0 60 text
  some ⟨year, month, day, hour, minute, second⟩

/-- `FnStringConvertDBTime` -/
def stringConvertDBTime (s : String) : String :=
  if s.length < 14 then ""
  else
    let part (position count : ℕ) : String := String.ofList ((s.toList.drop position).take count)
    part 0 4 ++ "-" ++ part 4 2 ++ "-" ++ part 6 2 ++ " " ++ part 8 2 ++ ":" ++ part 10 2 ++
      ":" ++ part 12 2

example : pairs "msgStatus=0,cardCan=,x" = [("msgStatus", "0"), ("cardCan", ""), ("x", "")] := by
  decide +kernel

/-! ## Joined texts -/

theorem splitChars_cons (separator : Char) (text : List Char) :
    ∃ first rest, splitChars separator text = first :: rest := by
  cases text with
  | nil => exact ⟨[], [], rfl⟩
  | cons c text =>
      unfold splitChars
      split_ifs
      · exact ⟨_, _, rfl⟩
      · split <;> exact ⟨_, _, rfl⟩

/-- The pieces of two texts with a separator between them. -/
theorem splitChars_append (separator : Char) (front back : List Char) :
    splitChars separator (front ++ separator :: back) =
      splitChars separator front ++ splitChars separator back := by
  induction front with
  | nil => simp [splitChars]
  | cons c front ih =>
      obtain ⟨first, rest, hsplit⟩ := splitChars_cons separator front
      simp only [List.cons_append, splitChars, ih]
      split_ifs
      · rfl
      · rw [hsplit]
        rfl

theorem splitChars_of_notMem {separator : Char} {text : List Char} (hnone : separator ∉ text) :
    splitChars separator text = [text] := by
  induction text with
  | nil => rfl
  | cons c text ih =>
      rw [List.mem_cons, not_or] at hnone
      unfold splitChars
      rw [if_neg (Ne.symm hnone.1), ih hnone.2]

/-- `FnParseString` finds the pieces, up to an empty one at the end. -/
theorem splitChars_eq_parseChars (separator : Char) {fuel : ℕ} {text : List Char}
    (hfuel : text.length < fuel) :
    splitChars separator text = parseChars separator fuel text ∨
      splitChars separator text = parseChars separator fuel text ++ [[]] := by
  induction fuel generalizing text with
  | zero => omega
  | succ fuel ih =>
      by_cases hmem : separator ∈ text
      · -- the first piece ends at the first separator
        obtain ⟨front, back, rfl, hfront⟩ := List.eq_append_cons_of_mem hmem
        have hbite : biteChars separator (front ++ separator :: back) = (front, back) := by
          have hall : ∀ c ∈ front, (decide (c ≠ separator)) = true := fun c hc =>
            decide_eq_true fun heq => hfront (heq ▸ hc)
          unfold biteChars
          rw [List.takeWhile_append_of_pos hall, List.dropWhile_append_of_pos hall]
          simp
        have hparse : parseChars separator (fuel + 1) (front ++ separator :: back) =
            front :: parseChars separator fuel back := by
          rw [parseChars, hbite]
          simp
        have hlength : back.length < fuel := by
          simp only [List.length_append, List.length_cons] at hfuel
          omega
        rw [splitChars_append, splitChars_of_notMem hfront, hparse]
        rcases ih hlength with h | h
        · exact Or.inl (by rw [h]; rfl)
        · exact Or.inr (by rw [h]; rfl)
      · rw [splitChars_of_notMem hmem]
        cases text with
        | nil => exact Or.inr rfl
        | cons c text =>
            have hall : ∀ x ∈ c :: text, (decide (x ≠ separator)) = true := fun x hx =>
              decide_eq_true fun heq => hmem (heq ▸ hx)
            have hbite : biteChars separator (c :: text) = (c :: text, []) := by
              unfold biteChars
              rw [List.takeWhile_eq_self_iff.mpr hall, List.dropWhile_eq_nil_iff.mpr hall]
              rfl
            refine Or.inl ?_
            rw [parseChars, hbite]
            · cases fuel <;> rfl
            · intro h
              cases h

/-! ## Amounts of money -/

/-- What `SetFeeFormat` prints can be read. -/
theorem stof_setFeeFormat (fee : ℚ) : (stof (setFeeFormat fee)).isSome = true := by
  generalize hcents : (roundHalfEven (|fee| * 100)).natAbs = cents
  have hspan := span_toDigits (cents / 100) ('.' :: twoDigits (cents % 100)) (by simp)
  have htext : (setFeeFormat fee).toList = (if decide (fee < 0) then ['-'] else []) ++
      Nat.toDigits 10 (cents / 100) ++ '.' :: twoDigits (cents % 100) := by
    rw [setFeeFormat, String.toList_ofList, hcents]
    simp only [decide_eq_true_eq]
  rw [stof, readDecimal, htext, takeSign_printed]
  simp only [hspan.1, hspan.2, Nat.toDigits_ne_nil, false_and, if_false, Option.isSome_some]

/-- Below 2^17 dollars a float keeps the cents. -/
theorem setFeeFormat_toFloat {cents : ℕ} (hlt : cents < 13107200) :
    setFeeFormat (toFloat ((cents : ℚ) / 100)) = setFeeFormat ((cents : ℚ) / 100) := by
  by_cases hzero : cents = 0
  · subst hzero
    decide +kernel
  have hpos : (0 : ℚ) < (cents : ℚ) / 100 := by
    have : 0 < cents := Nat.pos_of_ne_zero hzero
    positivity
  have hbound : (cents : ℚ) / 100 < 2 ^ (17 : ℤ) := by
    rw [div_lt_iff₀ (by norm_num)]
    norm_num
    exact_mod_cast hlt
  have herror := abs_sub_toFloat_le hpos hbound
  norm_num at herror
  obtain ⟨hbelow, habove⟩ := abs_le.mp herror
  have hone : (1 : ℚ) ≤ cents := by exact_mod_cast Nat.pos_of_ne_zero hzero
  have hfloat : 0 < toFloat ((cents : ℚ) / 100) := by linarith
  have hcents : roundHalfEven (toFloat ((cents : ℚ) / 100) * 100) = cents := by
    have hnear : |toFloat ((cents : ℚ) / 100) * 100 - ((cents : ℤ) : ℚ)| < 1 / 2 := by
      rw [abs_lt]
      push_cast
      constructor <;> linarith
    exact_mod_cast roundHalfEven_eq hnear
  have hexact : roundHalfEven ((cents : ℚ) / 100 * 100) = cents := by
    have hnear : |(cents : ℚ) / 100 * 100 - ((cents : ℤ) : ℚ)| < 1 / 2 := by
      rw [div_mul_cancel₀ _ (by norm_num)]
      simp
    exact_mod_cast roundHalfEven_eq hnear
  unfold setFeeFormat
  rw [abs_of_pos hfloat, abs_of_pos hpos, hcents, hexact, if_neg hfloat.not_gt, if_neg hpos.not_gt]

end LinuxPBS.Common
