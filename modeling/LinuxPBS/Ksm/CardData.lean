import LinuxPBS.Ksm.Reader
import LinuxPBS.Library.Digits

/-!
# What a card answers

The responses of `READ_CARD_INFO` and `READ_CARD_BALANCE` are decoded over their
hexadecimal text.  The card number is that text.  The date and the balance are
read from it by `atoi`, which takes its characters for decimals and stops at the
first letter: a byte is read right if its half bytes are decimals.  The expiry
month is a remainder by twelve, so a card that runs out in December gets month zero
of the year after.

`cardData_iff` says when a card is decoded right.
-/

namespace LinuxPBS.Ksm

open CxxText Digits

/-! ## Hexadecimal text as a decimal -/

theorem getVectorCharToHexString_eq (data : List UInt8) :
    getVectorCharToHexString data = (nibbles data).map Nat.digitChar := hexText_eq data

/-- The decimals in front of the first letter. -/
def decimalPrefix (acc : ℕ) : List ℕ → ℕ
  | [] => acc
  | d :: rest => if d < 10 then decimalPrefix (10 * acc + d) rest else acc

theorem digitChar_cases {d : ℕ} (hd : d < 16) :
    d.digitChar.isDigit = decide (d < 10) ∧ isSpace d.digitChar = false ∧
      d.digitChar ≠ '-' ∧ d.digitChar ≠ '+' := by
  have htable : ∀ d : Fin 16, d.val.digitChar.isDigit = decide (d.val < 10) ∧
      isSpace d.val.digitChar = false ∧ d.val.digitChar ≠ '-' ∧ d.val.digitChar ≠ '+' := by
    decide
  exact htable ⟨d, hd⟩

theorem ofDigitChars_takeWhile {digits : List ℕ} (hdigits : ∀ d ∈ digits, d < 16) (acc : ℕ) :
    Nat.ofDigitChars 10 ((digits.map Nat.digitChar).takeWhile Char.isDigit) acc =
      decimalPrefix acc digits := by
  induction digits generalizing acc with
  | nil => rfl
  | cons d digits ih =>
      have hd : d < 16 := hdigits d List.mem_cons_self
      rw [List.map_cons, List.takeWhile_cons, (digitChar_cases hd).1, decimalPrefix]
      by_cases hten : d < 10
      · have hvalue : d.digitChar.toNat - '0'.toNat = d := by
          have htable : ∀ d : Fin 10, d.val.digitChar.toNat - '0'.toNat = d.val := by decide
          exact htable ⟨d, hten⟩
        rw [decide_eq_true hten, if_pos rfl, if_pos hten, Nat.ofDigitChars_cons, hvalue]
        exact ih (fun e he => hdigits e (List.mem_cons_of_mem d he)) _
      · rw [decide_eq_false hten, if_neg Bool.false_ne_true, if_neg hten]
        rfl

/-- `atoi` of a hexadecimal text. -/
theorem atoi_digits {digits : List ℕ} (hdigits : ∀ d ∈ digits, d < 16) :
    atoi (digits.map Nat.digitChar) = decimalPrefix 0 digits := by
  have hfront : takeSign ((digits.map Nat.digitChar).dropWhile isSpace) =
      (false, digits.map Nat.digitChar) := by
    cases digits with
    | nil => rfl
    | cons d digits =>
        obtain ⟨-, hspace, hminus, hplus⟩ := digitChar_cases (hdigits d List.mem_cons_self)
        rw [List.map_cons, List.dropWhile_cons, hspace, if_neg Bool.false_ne_true]
        unfold takeSign
        split
        · next heq => exact absurd (List.cons.inj heq).1 hminus
        · next heq => exact absurd (List.cons.inj heq).1 hplus
        · rfl
  have hvalue := ofDigitChars_takeWhile hdigits 0
  unfold atoi readInteger
  rw [hfront]
  dsimp only
  by_cases hnone : (digits.map Nat.digitChar).takeWhile Char.isDigit = []
  · rw [hnone] at hvalue
    rw [if_pos hnone, ← hvalue]
    rfl
  · rw [if_neg hnone, digitsValue, hvalue]
    rfl

/-! ## Encoded numbers -/

/-- How a number may stand in some bytes. -/
inductive Coding
  | bcd
  | binary
  deriving DecidableEq, Repr

/-- The number that some bytes encode. -/
def Coding.value (data : List UInt8) : Coding → Option ℕ
  | .bcd => bcdValue data
  | .binary => some (data.foldl (fun acc byte => 256 * acc + byte.toNat) 0)

/-- The bytes from which a decimal text gives the number they encode. -/
def Coding.Readable (data : List UInt8) : Coding → Prop
  | .bcd => ∀ d ∈ nibbles data, d < 10
  | .binary => data.foldl (fun acc byte => 256 * acc + byte.toNat) 0 < 10

theorem bcdValue_eq (data : List UInt8) :
    bcdValue data =
      if ∀ d ∈ nibbles data, d < 10 then some (decimalPrefix 0 (nibbles data)) else none := by
  unfold bcdValue
  generalize 0 = acc
  induction data generalizing acc with
  | nil => rfl
  | cons byte data ih =>
      rw [List.foldlM_cons, nibbles_cons]
      simp only [List.forall_mem_cons]
      by_cases hbyte : byte.toNat / 16 < 10 ∧ byte.toNat % 16 < 10
      · have hacc : 10 * (10 * acc + byte.toNat / 16) + byte.toNat % 16 =
            100 * acc + 10 * (byte.toNat / 16) + byte.toNat % 16 := by omega
        rw [if_pos hbyte, decimalPrefix, if_pos hbyte.1, decimalPrefix, if_pos hbyte.2, hacc]
        simp only [Option.bind_eq_bind, Option.bind_some, hbyte.1, hbyte.2, true_and]
        exact ih _
      · rw [if_neg hbyte, if_neg (fun h => hbyte ⟨h.1, h.2.1⟩)]
        rfl

/-- Sixteen times a number and a digit, over some digits. -/
def hexFold (acc : ℕ) (digits : List ℕ) : ℕ := digits.foldl (fun acc d => 16 * acc + d) acc

theorem hexFold_cons (acc d : ℕ) (digits : List ℕ) :
    hexFold acc (d :: digits) = hexFold (16 * acc + d) digits := rfl

theorem binary_eq (data : List UInt8) (acc : ℕ) :
    data.foldl (fun acc byte => 256 * acc + byte.toNat) acc =
      hexFold acc (nibbles data) := by
  induction data generalizing acc with
  | nil => rfl
  | cons byte data ih =>
      have hacc : 256 * acc + byte.toNat =
          16 * (16 * acc + byte.toNat / 16) + byte.toNat % 16 := by omega
      rw [List.foldl_cons, ih, nibbles_cons, hexFold_cons, hexFold_cons, hacc]

theorem le_hexFold (acc : ℕ) (digits : List ℕ) : acc ≤ hexFold acc digits := by
  induction digits generalizing acc with
  | nil => exact Nat.le_refl acc
  | cons d digits ih =>
      calc acc ≤ 16 * acc + d := by omega
        _ ≤ hexFold acc (d :: digits) := ih _

/-- The decimal reading stays behind the hexadecimal one by what it is behind at the start. -/
theorem decimalPrefix_add_le {acc larger behind : ℕ} (hle : acc + behind ≤ larger)
    (digits : List ℕ) : decimalPrefix acc digits + behind ≤ hexFold larger digits := by
  induction digits generalizing acc larger with
  | nil => exact hle
  | cons d digits ih =>
      rw [decimalPrefix, hexFold_cons]
      split
      · exact ih (by omega)
      · have hgrows := le_hexFold (16 * larger + d) digits
        omega

theorem decimalPrefix_eq_iff (acc : ℕ) (digits : List ℕ) :
    decimalPrefix acc digits = hexFold acc digits ↔ digits = [] ∨ hexFold acc digits < 10 := by
  induction digits generalizing acc with
  | nil => simp [decimalPrefix, hexFold]
  | cons d digits ih =>
      have hgrows := le_hexFold (16 * acc + d) digits
      rw [decimalPrefix, hexFold_cons]
      simp only [List.cons_ne_nil, false_or]
      by_cases hd : d < 10
      · rw [if_pos hd]
        rcases Nat.eq_zero_or_pos acc with rfl | hpos
        · simp only [Nat.mul_zero, Nat.zero_add]
          rw [ih]
          refine ⟨fun h => h.elim (fun hnil => ?_) id, .inr⟩
          rw [hnil]
          exact hd
        · have hbehind : decimalPrefix (10 * acc + d) digits + 6 * acc ≤
              hexFold (16 * acc + d) digits := decimalPrefix_add_le (by omega) digits
          constructor <;> intro h <;> omega
      · rw [if_neg hd]
        constructor <;> intro h <;> omega

/-- A decimal reading gives the encoded number exactly if the bytes are readable. -/
theorem value_eq_decimalPrefix_iff (coding : Coding) {data : List UInt8} (hdata : data ≠ []) :
    coding.value data = some (decimalPrefix 0 (nibbles data)) ↔ coding.Readable data := by
  cases coding with
  | bcd =>
      rw [Coding.value, Coding.Readable, bcdValue_eq]
      split
      · next hall => exact iff_of_true rfl hall
      · next hall => exact iff_of_false (Option.some_ne_none _).symm hall
  | binary =>
      have hnibbles : nibbles data ≠ [] := by
        rw [← List.length_pos_iff_ne_nil, length_nibbles]
        have hlength := List.length_pos_iff_ne_nil.mpr hdata
        omega
      have hiff := decimalPrefix_eq_iff 0 (nibbles data)
      rw [Coding.value, Coding.Readable, binary_eq, Option.some_inj, eq_comm]
      simpa only [hnibbles, false_or] using hiff

/-! ## The balance -/

/-- The balance kept is the number that the three bytes encode. -/
def BalanceRight (coding : Coding) (recvCmd : List UInt8) (kept : CardData) : Prop :=
  ∃ balance : ℕ, coding.value ((recvCmd.drop 8).take 3) = some balance ∧ kept.balance = balance

theorem atoi_getVectorCharToHexString (data : List UInt8) :
    atoi (getVectorCharToHexString data) = decimalPrefix 0 (nibbles data) := by
  rw [getVectorCharToHexString_eq, atoi_digits fun d => lt_of_mem_nibbles]

@[simp] theorem cardData_enqueueCommandOnIoThread (r : Reader) (cmd : CmdId) :
    (r.enqueueCommandOnIoThread cmd).cardData = r.cardData := by
  unfold Reader.enqueueCommandOnIoThread
  split
  · rfl
  · split <;> rfl

@[simp] theorem cardData_raise (r : Reader) (evt : Evt) (value : Bool) :
    (r.raise evt value).cardData = r.cardData := rfl

theorem balance_readCardBalance (r : Reader) {recvCmd : List UInt8} (hlong : 11 ≤ recvCmd.length) :
    (r.readCardBalance recvCmd).2.cardData.balance =
      decimalPrefix 0 (nibbles ((recvCmd.drop 8).take 3)) := by
  unfold Reader.readCardBalance
  rw [if_neg (Nat.not_lt.mpr hlong), atoi_getVectorCharToHexString]
  dsimp only
  rw [cardData_enqueueCommandOnIoThread, if_neg (by omega)]
  rfl

theorem balanceRight_iff (r : Reader) {recvCmd : List UInt8} (hlong : 11 ≤ recvCmd.length)
    (coding : Coding) :
    BalanceRight coding recvCmd (r.readCardBalance recvCmd).2.cardData ↔
      coding.Readable ((recvCmd.drop 8).take 3) := by
  have hdata : (recvCmd.drop 8).take 3 ≠ [] := by
    rw [← List.length_pos_iff_ne_nil, List.length_take, List.length_drop]
    omega
  rw [← value_eq_decimalPrefix_iff coding hdata, BalanceRight, balance_readCardBalance r hlong]
  constructor
  · rintro ⟨balance, hvalue, hkept⟩
    rw [Int.natCast_inj.mp hkept]
    exact hvalue
  · intro hvalue
    exact ⟨_, hvalue, rfl⟩

/-! ## The expiry month -/

/-- The date that a card carries: the last two digits of a year, a month and months of
validity. -/
structure StartDate where
  year : ℕ
  month : ℕ
  validity : ℕ
  deriving DecidableEq, Repr

/-- The date in the payload, in binary coded decimals. -/
def startDate (recvCmd : List UInt8) : Option StartDate := do
  let year ← bcdValue ((recvCmd.drop 19).take 1)
  let month ← bcdValue ((recvCmd.drop 20).take 1)
  let validity ← bcdValue ((recvCmd.drop 21).take 1)
  return { year, month, validity }

/-- The year that two digits stand for. -/
def fullYear (year2 : ℕ) : ℕ := if year2 > 90 then 1900 + year2 else 2000 + year2

/-- The calendar month that is `validity` months after the start month. -/
def StartDate.RunsOut (date : StartDate) (year month : ℕ) : Prop :=
  1 ≤ month ∧ month ≤ 12 ∧ 12 * year + month = 12 * fullYear date.year + date.month + date.validity

/-- A calendar month whose year has four digits. -/
structure YearMonth where
  year : ℕ
  month : ℕ
  four_digits : 1000 ≤ year ∧ year < 10000
  month_mem : 1 ≤ month ∧ month ≤ 12

/-- The text that `FnGetDateTimeFormat_yyyymm` makes in a month. -/
def YearMonth.text (today : YearMonth) : String := dateTimeFormat_yyyymm today.year today.month

/-- The month and the flag kept are those of the month in which the card runs out. -/
def ExpiryRight (today : YearMonth) (recvCmd : List UInt8) (kept : CardData) : Prop :=
  ∃ date year month, startDate recvCmd = some date ∧ date.RunsOut year month ∧
    kept.expiryYearMonth = 100 * year + month ∧
    (kept.expired = true ↔ 12 * year + month ≤ 12 * today.year + today.month)

/-- The date is written in decimals and the card does not run out in a December. -/
def ExpiryReadable (recvCmd : List UInt8) : Prop :=
  ∃ date, startDate recvCmd = some date ∧ ¬ 12 ∣ date.month + date.validity

/-- What `handleCommandResponse` makes of three numbers. -/
def expiryOf (year2 month expiryMonths : ℕ) : ℕ :=
  (fullYear year2 + (expiryMonths + month) / 12) * 100 + (expiryMonths + month) % 12

theorem expiryYearMonthOf_eq (year month validity : UInt8) :
    expiryYearMonthOf (getVectorCharToHexString [year, month, validity]) =
      expiryOf (decimalPrefix 0 (nibbles [year])) (decimalPrefix 0 (nibbles [month]))
        (decimalPrefix 0 (nibbles [validity])) := by
  have hyear : (getVectorCharToHexString [year, month, validity]).take 2 =
      getVectorCharToHexString [year] := by
    simp only [getVectorCharToHexString_eq]
    rfl
  have hmonth : ((getVectorCharToHexString [year, month, validity]).drop 2).take 2 =
      getVectorCharToHexString [month] := by
    simp only [getVectorCharToHexString_eq]
    rfl
  have hvalidity : ((getVectorCharToHexString [year, month, validity]).drop 4).take 2 =
      getVectorCharToHexString [validity] := by
    simp only [getVectorCharToHexString_eq]
    rfl
  unfold expiryYearMonthOf
  simp only [hyear, hmonth, hvalidity, atoi_getVectorCharToHexString]
  unfold expiryOf fullYear
  rw [Int.tdiv_eq_ediv_of_nonneg (by omega), Int.tmod_eq_emod_of_nonneg (by omega)]
  split <;> split <;> omega

theorem toList_text (today : YearMonth) :
    today.text.toList =
      (fixedDigits 10 6 (100 * today.year + today.month)).map Nat.digitChar := by
  obtain ⟨hyear, hyears⟩ := today.four_digits
  obtain ⟨-, hmonth⟩ := today.month_mem
  have hsplit : fixedDigits 10 6 (100 * today.year + today.month) =
      fixedDigits 10 4 today.year ++ fixedDigits 10 2 today.month := by
    have hhigh : (100 * today.year + today.month) / 10 / 10 = today.year := by omega
    have htens : (100 * today.year + today.month) / 10 % 10 = today.month / 10 % 10 := by omega
    have hones : (100 * today.year + today.month) % 10 = today.month % 10 := by omega
    calc fixedDigits 10 6 (100 * today.year + today.month)
        = fixedDigits 10 4 ((100 * today.year + today.month) / 10 / 10) ++
            [(100 * today.year + today.month) / 10 % 10] ++
              [(100 * today.year + today.month) % 10] := rfl
      _ = fixedDigits 10 4 today.year ++ fixedDigits 10 2 today.month := by
          rw [hhigh, htens, hones, List.append_assoc]
          rfl
  unfold YearMonth.text dateTimeFormat_yyyymm
  have hmonths := padded_toDigits (k := 2) (show 1 < 10 by decide) (by decide)
    (show today.month < 10 ^ 2 by omega)
  have hyears := toDigits_eq_fixedDigits (k := 4) (by decide) hyear hyears
  rw [String.toList_ofList, hyears, hmonths, hsplit, List.map_append]

/-- The string comparison compares the months. -/
theorem toString_le_text_iff (today : YearMonth) {n : ℕ} (hle : 10 ^ 5 ≤ n) (hlt : n < 10 ^ 6) :
    toString (n : ℤ) ≤ today.text ↔ n ≤ 100 * today.year + today.month := by
  obtain ⟨hyear, hyears⟩ := today.four_digits
  obtain ⟨-, hmonth⟩ := today.month_mem
  have htext : (toString (n : ℤ)).toList = (fixedDigits 10 6 n).map Nat.digitChar := by
    rw [toList_toString, decide_eq_false (by omega), if_neg Bool.false_ne_true, Int.natAbs_natCast]
    exact toDigits_eq_fixedDigits (by decide) hle hlt
  show ¬ today.text < toString (n : ℤ) ↔ _
  rw [String.lt_iff, htext, toList_text, decimals_lt_iff (by omega) hlt]
  exact Nat.not_lt

theorem decimalPrefix_byte_le (byte : UInt8) : decimalPrefix 0 (nibbles [byte]) ≤ 99 := by
  show decimalPrefix 0 [byte.toNat / 16, byte.toNat % 16] ≤ 99
  unfold decimalPrefix
  split
  · unfold decimalPrefix
    split
    · rw [decimalPrefix]
      omega
    · omega
  · omega

theorem expiryOf_bounds {year2 month expiryMonths : ℕ} (hyear : year2 ≤ 99) (hmonth : month ≤ 99)
    (hmonths : expiryMonths ≤ 99) :
    10 ^ 5 ≤ expiryOf year2 month expiryMonths ∧ expiryOf year2 month expiryMonths < 10 ^ 6 := by
  unfold expiryOf fullYear
  split <;> omega

/-- Decimal date bytes are read as the date they encode. -/
theorem startDate_eq {recvCmd : List UInt8} {year month validity : UInt8} {rest : List UInt8}
    (hdate : recvCmd.drop 19 = year :: month :: validity :: rest) {date : StartDate}
    (hstart : startDate recvCmd = some date) :
    date = ⟨decimalPrefix 0 (nibbles [year]), decimalPrefix 0 (nibbles [month]),
      decimalPrefix 0 (nibbles [validity])⟩ := by
  have hmonths : recvCmd.drop 20 = month :: validity :: rest := by
    rw [← List.tail_drop, hdate, List.tail_cons]
  have hvalidity : recvCmd.drop 21 = validity :: rest := by
    rw [← List.tail_drop, hmonths, List.tail_cons]
  have hread (byte : UInt8) {n : ℕ} (hvalue : bcdValue [byte] = some n) :
      n = decimalPrefix 0 (nibbles [byte]) := by
    rw [bcdValue_eq] at hvalue
    split at hvalue
    · exact (Option.some_inj.mp hvalue).symm
    · exact absurd hvalue.symm (Option.some_ne_none n)
  unfold startDate at hstart
  rw [hdate, hmonths, hvalidity] at hstart
  simp only [List.take_succ_cons, List.take_zero, Option.bind_eq_bind, Option.bind_eq_some_iff,
    Option.pure_def, Option.some_inj] at hstart
  obtain ⟨y, hy, m, hm, v, hv, rfl⟩ := hstart
  rw [hread year hy, hread month hm, hread validity hv]

/-- The month computed is the one in which the card runs out, unless that is a December. -/
theorem expiryOf_eq_iff (date : StartDate) :
    (∃ year month, date.RunsOut year month ∧
        expiryOf date.year date.month date.validity = 100 * year + month) ↔
      ¬ 12 ∣ date.month + date.validity := by
  unfold StartDate.RunsOut expiryOf
  constructor
  · rintro ⟨year, month, ⟨hpos, hle, hsum⟩, hkept⟩ hdvd
    omega
  · intro hdvd
    exact ⟨fullYear date.year + (date.validity + date.month) / 12,
      (date.validity + date.month) % 12, ⟨by omega, by omega, by omega⟩, by omega⟩

theorem length_expireDateStr {recvCmd : List UInt8} (hlong : 22 ≤ recvCmd.length) :
    ¬ (getVectorCharToHexString ((recvCmd.drop 19).take 3)).length < 6 := by
  rw [getVectorCharToHexString_eq, List.length_map, length_nibbles, List.length_take,
    List.length_drop]
  omega

/-- What a `READ_CARD_INFO` response leaves in the card data. -/
theorem cardData_readCardInfo (r : Reader) (yyyymm : String) {recvCmd : List UInt8}
    {year month validity : UInt8} {rest : List UInt8}
    (hdate : recvCmd.drop 19 = year :: month :: validity :: rest) {expiry : ℕ}
    (hexpiry : expiry = expiryOf (decimalPrefix 0 (nibbles [year]))
      (decimalPrefix 0 (nibbles [month])) (decimalPrefix 0 (nibbles [validity]))) :
    (r.readCardInfo yyyymm recvCmd).2.cardData =
      { cardNum := String.ofList (getVectorCharToHexString ((recvCmd.drop 8).take 8))
        expiryYearMonth := expiry
        expired := decide (toString (expiry : ℤ) ≤ yyyymm)
        balance := r.cardData.balance } := by
  have hlong : 22 ≤ recvCmd.length := by
    have hlength := congrArg List.length hdate
    rw [List.length_drop] at hlength
    simp only [List.length_cons] at hlength
    omega
  have htake : (recvCmd.drop 19).take 3 = [year, month, validity] := by rw [hdate]; rfl
  unfold Reader.readCardInfo
  rw [if_neg (Nat.not_lt.mpr hlong)]
  dsimp only
  rw [if_neg (length_expireDateStr hlong), htake, expiryYearMonthOf_eq, ← hexpiry]
  dsimp only
  rw [cardData_enqueueCommandOnIoThread]
  rfl

/-- The three bytes of the date. -/
theorem drop_date {recvCmd : List UInt8} (hlong : 22 ≤ recvCmd.length) :
    ∃ year month validity rest, recvCmd.drop 19 = year :: month :: validity :: rest := by
  match hdrop : recvCmd.drop 19 with
  | year :: month :: validity :: rest => exact ⟨year, month, validity, rest, rfl⟩
  | [] | [_] | [_, _] =>
      have hlength := congrArg List.length hdrop
      rw [List.length_drop] at hlength
      simp only [List.length_cons, List.length_nil] at hlength
      omega

theorem expiryRight_iff (r : Reader) {recvCmd : List UInt8} (hlong : 22 ≤ recvCmd.length)
    (today : YearMonth) :
    ExpiryRight today recvCmd (r.readCardInfo today.text recvCmd).2.cardData ↔
      ExpiryReadable recvCmd := by
  obtain ⟨year2, startMonth, validity, rest, hdate⟩ := drop_date hlong
  rw [cardData_readCardInfo r today.text hdate rfl]
  unfold ExpiryRight ExpiryReadable
  constructor
  · rintro ⟨date, year, month, hstart, hruns, hkept, -⟩
    refine ⟨date, hstart, (expiryOf_eq_iff date).mp ⟨year, month, hruns, ?_⟩⟩
    obtain rfl := startDate_eq hdate hstart
    dsimp only at hkept ⊢
    exact_mod_cast hkept
  · rintro ⟨date, hstart, hdvd⟩
    obtain ⟨year, month, hruns, hkept⟩ := (expiryOf_eq_iff date).mpr hdvd
    obtain ⟨hle, hlt⟩ := expiryOf_bounds (decimalPrefix_byte_le year2)
      (decimalPrefix_byte_le startMonth) (decimalPrefix_byte_le validity)
    refine ⟨date, year, month, hstart, hruns, ?_⟩
    obtain rfl := startDate_eq hdate hstart
    dsimp only at hkept ⊢
    rw [decide_eq_true_iff, toString_le_text_iff today hle hlt, hkept]
    obtain ⟨hpos, hmonth, -⟩ := hruns
    obtain ⟨htoday, hlast⟩ := today.month_mem
    refine ⟨by push_cast; rfl, ?_⟩
    constructor <;> intro h <;> omega

/-! ## Both answers -/

/-- The card number kept is the sixteen hexadecimal digits of the eight bytes. -/
def CardNumRight (recvCmd : List UInt8) (kept : CardData) : Prop :=
  kept.cardNum = String.ofList ((nibbles ((recvCmd.drop 8).take 8)).map Nat.digitChar)

/-- A frame around the payload of a card command that the card has not refused. -/
structure CardAnswer (recvCmd : List UInt8) : Prop where
  msb : recvCmd.getD 2 0 = 0x37
  lsb : recvCmd.getD 3 0 = 0x31
  status : recvCmd.getD 4 0 ≠ 0x4E
  long : 5 ≤ recvCmd.length

theorem handleCommandResponse_cardAnswer (r : Reader) (cmd : CmdId) (yyyymm : String)
    {recvCmd : List UInt8} (hanswer : CardAnswer recvCmd) :
    r.handleCommandResponse cmd yyyymm (stx :: recvCmd ++ [etx]) =
      r.cardCommand cmd yyyymm recvCmd := by
  have hlong : 4 ≤ recvCmd.length := Nat.le_trans (by decide) hanswer.long
  unfold Reader.handleCommandResponse
  rw [recvCmd_frame hlong]
  dsimp only
  unfold Reader.respond
  rw [hanswer.msb, hanswer.lsb]
  rfl

/-- The card number is always right.  The expiry month is right exactly if the date is written in
decimals and the card does not run out in a December, and the balance exactly if its bytes are
readable as decimals in the coding they have. -/
theorem cardData_iff (r : Reader) (today : YearMonth) {recvCmd : List UInt8}
    (hanswer : CardAnswer recvCmd) :
    (22 ≤ recvCmd.length →
      let kept := (r.handleCommandResponse .readCardInfoCmd today.text
        (stx :: recvCmd ++ [etx])).2.cardData
      CardNumRight recvCmd kept ∧ (ExpiryRight today recvCmd kept ↔ ExpiryReadable recvCmd)) ∧
    (11 ≤ recvCmd.length → ∀ coding : Coding,
      BalanceRight coding recvCmd (r.handleCommandResponse .readCardBalanceCmd today.text
          (stx :: recvCmd ++ [etx])).2.cardData ↔
        coding.Readable ((recvCmd.drop 8).take 3)) := by
  have hshort : ¬ recvCmd.length < 5 := Nat.not_lt.mpr hanswer.long
  constructor
  · intro hlong
    dsimp only
    rw [handleCommandResponse_cardAnswer r .readCardInfoCmd today.text hanswer]
    unfold Reader.cardCommand
    rw [if_neg hshort, if_neg hanswer.status]
    dsimp only
    refine ⟨?_, expiryRight_iff r hlong today⟩
    obtain ⟨year2, startMonth, validity, rest, hdate⟩ := drop_date hlong
    rw [CardNumRight, cardData_readCardInfo r today.text hdate rfl, getVectorCharToHexString_eq]
  · intro hlong coding
    rw [handleCommandResponse_cardAnswer r .readCardBalanceCmd today.text hanswer]
    unfold Reader.cardCommand
    rw [if_neg hshort, if_neg hanswer.status]
    exact balanceRight_iff r hlong coding

/-- The payload of a card command with some bytes from index 8 on and a date. -/
def cardPayload (data date : List UInt8) : List UInt8 :=
  [0x00, 0x14, 0x37, 0x31, 0x59, 0x00, 0x00, 0x00] ++ data ++ [0x00, 0x00, 0x00] ++ date

/-- September 2026 -/
def september : YearMonth := ⟨2026, 9, by decide, by decide⟩

/-- A card of June 2020 that is valid for five months. -/
def novemberCard : List UInt8 :=
  cardPayload [0x10, 0x00, 0x12, 0xAB, 0x00, 0x00, 0x00, 0x01] [0x20, 0x06, 0x05]

theorem cardData_november :
    CardAnswer novemberCard ∧ 22 ≤ novemberCard.length ∧ ExpiryReadable novemberCard ∧
      ExpiryRight september novemberCard (Reader.handleCommandResponse {} .readCardInfoCmd
        september.text (stx :: novemberCard ++ [etx])).2.cardData := by
  have hanswer : CardAnswer novemberCard := by constructor <;> decide
  have hreadable : ExpiryReadable novemberCard := ⟨⟨20, 6, 5⟩, by decide, by decide⟩
  refine ⟨hanswer, by decide, hreadable, ?_⟩
  exact (((cardData_iff {} september hanswer).1 (by decide)).2).mpr hreadable

/-- A card of June 2020 that is valid for six months, and a balance with a letter in its text. -/
def decemberCard : List UInt8 :=
  cardPayload [0x00, 0x12, 0xA0, 0x00, 0x00, 0x00, 0x00, 0x01] [0x20, 0x06, 0x06]

/-- The card expires in month zero of 2021, and neither coding has the balance reported. -/
theorem not_cardData_december :
    let info := (Reader.handleCommandResponse {} .readCardInfoCmd september.text
      (stx :: decemberCard ++ [etx])).2.cardData
    let balance := (Reader.handleCommandResponse {} .readCardBalanceCmd september.text
      (stx :: decemberCard ++ [etx])).2.cardData
    info.expiryYearMonth = 202100 ∧ ¬ ExpiryRight september decemberCard info ∧
      balance.balance = 12 ∧ ∀ coding : Coding, ¬ BalanceRight coding decemberCard balance := by
  intro info balance
  have hinfo : info.expiryYearMonth = 202100 := by decide +kernel
  have hbalance : balance.balance = 12 := by decide +kernel
  refine ⟨hinfo, ?_, hbalance, ?_⟩
  · rintro ⟨date, year, month, hstart, ⟨hpos, hle, hsum⟩, hkept, -⟩
    have hdate : startDate decemberCard = some ⟨20, 6, 6⟩ := by decide
    obtain rfl := Option.some_inj.mp (hdate.symm.trans hstart)
    have hyear : fullYear 20 = 2020 := by decide
    dsimp only at hsum
    rw [hyear] at hsum
    rw [hinfo] at hkept
    omega
  · rintro coding ⟨value, hvalue, hkept⟩
    rw [hbalance] at hkept
    cases coding with
    | bcd =>
        have hnone : Coding.bcd.value ((decemberCard.drop 8).take 3) = none := by decide
        rw [hnone] at hvalue
        exact Option.some_ne_none value hvalue.symm
    | binary =>
        have hbinary : Coding.binary.value ((decemberCard.drop 8).take 3) = some 4768 := by decide
        rw [hbinary, Option.some_inj] at hvalue
        omega

end LinuxPBS.Ksm
