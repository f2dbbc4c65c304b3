import LinuxPBS.Operation.Swap
import LinuxPBS.Library.Binary32

/-!
# The cents of a fee

Fees are kept as `float`s rounded to whole cents, and the devices are asked for whole
cents.  Each way multiplies by 100 and cuts off: `EEPDebit` into `ideductAmt`, `CHUDebit`
into `lAmt` and `debitfromReader` into `glDebitAmt`.

Whether the last cent survives depends on the `float` next to the amount.  An amount that
was rounded down by `r` hundredths of its unit takes `r` units off the product, and rounding
the product puts some of them back: 64 in the lower part of a binade and 32 in the upper
part, which for `k` the binary logarithm of the cents begins at 25/16 · 2^k.  So only there
is a cent lost, and 1.05 is the first amount that loses one.
-/

namespace LinuxPBS.Operation

open CxxText Common Handler

/-! ## Amounts as they are kept -/

/-- The `float` next to a number of cents. -/
def stored (cents : ℕ) : ℚ := toFloat ((cents : ℚ) / 100)

/-- `GfeeFormat`, with its product and its quotient rounded. -/
def gfeeFormatFloat (value : ℚ) : ℚ := toFloat ((roundHalfAway (toFloat (value * 100)) : ℚ) / 100)

/-- Every amount that `GfeeFormat` has rounded is the `float` next to its cents. -/
theorem gfeeFormatFloat_eq {value : ℚ} {cents : ℕ}
    (hcents : roundHalfAway (toFloat (value * 100)) = cents) :
    gfeeFormatFloat value = stored cents := by
  unfold gfeeFormatFloat stored
  rw [hcents, Int.cast_natCast]

theorem toFloat_zero : toFloat 0 = 0 := by decide +kernel

theorem stored_zero : stored 0 = 0 := by decide +kernel

/-- The error of an amount is at most half a unit of the largest binade. -/
theorem abs_stored_sub_le {cents : ℕ} (hlt : cents < 6553600) :
    |(cents : ℚ) / 100 - stored cents| ≤ 2 ^ (-9 : ℤ) := by
  rcases cents.eq_zero_or_pos with hzero | hpos
  · rw [hzero, stored_zero]
    norm_num
  · have hlt' : (cents : ℚ) < 6553600 := by exact_mod_cast hlt
    have hpos' : (0 : ℚ) < cents := by exact_mod_cast hpos
    exact abs_sub_toFloat_le (e := 16) (by positivity) (by norm_num; linarith)

/-! ## Cutting off -/

theorem toLong_of_nonneg {value : ℚ} (hvalue : 0 ≤ value) : toLong value = ⌊value⌋ := by
  unfold toLong
  rw [Int.tdiv_eq_ediv_of_nonneg (Rat.num_nonneg.mpr hvalue), Rat.floor_def']

theorem toLong_nonpos {value : ℚ} (hvalue : value < 0) : toLong value ≤ 0 := by
  unfold toLong
  have hnum : value.num < 0 := Rat.num_neg.mpr hvalue
  rw [← Int.neg_neg value.num, Int.neg_tdiv, Int.neg_nonpos_iff]
  exact Int.tdiv_nonneg (by omega) (Int.natCast_nonneg _)

theorem toLong_eq_iff {value : ℚ} {n : ℕ} (hn : 0 < n) :
    toLong value = n ↔ (n : ℚ) ≤ value ∧ value < n + 1 := by
  rcases le_or_gt 0 value with hnonneg | hneg
  · rw [toLong_of_nonneg hnonneg, Int.floor_eq_iff, Int.cast_natCast]
  · have hpos : (0 : ℚ) < n := by exact_mod_cast hn
    have hlong := toLong_nonpos hneg
    constructor
    · intro heq
      omega
    · intro hrange
      linarith [hrange.1]

/-- A product is cut off to the cents it is next to if it is close enough. -/
theorem toLong_toFloat_eq_iff {value : ℚ} {cents : ℕ} (hpos : 0 < cents) (hlt : cents < 2 ^ 23)
    (hnear : |value - cents| < 5 / 8) :
    toLong (toFloat value) = cents ↔ cents - slack cents ≤ value := by
  have hone : (1 : ℚ) ≤ cents := by exact_mod_cast hpos
  have hvalue : 0 < value := by linarith [(abs_lt.mp hnear).1]
  have hbelow := toFloat_lt_add_one hvalue hlt (abs_lt.mp hnear).2
  rw [toLong_eq_iff hpos, ← le_toFloat_iff hpos hlt hnear]
  exact and_iff_left hbelow

/-! ## A single amount -/

/-- An amount that is asked for with a cent less. -/
def LosesCent (cents : ℕ) : Prop :=
  25 * 2 ^ Nat.log 2 cents ≤ 16 * cents ∧
    32 < cents * 2 ^ (29 - Nat.log 2 cents) % 100 ∧
    cents * 2 ^ (29 - Nat.log 2 cents) % 100 < 50

instance : DecidablePred LosesCent := fun cents => by unfold LosesCent; infer_instance

section Single

variable {cents : ℕ}

/-- The `float` of an amount, in hundredths of a unit: the remainder decides. -/
theorem stored_eq {d : ℕ} (hpos : 0 < cents)
    (hlow : (2 : ℚ) ^ (23 - d : ℤ) ≤ (cents : ℚ) / 100)
    (hhigh : (cents : ℚ) / 100 < 2 ^ (23 - d + 1 : ℤ)) (hd : 2 ≤ d) :
    stored cents * 100 = cents +
      (if cents * 2 ^ d % 100 < 50 then -((cents * 2 ^ d % 100 : ℕ) : ℚ)
        else 100 - (cents * 2 ^ d % 100 : ℕ)) / 2 ^ d := by
  have hunit : (2 : ℚ) ^ (23 - d - 23 : ℤ) = (2 ^ d)⁻¹ := by
    rw [← zpow_natCast, ← zpow_neg]
    congr 1
    ring
  obtain ⟨quotient, hquotient⟩ : ∃ q, cents * 2 ^ d / 100 = q := ⟨_, rfl⟩
  obtain ⟨remainder, hremainder⟩ : ∃ r, cents * 2 ^ d % 100 = r := ⟨_, rfl⟩
  have hdiv : cents * 2 ^ d = 100 * quotient + remainder := by
    rw [← hquotient, ← hremainder, Nat.div_add_mod]
  have hfour : 4 ∣ cents * 2 ^ d := dvd_mul_of_dvd_right (pow_dvd_pow 2 hd) _
  have hround : roundHalfEven ((100 * quotient + remainder : ℕ) / 100 : ℚ) =
      if remainder < 50 then (quotient : ℤ) else quotient + 1 :=
    roundHalfEven_hundredths (by omega) (by omega)
  have hscaled : (cents : ℚ) / 100 / (2 ^ d)⁻¹ = (100 * quotient + remainder : ℕ) / 100 := by
    rw [← hdiv]
    push_cast
    field_simp
  unfold stored
  rw [toFloat_of_binade hlow hhigh, hunit, hscaled, hround, hremainder]
  have hcents : (cents : ℚ) = (100 * quotient + remainder) / 2 ^ d := by
    rw [eq_div_iff (by positivity)]
    exact_mod_cast hdiv
  rw [hcents]
  split_ifs <;> push_cast <;> field_simp <;> ring

/-- The error of an amount against the slack of its product, both in hundredths of a unit. -/
theorem slack_le_iff {d steps : ℕ} (hpos : 0 < cents)
    (hlow : (2 : ℚ) ^ (23 - d : ℤ) ≤ (cents : ℚ) / 100)
    (hhigh : (cents : ℚ) / 100 < 2 ^ (23 - d + 1 : ℤ)) (hd : 2 ≤ d)
    (hslack : slack cents = steps / 2 ^ d) :
    cents - slack cents ≤ stored cents * 100 ↔
      ¬(steps < cents * 2 ^ d % 100 ∧ cents * 2 ^ d % 100 < 50) := by
  have hunit : (0 : ℚ) < 2 ^ d := by positivity
  have hlt : ((cents * 2 ^ d % 100 : ℕ) : ℚ) < 100 := by
    exact_mod_cast Nat.mod_lt (cents * 2 ^ d) (by norm_num)
  rw [stored_eq hpos hlow hhigh hd, hslack, sub_eq_add_neg, add_le_add_iff_left, ← neg_div,
    div_le_div_iff_of_pos_right hunit]
  split_ifs with hless
  · rw [neg_le_neg_iff, Nat.cast_le]
    omega
  · have hsteps : (0 : ℚ) ≤ steps := by positivity
    constructor
    · intro _ hboth
      exact hless hboth.2
    · intro _
      linarith

/-- In the upper part of a binade half the distance to the next smaller integer `float` is
32 hundredths. -/
theorem slack_of_upper (hupper : 25 * 2 ^ Nat.log 2 cents ≤ 16 * cents) {d : ℕ}
    (hd : d + Nat.log 2 cents = 29) : slack cents = (32 : ℕ) / 2 ^ d := by
  have hpower : cents ≠ 2 ^ Nat.log 2 cents := by
    have : 0 < 2 ^ Nat.log 2 cents := by positivity
    omega
  unfold slack
  rw [if_neg hpower, show (Nat.log 2 cents : ℤ) - 24 = 5 - d by omega,
    zpow_sub₀ (by norm_num), zpow_natCast]
  norm_num

/-- In the lower part it is 64, or 32 below the power of two itself. -/
theorem slack_of_lower {d : ℕ} (hd : d + Nat.log 2 cents = 30) :
    slack cents = (if cents = 2 ^ Nat.log 2 cents then 32 else 64 : ℕ) / 2 ^ d := by
  unfold slack
  split_ifs with hpower
  · rw [show (Nat.log 2 cents : ℤ) - 25 = 5 - d by omega, zpow_sub₀ (by norm_num), zpow_natCast]
    norm_num
  · rw [show (Nat.log 2 cents : ℤ) - 24 = 6 - d by omega, zpow_sub₀ (by norm_num), zpow_natCast]
    norm_num

variable (hpos : 0 < cents) (hlt : cents < 6553600)

include hpos

theorem log_bounds : 2 ^ Nat.log 2 cents ≤ cents ∧ cents < 2 ^ (Nat.log 2 cents + 1) :=
  ⟨Nat.pow_log_le_self 2 hpos.ne', Nat.lt_pow_succ_log_self (by norm_num) cents⟩

include hlt

theorem log_le : Nat.log 2 cents ≤ 22 := by
  have : Nat.log 2 cents < 23 := Nat.log_lt_of_lt_pow hpos.ne' (by omega)
  omega

/-- The condition on a single amount. -/
theorem slack_le_stored_iff : cents - slack cents ≤ stored cents * 100 ↔ ¬LosesCent cents := by
  obtain ⟨hlow, hhigh⟩ := log_bounds hpos
  have hlog := log_le hpos hlt
  have hlow' : (2 : ℚ) ^ Nat.log 2 cents ≤ cents := by exact_mod_cast hlow
  have hhigh' : (cents : ℚ) < 2 ^ Nat.log 2 cents * 2 := by
    rw [← pow_succ]
    exact_mod_cast hhigh
  unfold LosesCent
  by_cases hupper : 25 * 2 ^ Nat.log 2 cents ≤ 16 * cents
  · obtain ⟨d, hd⟩ : ∃ d, d + Nat.log 2 cents = 29 := ⟨29 - Nat.log 2 cents, by omega⟩
    have hupper' : 25 * (2 : ℚ) ^ Nat.log 2 cents ≤ 16 * cents := by exact_mod_cast hupper
    rw [slack_le_iff hpos _ _ (by omega) (slack_of_upper hupper hd),
      show 29 - Nat.log 2 cents = d by omega, and_iff_right hupper]
    · rw [show (23 - d : ℤ) = Nat.log 2 cents - 6 by omega, zpow_sub₀ (by norm_num), zpow_natCast]
      norm_num
      linarith
    · rw [show (23 - d + 1 : ℤ) = Nat.log 2 cents - 5 by omega, zpow_sub₀ (by norm_num),
        zpow_natCast]
      norm_num
      linarith
  · obtain ⟨d, hd⟩ : ∃ d, d + Nat.log 2 cents = 30 := ⟨30 - Nat.log 2 cents, by omega⟩
    have hlower : 16 * (cents : ℚ) < 25 * 2 ^ Nat.log 2 cents := by
      exact_mod_cast not_le.mp hupper
    have hkept : ¬(25 * 2 ^ Nat.log 2 cents ≤ 16 * cents ∧
        32 < cents * 2 ^ (29 - Nat.log 2 cents) % 100 ∧
        cents * 2 ^ (29 - Nat.log 2 cents) % 100 < 50) := fun h => hupper h.1
    rw [slack_le_iff hpos _ _ (by omega) (slack_of_lower hd), iff_true_intro hkept,
      iff_true]
    · split_ifs with hpower
      · -- a power of two leaves the remainder 24
        have hvalue : cents * 2 ^ d = 2 ^ 30 := by
          nth_rewrite 1 [hpower]
          rw [← pow_add, add_comm, hd]
        rw [hvalue]
        decide
      · omega
    · rw [show (23 - d : ℤ) = Nat.log 2 cents - 7 by omega, zpow_sub₀ (by norm_num), zpow_natCast]
      norm_num
      linarith
    · rw [show (23 - d + 1 : ℤ) = Nat.log 2 cents - 6 by omega, zpow_sub₀ (by norm_num),
        zpow_natCast]
      norm_num
      linarith

/-- A single amount is handed on in full unless it loses a cent. -/
theorem toLong_stored_eq_iff :
    toLong (toFloat (stored cents * 100)) = cents ↔ ¬LosesCent cents := by
  have herror := abs_le.mp (abs_stored_sub_le hlt)
  norm_num at herror
  have hnear : |stored cents * 100 - cents| < 5 / 8 := by
    rw [abs_lt]
    constructor <;> linarith
  rw [toLong_toFloat_eq_iff hpos (by omega) hnear, slack_le_stored_iff hpos hlt]

theorem stored_ne_zero : stored cents ≠ 0 := by
  have hone : (1 : ℚ) ≤ cents := by exact_mod_cast hpos
  have herror := abs_le.mp (abs_stored_sub_le hlt)
  norm_num at herror
  linarith

end Single

/-! ## A redemption -/

/-- A fee less a redemption, subtracted in binary32. -/
theorem toLong_difference_eq_iff {cents redeemed : ℕ} (hpos : 0 < cents)
    (hlt : cents + redeemed < 6553600) :
    toLong (toFloat (toFloat (stored (cents + redeemed) - stored redeemed) * 100)) = cents ↔
      cents - slack cents ≤ toFloat (stored (cents + redeemed) - stored redeemed) * 100 := by
  have hone : (1 : ℚ) ≤ cents := by exact_mod_cast hpos
  have hsum : ((cents + redeemed : ℕ) : ℚ) ≤ 6553599 := by exact_mod_cast (by omega)
  have hredeemed : (0 : ℚ) ≤ redeemed := by positivity
  have hfee := abs_le.mp (abs_stored_sub_le hlt)
  have hredemption := abs_le.mp (abs_stored_sub_le (show redeemed < 6553600 by omega))
  push_cast at hfee hsum
  norm_num at hfee hredemption
  have hpositive : 0 < stored (cents + redeemed) - stored redeemed := by linarith
  have hdifference :=
    abs_le.mp (abs_sub_toFloat_le (e := 16) hpositive (by norm_num; linarith))
  norm_num at hdifference
  apply toLong_toFloat_eq_iff hpos (by omega)
  rw [abs_lt]
  constructor <;> linarith


/-! ## What the three ways hand on -/

section Requests

variable {s : Station} (hidle : s.tExit.giDeductionStatus ≠ .Doingdeduction)

include hidle

theorem requests_debitfromReader (cardNo : String) (sFee : ℚ) (iDevicetype : DeviceType)
    (sCardType : ℤ) (sCardBal : ℚ) :
    requests (after (debitfromReader cardNo sFee iDevicetype sCardType sCardBal) s) =
      (if iDevicetype = .UPOS then .UPOS else .LCSC, cardNo, toString (glDebitAmt sFee)) ::
        requests s := by
  unfold debitfromReader
  rw [after_get_bind, if_neg hidle]
  split_ifs <;> rfl

theorem requests_chuDebit (obu sCardNo : String) (lFee sCardBal : ℚ)
    (hloop : s.env.gbLoopApresent s.asked = true)
    (hamount : lAmt lFee s.tExit.sFee s.tExit.sRedeemAmt ≠ 0) :
    requests (after (chuDebit obu lFee sCardNo sCardBal) s) =
      (.CHU, sCardNo, toString s.gtStation.iAntID ++ "," ++ obu ++ "," ++
        toString (lAmt lFee s.tExit.sFee s.tExit.sRedeemAmt)) :: requests s := by
  unfold chuDebit
  rw [after_get_bind, if_neg hidle]
  dsimp only
  rw [if_neg hamount, after_modify_bind]
  unfold sendMsg2CHU
  rw [after_ask_bind, hloop]
  rfl

theorem requests_eepDebit {enableCashcard : Bool → Op Unit} {t : Station} (obu : String)
    (lFee : ℚ) (entryTime exitTime : String) (hloop : s.env.gbLoopApresent s.asked = true)
    (hdisable : enableCashcard false { s with asked := s.asked + 1 } = .ok () t) :
    ∃ entry, requests (after (eepDebit enableCashcard obu lFee entryTime exitTime) s) =
      (.EEP, t.tExit.sCardNo, obu ++ "," ++ toString (ideductAmt lFee) ++ "," ++ entry ++ "," ++
        exitTime) :: requests t := by
  unfold eepDebit
  rw [after_ask_bind, hloop, if_neg (by decide), after_get_bind, if_neg hidle]
  unfold after
  rw [bind_of_ok hdisable]
  by_cases hentry : entryTime = ""
  · simp only [hentry, if_true]
    exact ⟨_, rfl⟩
  · simp only [hentry, if_false]
    exact ⟨_, rfl⟩

end Requests

theorem toString_inj {first second : ℤ} : toString first = toString second ↔ first = second := by
  constructor
  · intro heq
    have hread := readInteger_toString first
    rw [heq, readInteger_toString] at hread
    exact (Option.some.inj hread).symm
  · rintro rfl
    rfl

/-- The cents that each way hands on are the cents of the fee exactly when none is lost: one
is lost by the amounts that `LosesCent` describes, and by a fee less a redemption whose
difference, as a `float`, lies more than the slack below. -/
theorem cents_handed_on_iff {cents : ℕ} (hlt : cents < 6553600) :
    (toString (ideductAmt (stored cents)) = toString (cents : ℤ) ↔ ¬LosesCent cents) ∧
      (glDebitAmt (stored cents) = cents ↔ ¬LosesCent cents) ∧
      (0 < cents → ∀ sFee sRedeemAmt,
        lAmt (stored cents) sFee sRedeemAmt = cents ↔ ¬LosesCent cents) ∧
      ∀ redeemed, cents + redeemed < 6553600 →
        (lAmt 0 (stored (cents + redeemed)) (stored redeemed) = cents ↔
          cents - slack cents ≤ toFloat (stored (cents + redeemed) - stored redeemed) * 100) := by
  have hsingle : toLong (toFloat (stored cents * 100)) = cents ↔ ¬LosesCent cents := by
    rcases cents.eq_zero_or_pos with rfl | hpos
    · decide +kernel
    · exact toLong_stored_eq_iff hpos hlt
  refine ⟨?_, hsingle, fun hpos sFee sRedeemAmt => ?_, fun redeemed hsum => ?_⟩
  · rw [toString_inj]
    exact hsingle
  · unfold lAmt
    rw [if_neg (stored_ne_zero hpos hlt)]
    exact hsingle
  · unfold lAmt
    rw [if_pos rfl]
    rcases cents.eq_zero_or_pos with rfl | hpos
    · have hslack := slack_pos 0
      rw [zero_add, sub_self, toFloat_zero, zero_mul, toFloat_zero]
      simp [toLong, hslack.le]
    · exact toLong_difference_eq_iff hpos hsum

/-- The theorem for 2.50, where the cents survive, and for 1.05 less nothing redeemed. -/
theorem cents_handed_on_iff_cases :
    toString (ideductAmt (stored 250)) = toString (250 : ℤ) ∧
      lAmt 0 (stored (350 + 100)) (stored 100) = 350 ∧
      ¬lAmt 0 (stored (105 + 0)) (stored 0) = 105 :=
  ⟨((cents_handed_on_iff (by decide : 250 < 6553600)).1).mpr (by decide +kernel),
    ((cents_handed_on_iff (by decide : 350 < 6553600)).2.2.2 100 (by decide)).mpr
      (by decide +kernel),
    fun h => absurd (((cents_handed_on_iff (by decide : 105 < 6553600)).2.2.2 0 (by decide)).mp h)
      (by decide +kernel)⟩

/-- A fee of 1.05 is asked for as 104 cents. -/
theorem not_cents_handed_on :
    ¬∀ cents : ℕ, cents < 6553600 →
      toString (ideductAmt (stored cents)) = toString (cents : ℤ) ∧
        glDebitAmt (stored cents) = cents ∧
        (0 < cents → ∀ sFee sRedeemAmt, lAmt (stored cents) sFee sRedeemAmt = cents) ∧
        ∀ redeemed, cents + redeemed < 6553600 →
          lAmt 0 (stored (cents + redeemed)) (stored redeemed) = cents := by
  intro h
  exact absurd (h 105 (by decide)).2.1 (by decide +kernel)

end LinuxPBS.Operation
