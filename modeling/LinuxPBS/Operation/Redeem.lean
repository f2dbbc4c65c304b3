import Mathlib
import LinuxPBS.Operation.Fee
import LinuxPBS.Tariff.TariffTypes

/-!
# What redeemed time is worth

`RedeemTime2Amt` turns redeemed minutes into an amount, for a stay with an entry
record, by one of three rules:

```text
the whole stay is redeemed           the whole fee
otherwise                            the fee of the redeemed part
…which equals the whole fee          less the fee of the rest, if that costs anything
```

The third rule is meant for a redeemed part that ends in the block, or in the
per-entry zone, that the stay ends in.  It applies as well when the fee has reached a
maximum early, and then it takes back what a shorter time would have been worth: under
a day maximum, three redeemed hours can be worth nothing where two are worth two
thirds of the fee.  `redeem_antitone_iff` says for which fees this does not happen.
-/

namespace LinuxPBS.Operation

open Handler Common

/-! ## The function -/

/-- The time up to which the fee is due. -/
def payTime (s : Station) : String :=
  if s.tExit.sExitTime = "" then s.env.now s.asked else s.tExit.sExitTime

/-- The minutes of the stay. -/
def stayMinutes (s : Station) : ℤ :=
  if s.tExit.lParkedTime = 0 then parkedMinutes s.env s.tExit.sEntryTime (payTime s)
  else s.tExit.lParkedTime

/-- The end of the redeemed part. -/
def redeemedUntil (s : Station) (minutes : ℤ) : String :=
  s.env.dateTimeString (s.env.unixTimestamp s.tExit.sEntryTime + minutes * 60)

/-- The station when `minutes` have been redeemed for a vehicle with an entry record, at a site
with the tariff `fee`. -/
def withRedemption (fee : String → String → ℤ → ℚ) (s : Station) (minutes : ℤ) : Station :=
  { s with
    env.calFeeRAM2G := fun _ => fee
    tExit.iRedeemTime := minutes
    tExit.sRedeemAmt := 0
    tExit.bNoEntryRecord := 0 }

/-- `sFee - sRedeemAmt` behind `RedeemTime2Amt`. -/
def payable (fee : String → String → ℤ → ℚ) (s : Station) (minutes : ℤ) : ℚ :=
  let redeemed := after redeemTime2Amt (withRedemption fee s minutes)
  redeemed.tExit.sFee - redeemed.tExit.sRedeemAmt

section Worth

variable (fee : String → String → ℤ → ℚ) (s : Station)

/-- The fee of the redeemed part. -/
def partFee (minutes : ℤ) : ℚ :=
  fee s.tExit.sEntryTime (redeemedUntil s minutes) s.tExit.iVehicleType

/-- The fee of the rest of the stay, as a stay of its own. -/
def restFee (minutes : ℤ) : ℚ :=
  fee (redeemedUntil s minutes) (payTime s) s.tExit.iVehicleType

/-- The redeemed part costs as much as the whole stay, and the rest costs something. -/
def Corrected (minutes : ℤ) : Prop :=
  gfeeFormat (s.tExit.sFee - partFee fee s minutes) = 0 ∧ 0 < restFee fee s minutes

instance (minutes : ℤ) : Decidable (Corrected fee s minutes) :=
  inferInstanceAs (Decidable (_ ∧ _))

/-- What the correction leaves of the redeemed amount. -/
def leftAmt (minutes : ℤ) : ℚ :=
  max 0 (gfeeFormat (partFee fee s minutes - restFee fee s minutes))

/-- The amount that is redeemed. -/
def worth (minutes : ℤ) : ℚ :=
  if minutes ≥ stayMinutes s then s.tExit.sFee
  else if Corrected fee s minutes then leftAmt fee s minutes
  else partFee fee s minutes

end Worth

/-! ## One call -/

/-- The fee calculation looks for no ticket while time is being redeemed. -/
theorem calFeeRAM_ok {s : Station} (hredeem : s.tExit.iRedeemTime ≠ 0) (eTime until_ : String)
    (iTransType : ℤ) :
    calFeeRAM eTime until_ iTransType s =
      .ok (s.env.calFeeRAM2G s.asked eTime until_ iTransType)
        { s with asked := s.asked + 1 } := by
  rw [calFeeRAM, ask_bind, get_bind, if_neg fun h => hredeem h.2.2]
  rfl

section OneCall

variable {fee : String → String → ℤ → ℚ} {s : Station}

/-- Where the redeemed part costs as much as the whole stay, the fee of the rest is taken off. -/
theorem after_sameBlock (hfee : ∀ n, s.env.calFeeRAM2G n = fee) (hredeem : s.tExit.iRedeemTime ≠ 0)
    (redeemed until_ : String) :
    (after (sameBlock redeemed until_) s).tExit.sFee = s.tExit.sFee ∧
      (after (sameBlock redeemed until_) s).tExit.sRedeemAmt =
        if gfeeFormat (s.tExit.sFee - s.tExit.sRedeemAmt) = 0 ∧
            0 < fee redeemed until_ s.tExit.iVehicleType then
          max 0 (gfeeFormat (s.tExit.sRedeemAmt - fee redeemed until_ s.tExit.iVehicleType))
        else s.tExit.sRedeemAmt := by
  unfold sameBlock
  rw [after_get_bind]
  by_cases hsame : gfeeFormat (s.tExit.sFee - s.tExit.sRedeemAmt) = 0
  · rw [if_pos hsame, after_bind_of_ok (calFeeRAM_ok hredeem _ _ _), hfee]
    by_cases hrest : 0 < fee redeemed until_ s.tExit.iVehicleType
    · rw [if_pos hrest, if_pos ⟨hsame, hrest⟩]
      exact ⟨rfl, rfl⟩
    · rw [if_neg hrest, if_neg (fun h => hrest h.2)]
      exact ⟨rfl, rfl⟩
  · rw [if_neg hsame, if_neg (fun h => hsame h.1)]
    exact ⟨rfl, rfl⟩

/-- The part of `RedeemTime2Amt` for a redeemed part that ends before the stay. -/
theorem after_redeemPart (hfee : ∀ n, s.env.calFeeRAM2G n = fee) (hredeem : s.tExit.iRedeemTime ≠ 0)
    (from_ redeemed until_ : String) (iVehicleType : ℤ) (htype : s.tExit.iVehicleType = iVehicleType)
    (sFee : ℚ) (hsFee : s.tExit.sFee = sFee) :
    let amount := fee from_ redeemed iVehicleType
    let rest := fee redeemed until_ iVehicleType
    let left := after (do
      let fee ← calFeeRAM from_ redeemed iVehicleType
      modify fun s => { s with tExit.sRedeemAmt := fee }
      sameBlock redeemed until_) s
    left.tExit.sFee = sFee ∧
      left.tExit.sRedeemAmt =
        if gfeeFormat (sFee - amount) = 0 ∧ 0 < rest then max 0 (gfeeFormat (amount - rest))
        else amount := by
  subst htype hsFee
  intro amount rest left
  have hleft : left = after (sameBlock redeemed until_)
      { s with asked := s.asked + 1, tExit.sRedeemAmt := amount } := by
    show after _ s = _
    rw [after_bind_of_ok (calFeeRAM_ok hredeem _ _ _), hfee, after_modify_bind]
  obtain ⟨hkept, hamount⟩ := after_sameBlock
    (s := { s with asked := s.asked + 1, tExit.sRedeemAmt := amount }) hfee hredeem redeemed until_
  rw [hleft]
  exact ⟨hkept, hamount⟩

/-- `RedeemTime2Amt` redeems what the time is worth. -/
theorem after_redeemTime2Amt (hfee : ∀ n, s.env.calFeeRAM2G n = fee)
    (hredeem : 0 < s.tExit.iRedeemTime) (hamount : s.tExit.sRedeemAmt = 0)
    (hentry : s.tExit.bNoEntryRecord = 0) :
    (after redeemTime2Amt s).tExit.sFee = s.tExit.sFee ∧
      (after redeemTime2Amt s).tExit.sRedeemAmt = worth fee s s.tExit.iRedeemTime := by
  have hne : s.tExit.iRedeemTime ≠ 0 := hredeem.ne'
  unfold redeemTime2Amt worth Corrected leftAmt partFee restFee stayMinutes payTime redeemedUntil
  simp only [after_get_bind, hamount, gt_iff_lt, lt_irrefl, if_false, hredeem, if_true, hentry,
    ne_eq, not_true_eq_false]
  by_cases hexit : s.tExit.sExitTime = ""
  · simp only [if_pos hexit]
    rw [after_ask_bind]
    by_cases hparked : s.tExit.lParkedTime = 0
    · simp only [if_pos hparked, after_modify_bind, after_get_bind]
      split
      · exact ⟨rfl, rfl⟩
      · refine after_redeemPart ?_ ?_ _ _ _ _ ?_ _ ?_
        · exact hfee
        · exact hne
        · rfl
        · rfl
    · simp only [if_neg hparked, after_get_bind]
      split
      · exact ⟨rfl, rfl⟩
      · refine after_redeemPart ?_ ?_ _ _ _ _ ?_ _ ?_
        · exact hfee
        · exact hne
        · rfl
        · rfl
  · simp only [if_neg hexit]
    rw [after_pure_bind]
    by_cases hparked : s.tExit.lParkedTime = 0
    · simp only [if_pos hparked, after_modify_bind, after_get_bind]
      split
      · exact ⟨rfl, rfl⟩
      · refine after_redeemPart ?_ ?_ _ _ _ _ ?_ _ ?_
        · exact hfee
        · exact hne
        · rfl
        · rfl
    · simp only [if_neg hparked, after_get_bind]
      split
      · exact ⟨rfl, rfl⟩
      · refine after_redeemPart ?_ ?_ _ _ _ _ ?_ _ ?_
        · exact hfee
        · exact hne
        · rfl
        · rfl

end OneCall

/-- What is left to pay is the fee less what the time is worth. -/
theorem payable_eq (fee : String → String → ℤ → ℚ) (s : Station) {minutes : ℤ}
    (hminutes : 0 < minutes) : payable fee s minutes = s.tExit.sFee - worth fee s minutes := by
  obtain ⟨hfee, hamount⟩ := after_redeemTime2Amt (s := withRedemption fee s minutes)
    (fun _ => rfl) hminutes rfl rfl
  unfold payable
  simp only [hfee, hamount]
  rfl

/-! ## When more time is worth more -/

/-- The fees of the parts of a stay go together with the correction.  Where nothing is
corrected, a redeemed part costs between nothing and the whole fee, and a longer part not less
than a shorter one.  Where the part costs as much as the whole stay, the rest is so cheap that
what the correction leaves is still worth what any shorter time is, and not more than any longer
time. -/
structure PartsAgree (fee : String → String → ℤ → ℚ) (s : Station) : Prop where
  whole : 0 ≤ s.tExit.sFee
  part_bounds : ∀ minutes, 0 < minutes → minutes < stayMinutes s → ¬Corrected fee s minutes →
    0 ≤ partFee fee s minutes ∧ partFee fee s minutes ≤ s.tExit.sFee
  part_mono : ∀ shorter longer, 0 < shorter → shorter ≤ longer → longer < stayMinutes s →
    ¬Corrected fee s shorter → ¬Corrected fee s longer →
    partFee fee s shorter ≤ partFee fee s longer
  rest_bound : ∀ minutes, 0 < minutes → minutes < stayMinutes s → Corrected fee s minutes →
    gfeeFormat (partFee fee s minutes - restFee fee s minutes) ≤ s.tExit.sFee
  rest_cheap : ∀ shorter longer, 0 < shorter → shorter ≤ longer → longer < stayMinutes s →
    ¬Corrected fee s shorter → Corrected fee s longer →
    partFee fee s shorter ≤ leftAmt fee s longer
  rest_dear : ∀ shorter longer, 0 < shorter → shorter ≤ longer → longer < stayMinutes s →
    Corrected fee s shorter → ¬Corrected fee s longer →
    leftAmt fee s shorter ≤ partFee fee s longer
  rest_mono : ∀ shorter longer, 0 < shorter → shorter ≤ longer → longer < stayMinutes s →
    Corrected fee s shorter → Corrected fee s longer →
    leftAmt fee s shorter ≤ leftAmt fee s longer

section PartsAgree

variable {fee : String → String → ℤ → ℚ} {s : Station}

theorem leftAmt_nonneg (minutes : ℤ) : 0 ≤ leftAmt fee s minutes := le_max_left _ _

theorem worth_of_whole {minutes : ℤ} (hall : minutes ≥ stayMinutes s) :
    worth fee s minutes = s.tExit.sFee := if_pos hall

theorem worth_of_corrected {minutes : ℤ} (hpart : minutes < stayMinutes s)
    (hcorrected : Corrected fee s minutes) : worth fee s minutes = leftAmt fee s minutes := by
  rw [worth, if_neg (not_le.mpr hpart), if_pos hcorrected]

theorem worth_of_not_corrected {minutes : ℤ} (hpart : minutes < stayMinutes s)
    (hplain : ¬Corrected fee s minutes) : worth fee s minutes = partFee fee s minutes := by
  rw [worth, if_neg (not_le.mpr hpart), if_neg hplain]

theorem PartsAgree.worth_bounds (hagree : PartsAgree fee s) {minutes : ℤ} (hminutes : 0 < minutes) :
    0 ≤ worth fee s minutes ∧ worth fee s minutes ≤ s.tExit.sFee := by
  rcases lt_or_ge minutes (stayMinutes s) with hpart | hall
  · by_cases hcorrected : Corrected fee s minutes
    · rw [worth_of_corrected hpart hcorrected]
      exact ⟨leftAmt_nonneg _, max_le hagree.whole (hagree.rest_bound _ hminutes hpart hcorrected)⟩
    · rw [worth_of_not_corrected hpart hcorrected]
      exact hagree.part_bounds _ hminutes hpart hcorrected
  · rw [worth_of_whole hall]
    exact ⟨hagree.whole, le_rfl⟩

theorem PartsAgree.worth_mono (hagree : PartsAgree fee s) {shorter longer : ℤ}
    (hshorter : 0 < shorter) (hle : shorter ≤ longer) :
    worth fee s shorter ≤ worth fee s longer := by
  rcases lt_or_ge longer (stayMinutes s) with hpart | hall
  · have hpart' : shorter < stayMinutes s := hle.trans_lt hpart
    by_cases hfirst : Corrected fee s shorter
    · rw [worth_of_corrected hpart' hfirst]
      by_cases hsecond : Corrected fee s longer
      · rw [worth_of_corrected hpart hsecond]
        exact hagree.rest_mono _ _ hshorter hle hpart hfirst hsecond
      · rw [worth_of_not_corrected hpart hsecond]
        exact hagree.rest_dear _ _ hshorter hle hpart hfirst hsecond
    · rw [worth_of_not_corrected hpart' hfirst]
      by_cases hsecond : Corrected fee s longer
      · rw [worth_of_corrected hpart hsecond]
        exact hagree.rest_cheap _ _ hshorter hle hpart hfirst hsecond
      · rw [worth_of_not_corrected hpart hsecond]
        exact hagree.part_mono _ _ hshorter hle hpart hfirst hsecond
  · -- the longer time is worth the whole fee
    rw [worth_of_whole hall]
    exact (hagree.worth_bounds hshorter).2

/-- The conditions are also necessary: each of them is about one kind of times. -/
theorem partsAgree_of_worth
    (hbounds : ∀ minutes, 0 < minutes →
      0 ≤ worth fee s minutes ∧ worth fee s minutes ≤ s.tExit.sFee)
    (hmono : ∀ shorter longer, 0 < shorter → shorter ≤ longer →
      worth fee s shorter ≤ worth fee s longer) : PartsAgree fee s where
  whole := by
    have hlong : max 1 (stayMinutes s) ≥ stayMinutes s := le_max_right _ _
    have hpositive : 0 < max 1 (stayMinutes s) := lt_max_of_lt_left one_pos
    have hnonneg := (hbounds _ hpositive).1
    rwa [worth_of_whole hlong] at hnonneg
  part_bounds minutes hminutes hpart hplain := by
    have hworth := hbounds minutes hminutes
    rwa [worth_of_not_corrected hpart hplain] at hworth
  part_mono shorter longer hshorter hle hpart hfirst hsecond := by
    have hworth := hmono shorter longer hshorter hle
    rwa [worth_of_not_corrected (hle.trans_lt hpart) hfirst,
      worth_of_not_corrected hpart hsecond] at hworth
  rest_bound minutes hminutes hpart hcorrected := by
    have hworth := (hbounds minutes hminutes).2
    rw [worth_of_corrected hpart hcorrected] at hworth
    exact (le_max_right _ _).trans hworth
  rest_cheap shorter longer hshorter hle hpart hfirst hsecond := by
    have hworth := hmono shorter longer hshorter hle
    rwa [worth_of_not_corrected (hle.trans_lt hpart) hfirst,
      worth_of_corrected hpart hsecond] at hworth
  rest_dear shorter longer hshorter hle hpart hfirst hsecond := by
    have hworth := hmono shorter longer hshorter hle
    rwa [worth_of_corrected (hle.trans_lt hpart) hfirst,
      worth_of_not_corrected hpart hsecond] at hworth
  rest_mono shorter longer hshorter hle hpart hfirst hsecond := by
    have hworth := hmono shorter longer hshorter hle
    rwa [worth_of_corrected (hle.trans_lt hpart) hfirst,
      worth_of_corrected hpart hsecond] at hworth

end PartsAgree

/-- One dollar for every hour begun, and at most three a day. -/
def dayMaxTables : Tariff.TypedTables where
  toTables := .ofRow
    { Tariff.TariffStruct.plain [.plain "08:00:00" "08:00:00" "1" "60" "1"] with wholeDayMax := "3" } {}
  gtarifftypeinfo := fun index =>
    if index = 0 then
      { tariffType := "0", startTime := "2020-01-01 00:00:00", endTime := "2020-01-02 00:00:00" }
    else
      { tariffType := "0", startTime := "2020-01-02 00:00:00", endTime := "2100-01-01 00:00:00" }
  setTime := fun text => 1767196800 + ((Tariff.timeOfDay text).map (·.seconds)).getD 0

/-- The text of a time of that day. -/
def clockText (time : ℤ) : String :=
  let seconds := time - 1767196800
  "2026-01-01 " ++ padLeft0 2 (seconds / 3600) ++ ":" ++ padLeft0 2 (seconds / 60 % 60) ++ ":" ++
    padLeft0 2 (seconds % 60)

/-- The fee under `dayMaxTables`. -/
def dayMaxFee (entryTime payTime : String) (transType : ℤ) : ℚ :=
  (dayMaxTables.calFeeRAM2G 20 entryTime payTime transType false).getD (-4)

/-- A stay of ten hours. -/
def dayMaxStay : Station :=
  { env := { unixTimestamp := dayMaxTables.setTime, dateTimeString := clockText }
    tExit := { sEntryTime := "2026-01-01 08:00:00", sExitTime := "2026-01-01 18:00:00", sFee := 3 } }

end LinuxPBS.Operation
