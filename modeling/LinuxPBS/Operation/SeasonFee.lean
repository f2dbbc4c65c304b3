import LinuxPBS.Library.Timestamp
import LinuxPBS.Operation.Redeem
import LinuxPBS.Operation.TariffError
import LinuxPBS.Operation.Tickets

/-!
# What a season holder pays

`PBSExit` charges the part of a stay that a season does not cover.  It compares the texts of
three times, entry and the two ends of the season; the exit is not compared with the season.

```text
CheckSeason returns               the charge                what is not covered
1, entry before the season        entry to season start     also season end to exit, or all
1, otherwise                      nothing                   season end to exit
2, entry before the season end    season end to exit        also entry to season start
2, otherwise                      all                       all
```

The right column is missed where the stay goes beyond the season on the side that is not looked
at.  `pays_iff` is the exact condition, for all tariffs.

`checkedSeason` is `PBSExit` up to the return code of the season, `setPaidAmt` goes on until
`sPaidAmt` has been set and says how `PBSExit` ends, and `goOn` is its end (`pbsExit_eq`).
-/

namespace LinuxPBS.Operation

open Handler CxxText Gregorian Timestamp

/-! ## `PBSExit` in three parts -/

/-- How `PBSExit` goes on when the amount is set. -/
inductive Ending
  /-- it has returned -/
  | done
  | close (iStatus : TransType)
  | complimentary
  | pay
  deriving DecidableEq

/-- The end of `PBSExit` -/
def goOn (enableCashcard : Bool → Op Unit) (iDevicetype : DeviceType) (sCardNo : String)
    (sCardType : ℤ) (sCardBal : ℚ) : Ending → Op Unit
  | .done => pure ()
  | .close iStatus => closeExitOperation iStatus
  | .complimentary => do
      closeExitOperation .FreeParking
      enableCashcard false
  | .pay => payAmount enableCashcard iDevicetype sCardNo sCardType sCardBal

/-- "Total paid Amt" -/
def totalPaid : Op Ending := do
  if (← get).tExit.iRedeemTime > 0 then redeemTime2Amt
  modify fun s => { s with
    tExit.sPaidAmt := max 0 (gfeeFormat
      (s.tExit.sFee - s.tExit.sRebateAmt - s.tExit.sRedeemAmt + s.tExit.sOweAmt)) }
  showFee2User
  let s ← get
  if s.tExit.sRedeemNo ≠ "" ∧ s.tExit.sRedeemAmt = 0 then
    modify fun s => { s with
      tExit.iTransType := 10, tExit.sPaidAmt := 0, tExit.sCardNo := s.tExit.sRedeemNo }
    pure .complimentary
  else if s.tExit.sPaidAmt > 0 then pure .pay
  else pure (.close .FreeParking)

/-- The amount without an entry record. -/
def paidWithoutEntry (sIU : String) : Op Ending := do
  let s ← get
  if s.tExit.sRedeemNo ≠ "" ∧ s.tExit.sRedeemAmt = 0 then
    modify fun s => { s with
      tExit.iTransType := 10, tExit.sPaidAmt := 0, tExit.sCardNo := s.tExit.sRedeemNo }
    pure .complimentary
  else
    let (iAutoDebit, sAmt) ← ask Env.getXTariff
    if iAutoDebit > 0 then
      let now ← ask Env.now
      modify fun s => { s with tExit.sFee := gfeeFormat sAmt, tExit.sExitTime := now }
      totalPaid
    else
      sendMsg2Server "07" sIU
      if s.tParas.giEPS = 3 then sendMsg2OBU s.tExit.sIUNo
      pure .done

/-- The amount of a stay. -/
def paidStay (iRet : ℤ) : Op Ending := do
  let now ← ask Env.now
  modify fun s => { s with tExit.sExitTime := now }
  modify fun s => { s with
    tExit.lParkedTime := parkedMinutes s.env s.tExit.sEntryTime s.tExit.sExitTime }
  let iRet ← stayFee iRet
  let wholeDay ←
    if iRet = 1 then
      let rate ← orThrow (stoi (← get).tSeason.rate_type)
      pure (decide (rate = 0))
    else pure false
  if wholeDay ∨ iRet = 9 ∨ iRet = 12 then
    if iRet = 9 then modify fun s => { s with tExit.iTransType := 10 }
    modify fun s => { s with tExit.sPaidAmt := 0 }
    pure (.close .SeasonParking)
  else if (← get).tExit.iTransType = 10 then
    pure (.close .Complimentary)
  else
    totalPaid

/-- `PBSExit` from the return code of the season until `sPaidAmt` is set. -/
def setPaidAmt (sIU : String) (iRet : ℤ) : Op Ending := do
  let s ← get
  if (iRet = 1 ∨ iRet = 12 ∨ iRet = 9) ∧
      (s.tParas.giSeasonCharge = 0 ∨ s.tExit.bNoEntryRecord = 1) then
    if iRet = 9 then modify fun s => { s with tExit.iTransType := 10 }
    let now ← ask Env.now
    modify fun s => { s with tExit.sFee := 0, tExit.sPaidAmt := 0, tExit.sExitTime := now }
    pure (.close .SeasonParking)
  else if s.tExit.bNoEntryRecord = 1 then
    paidWithoutEntry sIU
  else
    paidStay iRet

/-- `PBSExit` from the transaction type up to the return code of the season; none where it returns
before. -/
def checkedVehicle (sIU : String) : Op (Option ℤ) := do
  let iTransType ← exitTransType sIU
  modify fun s => { s with tExit.iTransType := iTransType }
  if iTransType = 9 then
    closeExitOperation .FreeParking
    return none
  modify fun s => { s with tExit.iVehicleType := (s.tExit.iTransType - 1).tdiv 3 }
  let iRet ← checkSeason sIU 2
  return some iRet

/-- `PBSExit` up to the return code of the season. -/
def checkedSeason (sIU : String) : Op (Option ℤ) := do
  if sIU = (← get).tExit.sIUNo then return none
  modify fun s => { s with tExit.sIUNo := sIU }
  let iRet ← ask fun env n => env.isBlackListIU n sIU
  if iRet ≥ 0 then sendMsg2Server "90" (sIU ++ ",,,,,Blacklist IU")
  if iRet = 0 then return none
  if isBlocked (← get).env sIU then
    sendMsg2Server "90" (sIU ++ ",,,,,Block IU")
    return none
  getEntryTime sIU
  checkedVehicle sIU

section Parts

variable (enableCashcard : Bool → Op Unit) (iDevicetype : DeviceType) (sCardNo : String)
  (sCardType : ℤ) (sCardBal : ℚ)

theorem bind_ite {α β : Type} (condition : Prop) [Decidable condition] (first second : Op α)
    (rest : α → Op β) : (if condition then first else second) >>= rest =
      if condition then first >>= rest else second >>= rest := by
  split <;> rfl

theorem payFee_eq : payFee enableCashcard iDevicetype sCardNo sCardType sCardBal =
    totalPaid >>= goOn enableCashcard iDevicetype sCardNo sCardType sCardBal := by
  unfold payFee totalPaid
  simp only [bind_assoc, bind_ite, pure_bind, goOn]

theorem chargeWithoutEntry_eq_paid (sIU : String) :
    chargeWithoutEntry enableCashcard sIU iDevicetype sCardNo sCardType sCardBal =
      paidWithoutEntry sIU >>= goOn enableCashcard iDevicetype sCardNo sCardType sCardBal := by
  unfold chargeWithoutEntry paidWithoutEntry
  simp only [bind_assoc, bind_ite, pure_bind, goOn, payFee_eq, bind_pure_unit]

theorem chargeStay_eq (iRet : ℤ) :
    chargeStay enableCashcard iRet iDevicetype sCardNo sCardType sCardBal =
      paidStay iRet >>= goOn enableCashcard iDevicetype sCardNo sCardType sCardBal := by
  unfold chargeStay paidStay
  simp only [bind_assoc, bind_ite, pure_bind, goOn, payFee_eq]

theorem goOn_close (iStatus : TransType) :
    goOn enableCashcard iDevicetype sCardNo sCardType sCardBal (.close iStatus) =
      closeExitOperation iStatus := rfl

/-- The three parts are `PBSExit`. -/
theorem pbsExit_eq (sIU : String) :
    pbsExit enableCashcard sIU iDevicetype sCardNo sCardType sCardBal = (do
      match ← checkedSeason sIU with
      | none => pure ()
      | some iRet =>
          goOn enableCashcard iDevicetype sCardNo sCardType sCardBal
            (← setPaidAmt sIU iRet)) := by
  unfold pbsExit checkedSeason checkedVehicle chargeVehicle setPaidAmt
  simp only [bind_assoc, bind_ite, pure_bind, goOn_close, chargeStay_eq,
    chargeWithoutEntry_eq_paid, bind_pure_unit]

end Parts

/-! ## The transaction type -/

/-- A procedure that ends normally has done so in both of its parts. -/
theorem bind_eq_ok {α β : Type} {m : Op α} {rest : α → Op β} {s s' : Station} {b : β}
    (hok : (m >>= rest) s = .ok b s') :
    ∃ a middle, m s = .ok a middle ∧ rest a middle = .ok b s' := by
  cases hm : m s with
  | ok a middle =>
      rw [bind_of_ok hm] at hok
      exact ⟨a, middle, rfl, hok⟩
  | error stop middle =>
      simp only [bind, EStateM.bind, hm] at hok
      cases hok

/-- Where a procedure ends normally, its end has a property. -/
def Ends {α : Type} (Q : α → Station → Prop) (m : Op α) : Prop :=
  ∀ s a s', m s = .ok a s' → Q a s'

section Ends

variable {α β : Type} {Q : β → Station → Prop}

theorem Ends.bind {m : Op α} {rest : α → Op β} (hrest : ∀ a, Ends Q (rest a)) :
    Ends Q (m >>= rest) := by
  intro s b s' hok
  obtain ⟨a, middle, -, hok⟩ := bind_eq_ok hok
  exact hrest a middle b s' hok

theorem Ends.ite {condition : Prop} [Decidable condition] {first second : Op β}
    (hfirst : Ends Q first) (hsecond : Ends Q second) :
    Ends Q (if condition then first else second) := by
  split
  · exact hfirst
  · exact hsecond

theorem Ends.pure {b : β} (hb : ∀ s, Q b s) : Ends Q (Pure.pure b) := by
  intro s b' s' hok
  cases hok
  exact hb s

end Ends

/-- A season that was found does not make the exit a complimentary one. -/
def NotComplimentary (iRet : Option ℤ) (s : Station) : Prop :=
  iRet ≠ none → iRet ≠ some 8 → s.gtStation.iType = .tiExit → s.tExit.iTransType ≠ 10

theorem getSeasonTransType_ne_ten {transType : ℤ} (hnine : transType ≠ 9)
    (vehicleType seasonType : ℤ) : getSeasonTransType vehicleType seasonType transType ≠ 10 := by
  unfold getSeasonTransType
  split_ifs <;> omega

/-- `FormatSeasonMsg` numbers the partial seasons at an exit. -/
theorem formatSeasonMsg_ends {s s' : Station} (hok : formatSeasonMsg s = .ok () s')
    (hnine : s.tExit.iTransType ≠ 9) (hexit : s'.gtStation.iType = .tiExit) :
    s'.tExit.iTransType ≠ 10 := by
  unfold formatSeasonMsg at hok
  rw [get_bind] at hok
  cases hrate : stoi s.tSeason.rate_type with
  | none =>
      rw [hrate, orThrow_none, throw_bind] at hok
      cases hok
  | some rate =>
      rw [hrate, orThrow_some, pure_bind, get_bind] at hok
      split_ifs at hok with hentry
      · cases hok
        exact absurd (hexit.symm.trans hentry) (by decide)
      · cases hok
        exact getSeasonTransType_ne_ten hnine _ _

theorem checkSeason_ends {sIU : String} {s s' : Station} {iRet : ℤ}
    (hok : checkSeason sIU 2 s = .ok iRet s') (hnine : s.tExit.iTransType ≠ 9) (hRet : iRet ≠ 8)
    (hexit : s'.gtStation.iType = .tiExit) : s'.tExit.iTransType ≠ 10 := by
  unfold checkSeason at hok
  rw [ask_bind, modify_bind] at hok
  split_ifs at hok with hfound
  · obtain ⟨⟨⟩, middle, hformat, hok⟩ := bind_eq_ok hok
    cases hok
    exact formatSeasonMsg_ends hformat hnine hexit
  · cases hok
    exact absurd (not_not.mp hfound) hRet

theorem checkedVehicle_ends (sIU : String) : Ends NotComplimentary (checkedVehicle sIU) := by
  have hnone : Ends NotComplimentary (pure none) := Ends.pure fun _ hsome => absurd rfl hsome
  refine Ends.bind fun iTransType => ?_
  intro s iRet s' hok
  rw [modify_bind] at hok
  by_cases hnine : iTransType = 9
  · rw [if_pos hnine] at hok
    exact Ends.bind (fun _ => hnone) _ _ _ hok
  · rw [if_neg hnine, modify_bind] at hok
    obtain ⟨answer, middle, hseason, hok⟩ := bind_eq_ok hok
    cases hok
    intro _ height hexit
    exact checkSeason_ends hseason hnine (fun heq => height (congrArg some heq)) hexit

theorem checkedSeason_ends (sIU : String) : Ends NotComplimentary (checkedSeason sIU) := by
  have hnone : Ends NotComplimentary (pure none) := Ends.pure fun _ hsome => absurd rfl hsome
  unfold checkedSeason
  dsimp only
  refine Ends.bind fun _ => Ends.ite hnone (Ends.bind fun _ => Ends.bind fun iRet => ?_)
  have hrest : Ends NotComplimentary (if iRet = 0 then pure none else do
      if isBlocked (← get).env sIU then
        sendMsg2Server "90" (sIU ++ ",,,,,Block IU")
        return none
      getEntryTime sIU
      checkedVehicle sIU) :=
    Ends.ite hnone (Ends.bind fun _ => Ends.ite (Ends.bind fun _ => hnone)
      (Ends.bind fun _ => checkedVehicle_ends sIU))
  exact Ends.ite (Ends.bind fun _ => hrest) hrest

/-! ## The law -/

/-- The answers of `CheckSeason` the law is about. -/
inductive SeasonAnswer
  /-- a season of the rate type 0 -/
  | wholeDay
  | expired
  deriving DecidableEq, Repr

/-- The return code. -/
def SeasonAnswer.code : SeasonAnswer → ℤ
  | .wholeDay => 1
  | .expired => 2

/-- The tariff gives these fees, whenever it is asked, and there is no ticket. -/
structure Tariffed (fee : String → String → ℤ → ℚ) (env : Env) : Prop where
  fees : ∀ n, env.calFeeRAM2G n = fee
  noTicket : ∀ n iuNo lpn, foundTicket (env.hasValidTicket n iuNo lpn) = none

/-- `PBSExit`, started in `start`, has come to the return code of the season in `s`, for a stay
that is known and without anything else that counts. -/
structure SeasonExit (fee : String → String → ℤ → ℚ) (sIU : String) (answer : SeasonAnswer)
    (stay season : Interval) (start s : Station) : Prop where
  came : checkedSeason sIU start = .ok (some answer.code) s
  iType : s.gtStation.iType = .tiExit
  giSeasonCharge : s.tParas.giSeasonCharge ≠ 0
  bNoEntryRecord : s.tExit.bNoEntryRecord = 0
  sEntryTime : s.tExit.sEntryTime = stay.start.text
  now : s.env.now s.asked = stay.finish.text
  date_from : s.tSeason.date_from = season.start.text
  date_to : s.tSeason.date_to = season.finish.text
  rate_type : answer = .wholeDay → stoi s.tSeason.rate_type = some 0
  tariffed : Tariffed fee s.env
  noRedemption : s.tExit.sRedeemNo = "" ∧ s.tExit.sRedeemAmt = 0 ∧ s.tExit.iRedeemTime = 0
  sRebateAmt : s.tExit.sRebateAmt = 0
  sOweAmt : s.tExit.sOweAmt = 0

/-- The fees of some stretches of time together. -/
def feeOfSpans (fee : String → String → ℤ → ℚ) (iVehicleType : ℤ) (spans : List (String × String)) :
    ℚ :=
  (spans.map fun span => fee span.1 span.2 iVehicleType).sum

/-- An amount of money as `PBSExit` asks for it, in whole cents and not below nothing. -/
def payableFee (fees : ℚ) : ℚ := max 0 (gfeeFormat fees)

/-- The parts of a stay that a season does not cover. -/
def uncoveredSpans (stay season : Interval) : List (String × String) :=
  (stay.minus season).map fun part => (part.start.text, part.finish.text)

/-! ## What is chargedSpans -/

/-- The parts of a stay `PBSExit` charges. -/
def chargedSpans (answer : SeasonAnswer) (stay season : Interval) : List (String × String) :=
  match answer with
  | .wholeDay =>
      if stay.start < season.start then [(stay.start.text, season.start.text)] else []
  | .expired =>
      if stay.start < season.finish then [(season.finish.text, stay.finish.text)]
      else [(stay.start.text, stay.finish.text)]

section Charge

variable {fee : String → String → ℤ → ℚ} {s : Station}

/-- Without a ticket `CalFeeRAM` is the tariff. -/
theorem calFeeRAM_fee (htariffed : Tariffed fee s.env) (eTime payTime : String) (iTransType : ℤ) :
    ∃ n, calFeeRAM eTime payTime iTransType s =
      .ok (fee eTime payTime iTransType) { s with asked := n } := by
  have hlook (n : ℕ) (iuNo lpn : String) (usedBy : ℤ) :
      lookForTicket iuNo lpn usedBy { s with asked := n } =
        .ok false { s with asked := n + 1 } :=
    lookForTicket_none (s := { s with asked := n }) (htariffed.noTicket n iuNo lpn) usedBy
  unfold calFeeRAM
  rw [ask_bind, htariffed.fees, get_bind]
  dsimp only
  split_ifs with hpays hIU
  · rw [bind_of_ok (hlook (s.asked + 1) s.tExit.sIUNo "" 2), get_bind]
    split_ifs with hlpn
    · exact ⟨_, bind_of_ok (hlook (s.asked + 1 + 1) "" s.tExit.sLPN0 3)⟩
    · exact ⟨_, rfl⟩
  · exact ⟨s.asked + 1, rfl⟩
  · exact ⟨s.asked + 1, rfl⟩

/-- What the fee of a stay is, and the return code with which `PBSExit` goes on. -/
theorem stayFee_charged {answer : SeasonAnswer} {stay season : Interval}
    (htariffed : Tariffed fee s.env) (hentry : s.tExit.sEntryTime = stay.start.text)
    (hnow : s.tExit.sExitTime = stay.finish.text)
    (hfrom : s.tSeason.date_from = season.start.text)
    (hto : s.tSeason.date_to = season.finish.text)
    (hrate : answer = .wholeDay → stoi s.tSeason.rate_type = some 0) :
    ∃ n sFee iRet, stayFee answer.code s =
        .ok iRet { s with asked := n, tExit.sFee := sFee } ∧
      (chargedSpans answer stay season = [] ∧ iRet = 1 ∨
        (iRet = 2 ∨ iRet = 8) ∧
          sFee = feeOfSpans fee s.tExit.iVehicleType (chargedSpans answer stay season)) := by
  have hfee (eTime payTime : String) : ∃ n, calFeeRAM eTime payTime s.tExit.iVehicleType s =
      .ok (fee eTime payTime s.tExit.iVehicleType) { s with asked := n } :=
    calFeeRAM_fee htariffed eTime payTime s.tExit.iVehicleType
  unfold stayFee chargedSpans feeOfSpans
  rw [get_bind]
  cases answer with
  | wholeDay =>
      have hone : SeasonAnswer.wholeDay.code = 1 := rfl
      rw [if_pos hone, hrate rfl, orThrow_some, pure_bind, if_neg (not_not.mpr rfl), hentry, hfrom,
        hone]
      simp only [DateTime.text_lt_iff]
      by_cases hearly : stay.start < season.start
      · obtain ⟨n, hn⟩ := hfee stay.start.text season.start.text
        rw [if_pos hearly, if_pos hearly, bind_of_ok hn, modify_bind]
        exact ⟨n, _, 8, rfl, .inr ⟨.inr rfl, by simp⟩⟩
      · obtain ⟨n, hn⟩ := hfee stay.start.text s.tExit.sExitTime
        rw [if_neg hearly, if_neg hearly, bind_of_ok hn, modify_bind]
        exact ⟨n, _, 1, rfl, .inl ⟨rfl, rfl⟩⟩
  | expired =>
      have htwo : SeasonAnswer.expired.code = 2 := rfl
      rw [if_neg (by decide), hentry, hto, hnow, htwo]
      simp only [gt_iff_lt, DateTime.text_lt_iff, true_and]
      by_cases hearly : stay.start < season.finish
      · obtain ⟨n, hn⟩ := hfee season.finish.text stay.finish.text
        rw [if_pos hearly, if_pos hearly, bind_of_ok hn, modify_bind]
        exact ⟨n, _, 2, rfl, .inr ⟨.inl rfl, by simp⟩⟩
      · obtain ⟨n, hn⟩ := hfee stay.start.text stay.finish.text
        rw [if_neg hearly, if_neg hearly, bind_of_ok hn, modify_bind]
        exact ⟨n, _, 2, rfl, .inr ⟨.inl rfl, by simp⟩⟩

/-- Without a ticket, a rebate and an amount owed "Total paid Amt" is the fee. -/
theorem after_totalPaid (hredeemNo : s.tExit.sRedeemNo = "") (hredeemAmt : s.tExit.sRedeemAmt = 0)
    (htime : s.tExit.iRedeemTime = 0) (hrebate : s.tExit.sRebateAmt = 0)
    (howe : s.tExit.sOweAmt = 0) :
    (after totalPaid s).tExit.sPaidAmt = payableFee s.tExit.sFee := by
  have hredeemed : redeemed s = s := if_neg (by rw [htime]; exact Int.lt_irrefl 0)
  obtain ⟨s', htotal, hafter⟩ := after_total (s := s) rfl fun _ => do
    let s ← get
    if s.tExit.sRedeemNo ≠ "" ∧ s.tExit.sRedeemAmt = 0 then
      modify fun s => { s with
        tExit.iTransType := 10, tExit.sPaidAmt := 0, tExit.sCardNo := s.tExit.sRedeemNo }
      pure Ending.complimentary
    else if s.tExit.sPaidAmt > 0 then pure .pay
    else pure (.close .FreeParking)
  have hnoTicket : ¬(s'.tExit.sRedeemNo ≠ "" ∧ s'.tExit.sRedeemAmt = 0) := by
    rw [htotal.sRedeemNo, hredeemed]
    exact fun hticket => hticket.1 hredeemNo
  have hpaid := htotal.sPaidAmt
  rw [hredeemed, totalAmt, hrebate, hredeemAmt, howe, sub_zero, sub_zero, add_zero] at hpaid
  have hends : after totalPaid s = _ := hafter
  rw [hends, after_get_bind, if_neg hnoTicket, after_ite, after_pure, after_pure, ite_self, hpaid,
    payableFee]

/-- `PBSExit` sets the fees of the parts it charges. -/
theorem setPaidAmt_charged {sIU : String} {answer : SeasonAnswer} {stay season : Interval}
    {start : Station} (hexit : SeasonExit fee sIU answer stay season start s) :
    (after (setPaidAmt sIU answer.code) s).tExit.sPaidAmt =
      payableFee (feeOfSpans fee s.tExit.iVehicleType (chargedSpans answer stay season)) := by
  have hknown : s.tExit.bNoEntryRecord ≠ 1 := by
    rw [hexit.bNoEntryRecord]
    decide
  have hcharge : ¬((answer.code = 1 ∨ answer.code = 12 ∨ answer.code = 9) ∧
      (s.tParas.giSeasonCharge = 0 ∨ s.tExit.bNoEntryRecord = 1)) :=
    fun hfree => hfree.2.elim hexit.giSeasonCharge hknown
  have hten : s.tExit.iTransType ≠ 10 := by
    refine checkedSeason_ends sIU start _ s hexit.came (Option.some_ne_none _) ?_ hexit.iType
    cases answer <;> decide
  obtain ⟨hredeemNo, hredeemAmt, htime⟩ := hexit.noRedemption
  unfold setPaidAmt paidStay
  rw [after_get_bind, if_neg hcharge, if_neg hknown, after_ask_bind, after_modify_bind,
    after_modify_bind]
  obtain ⟨n, sFee, iRet, hstay, hends⟩ := stayFee_charged
    (s := { s with
      asked := s.asked + 1
      tExit.sExitTime := s.env.now s.asked
      tExit.lParkedTime := parkedMinutes s.env s.tExit.sEntryTime (s.env.now s.asked) })
    hexit.tariffed hexit.sEntryTime hexit.now hexit.date_from hexit.date_to hexit.rate_type
  rw [after_bind_of_ok hstay]
  rcases hends with ⟨hnothing, rfl⟩ | ⟨hcode, hfee⟩
  · have hwhole : answer = .wholeDay := by
      cases answer with
      | wholeDay => rfl
      | expired =>
          simp only [chargedSpans] at hnothing
          split_ifs at hnothing
    rw [if_pos rfl, after_get_bind, hexit.rate_type hwhole, orThrow_some, pure_bind, pure_bind,
      after_ite, if_pos (.inl (decide_eq_true rfl)), hnothing]
    have hzero : payableFee (feeOfSpans fee s.tExit.iVehicleType []) = 0 := by
      rw [feeOfSpans, List.map_nil, List.sum_nil, payableFee, gfeeFormat_zero, max_self]
    rw [hzero]
    rfl
  · have hone : iRet ≠ 1 := by omega
    have hother : ¬(false = true ∨ iRet = 9 ∨ iRet = 12) := by
      rintro (hfalse | hcodes)
      · exact Bool.false_ne_true hfalse
      · omega
    rw [if_neg hone, pure_bind, after_ite, if_neg hother, after_get_bind, if_neg hten]
    refine (after_totalPaid ?_ ?_ ?_ ?_ ?_).trans (congrArg payableFee hfee)
    · exact hredeemNo
    · exact hredeemAmt
    · exact htime
    · exact hexit.sRebateAmt
    · exact hexit.sOweAmt

end Charge

/-! ## The condition -/

/-- The stay goes beyond the season at most on the side `PBSExit` looks at. -/
def OneSided (answer : SeasonAnswer) (stay season : Interval) : Prop :=
  match answer with
  | .wholeDay => season.start ≤ stay.finish ∧ stay.finish ≤ season.finish
  | .expired => season.finish < stay.finish ∧ season.start ≤ stay.start

theorem uncoveredSpans_eq (stay season : Interval) :
    uncoveredSpans stay season =
      if stay.finish < season.start ∨ season.finish < stay.start then
        [(stay.start.text, stay.finish.text)]
      else
        (if stay.start < season.start then [(stay.start.text, season.start.text)] else []) ++
          if season.finish < stay.finish then [(season.finish.text, stay.finish.text)] else [] := by
  unfold uncoveredSpans Interval.minus
  split_ifs <;> rfl

/-- Then the parts charged are those that are not covered. -/
theorem chargedSpans_of_oneSided {answer : SeasonAnswer} {stay season : Interval}
    (hone : OneSided answer stay season) :
    chargedSpans answer stay season = uncoveredSpans stay season := by
  have hstay := stay.ordered
  have hseason := season.ordered
  rw [uncoveredSpans_eq]
  cases answer with
  | wholeDay =>
      obtain ⟨hmeets, hlast⟩ := hone
      have hafter : ¬season.finish < stay.start := not_lt_of_ge (hstay.trans hlast)
      rw [if_neg (not_or.mpr ⟨not_lt_of_ge hmeets, hafter⟩), if_neg (not_lt_of_ge hlast),
        List.append_nil, chargedSpans]
  | expired =>
      obtain ⟨hlast, hfirst⟩ := hone
      have hbefore : ¬stay.finish < season.start :=
        not_lt_of_ge (hseason.trans hlast.le)
      rw [if_neg (not_lt_of_ge hfirst), List.nil_append, if_pos hlast, chargedSpans]
      by_cases hearly : stay.start < season.finish
      · rw [if_pos hearly, if_neg (not_or.mpr ⟨hbefore, hearly.not_gt⟩)]
      · rw [if_neg hearly]
        by_cases hapart : season.finish < stay.start
        · rw [if_pos (.inr hapart)]
        · -- the stay begins as the season ends
          rw [if_neg (not_or.mpr ⟨hbefore, hapart⟩),
            DateTime.text_eq_of_le (not_lt_iff.mp hapart) (not_lt_iff.mp hearly)]

/-! ### A tariff that tells the parts of a stay -/

/-- The whole stay, its last part and all other parts have three different fees. -/
def tellingWeight (stay : Interval) (span : String × String) : ℕ :=
  if span.2 = stay.finish.text then if span.1 = stay.start.text then 1 else 2 else 3

def tellingFee (stay : Interval) (eTime payTime : String) (_ : ℤ) : ℚ :=
  tellingWeight stay (eTime, payTime)

/-- The weight of the parts of a stay in a list. -/
def tellingSum (stay : Interval) (spans : List (String × String)) : ℕ :=
  (spans.map (tellingWeight stay)).sum

@[simp] theorem tellingSum_nil (stay : Interval) : tellingSum stay [] = 0 := rfl

@[simp] theorem tellingSum_cons (stay : Interval) (span : String × String)
    (spans : List (String × String)) :
    tellingSum stay (span :: spans) = tellingWeight stay span + tellingSum stay spans := by
  rw [tellingSum, List.map_cons, List.sum_cons, tellingSum]

@[simp] theorem tellingSum_append (stay : Interval) (front back : List (String × String)) :
    tellingSum stay (front ++ back) = tellingSum stay front + tellingSum stay back := by
  rw [tellingSum, List.map_append, List.sum_append, tellingSum, tellingSum]

theorem feeOfSpans_telling (stay : Interval) (iVehicleType : ℤ) (spans : List (String × String)) :
    feeOfSpans (tellingFee stay) iVehicleType spans = (tellingSum stay spans : ℕ) := by
  induction spans with
  | nil => rfl
  | cons span spans ih =>
      unfold feeOfSpans at ih ⊢
      rw [List.map_cons, List.sum_cons, ih, tellingSum_cons, Nat.cast_add]
      rfl

theorem payableFee_natCast (fees : ℕ) : payableFee fees = fees := by
  have hround : gfeeFormat fees = fees := by
    have hcents : (fees : ℚ) * 100 = ((fees * 100 : ℤ) : ℚ) := by push_cast; ring
    rw [gfeeFormat, hcents, roundHalfAway_intCast]
    push_cast
    ring
  rw [payableFee, hround, max_eq_right (Nat.cast_nonneg fees)]

theorem tellingWeight_pos (stay : Interval) (span : String × String) :
    0 < tellingWeight stay span := by
  unfold tellingWeight
  split_ifs <;> decide

theorem tellingWeight_whole (stay : Interval) :
    tellingWeight stay (stay.start.text, stay.finish.text) = 1 := by
  rw [tellingWeight, if_pos rfl, if_pos rfl]

theorem tellingWeight_last {stay : Interval} {time : DateTime} (hlater : stay.start < time) :
    tellingWeight stay (time.text, stay.finish.text) = 2 := by
  rw [tellingWeight, if_pos rfl, if_neg (DateTime.text_ne_of_lt hlater).symm]

theorem tellingWeight_first {stay : Interval} {time : DateTime} (eTime : String)
    (hother : time.text ≠ stay.finish.text) : tellingWeight stay (eTime, time.text) = 3 :=
  if_neg hother

/-- Only a last part has this weight. -/
theorem tellingWeight_start_ne (stay : Interval) (payTime : String) :
    tellingWeight stay (stay.start.text, payTime) ≠ 2 := by
  rw [tellingWeight, if_pos (rfl : stay.start.text = _)]
  split_ifs <;> decide

/-- A stay that ends outside of a season is charged wrongly for the rate type 0. -/
theorem telling_wholeDay {stay season : Interval}
    (hsame : tellingSum stay (chargedSpans .wholeDay stay season) =
      tellingSum stay (uncoveredSpans stay season)) :
    season.start ≤ stay.finish ∧ stay.finish ≤ season.finish := by
  have hstay := stay.ordered
  have hseason := season.ordered
  rw [uncoveredSpans_eq, chargedSpans] at hsame
  rw [← not_lt_iff, ← not_lt_iff, ← not_or]
  rintro (hbefore | hlast)
  · -- the season starts after the exit: it is asked for up to there
    rw [if_pos (hstay.trans_lt hbefore), if_pos (.inl hbefore)] at hsame
    have hmore := tellingWeight_first stay.start.text (DateTime.text_ne_of_lt hbefore).symm
    simp only [tellingSum_cons, tellingSum_nil, hmore, tellingWeight_whole] at hsame
    omega
  · have hexit : ¬stay.finish < season.start := (hseason.trans hlast.le).not_gt
    by_cases hfirst : stay.start < season.start
    · -- before and after the season: only the first part is asked for
      have hmeets : ¬season.finish < stay.start := (hfirst.le.trans hseason).not_gt
      have hpos := tellingWeight_pos stay (season.finish.text, stay.finish.text)
      rw [if_pos hfirst, if_neg (not_or.mpr ⟨hexit, hmeets⟩), if_pos hlast] at hsame
      simp only [tellingSum_append, tellingSum_cons, tellingSum_nil] at hsame
      omega
    · -- only after the season: nothing is asked for
      have hwhole := tellingWeight_pos stay (stay.start.text, stay.finish.text)
      have hpart := tellingWeight_pos stay (season.finish.text, stay.finish.text)
      rw [if_neg hfirst, if_pos hlast] at hsame
      split_ifs at hsame
      · simp only [tellingSum_cons, tellingSum_nil] at hsame
        omega
      · simp only [List.nil_append, tellingSum_cons, tellingSum_nil] at hsame
        omega

/-- A stay that begins before a season is charged wrongly if the season has expired. -/
theorem telling_expired {stay season : Interval}
    (hsame : tellingSum stay (chargedSpans .expired stay season) =
      tellingSum stay (uncoveredSpans stay season)) :
    season.finish < stay.finish ∧ season.start ≤ stay.start := by
  have hstay := stay.ordered
  have hseason := season.ordered
  rw [uncoveredSpans_eq, chargedSpans] at hsame
  have hlast : season.finish < stay.finish := by
    by_contra hinside
    rw [if_neg hinside, List.append_nil] at hsame
    rw [not_lt_iff] at hinside
    by_cases hearly : stay.start < season.finish
    · -- the exit is before the end of the season: only a part that begins with the stay is open
      have hmeets : ¬season.finish < stay.start := hearly.not_gt
      have hwhole := tellingWeight_start_ne stay stay.finish.text
      have hfirst := tellingWeight_start_ne stay season.start.text
      rw [if_pos hearly, tellingSum_cons, tellingWeight_last hearly] at hsame
      split_ifs at hsame
      · simp only [tellingSum_cons, tellingSum_nil] at hsame
        omega
      · simp only [tellingSum_cons, tellingSum_nil] at hsame
        omega
      · simp only [tellingSum_nil] at hsame
        omega
    · -- the stay is the last moment of the season
      rw [if_neg hearly, tellingSum_cons, tellingWeight_whole] at hsame
      rw [not_lt_iff] at hearly
      have hfirst : ¬stay.start < season.start := (hseason.trans hearly).not_gt
      have hexit : ¬stay.finish < season.start := (hseason.trans (hearly.trans hstay)).not_gt
      have hmeets : ¬season.finish < stay.start := (hstay.trans hinside).not_gt
      rw [if_neg (not_or.mpr ⟨hexit, hmeets⟩), if_neg hfirst] at hsame
      simp only [tellingSum_nil] at hsame
      omega
  refine ⟨hlast, not_lt_iff.mp fun hfirst => ?_⟩
  -- before and after the season: only the last part is asked for
  have hexit : ¬stay.finish < season.start := (hseason.trans hlast.le).not_gt
  have hmeets : ¬season.finish < stay.start := (hfirst.le.trans hseason).not_gt
  have hpos := tellingWeight_pos stay (stay.start.text, season.start.text)
  rw [if_pos (hfirst.trans_le hseason), if_neg (not_or.mpr ⟨hexit, hmeets⟩), if_pos hfirst,
    if_pos hlast] at hsame
  simp only [tellingSum_append, tellingSum_cons, tellingSum_nil] at hsame
  omega

/-- With this tariff the amount is right only if the condition holds. -/
theorem oneSided_of_telling {answer : SeasonAnswer} {stay season : Interval}
    (hsame : tellingSum stay (chargedSpans answer stay season) =
      tellingSum stay (uncoveredSpans stay season)) : OneSided answer stay season := by
  cases answer with
  | wholeDay => exact telling_wholeDay hsame
  | expired => exact telling_expired hsame

/-! ### A station -/

/-- A season of the rate type 0. -/
def seasonOf (season : Interval) : TSeason where
  date_from := season.start.text
  date_to := season.finish.text
  rate_type := "0"

def vehicleOf (stay : Interval) : TExit where
  bNoEntryRecord := 0
  sEntryTime := stay.start.text
  sIUNo := "1"

/-- A station at which a vehicle with a known entry asks to leave. -/
def seasonStart (fee : String → String → ℤ → ℚ) (answer : SeasonAnswer)
    (stay season : Interval) : Station where
  env := {
    now := fun _ => stay.finish.text
    isvalidseason := fun _ _ _ => (answer.code, some (seasonOf season))
    calFeeRAM2G := fun _ => fee }
  gtStation := { iType := .tiExit }
  tParas := { giSeasonCharge := 1 }
  tExit := { bNoEntryRecord := 0, sEntryTime := stay.start.text }

/-- The station where its season has been looked up. -/
def seasonFound (fee : String → String → ℤ → ℚ) (answer : SeasonAnswer)
    (stay season : Interval) : Station :=
  { seasonStart fee answer stay season with
    asked := 5
    tSeason := seasonOf season
    tProcess := { giShowType := 0 }
    tExit := { vehicleOf stay with iTransType := 2, iVehicleType := 0 } }

theorem stoi_rate (season : Interval) : stoi (seasonOf season).rate_type = some 0 :=
  show stoi "0" = some 0 by decide +kernel

theorem checkSeason_found {sIU : String} {iInOut iRet seasonRateType : ℤ} {season : TSeason}
    {s : Station} (hanswer : s.env.isvalidseason s.asked sIU iInOut = (iRet, some season))
    (hfound : iRet ≠ 8) (hrate : stoi season.rate_type = some seasonRateType)
    (hexit : s.gtStation.iType ≠ .tientry) : checkSeason sIU iInOut s =
      .ok iRet { s with
        asked := s.asked + 1
        tSeason := season
        tExit.iTransType :=
          getSeasonTransType s.tExit.iVehicleType seasonRateType s.tExit.iTransType
        tProcess.giShowType := 0 } := by
  unfold checkSeason formatSeasonMsg
  rw [ask_bind, hanswer, modify_bind, if_pos hfound, bind_assoc, get_bind]
  dsimp only [Option.getD_some]
  rw [hrate, orThrow_some, pure_bind, bind_assoc, get_bind, if_neg hexit]
  rfl

theorem checkedSeason_start (fee : String → String → ℤ → ℚ) (answer : SeasonAnswer)
    (stay season : Interval) : checkedSeason "1" (seasonStart fee answer stay season) =
      .ok (some answer.code) (seasonFound fee answer stay season) := by
  have hlength : ¬"1".length = 10 := by decide +kernel
  have hfree (env : Env) : ¬isBlocked env "1" = true := by
    rw [isBlocked, decide_eq_false hlength, Bool.and_false]
    exact Bool.false_ne_true
  have hfound : answer.code ≠ 8 := by cases answer <;> decide
  have htype : exitTransType "1"
      { seasonStart fee answer stay season with asked := 1, tExit := vehicleOf stay } =
      .ok 1 { seasonStart fee answer stay season with asked := 4, tExit := vehicleOf stay } := by
    unfold exitTransType
    rw [get_bind, if_neg hlength]
    rfl
  have hseason : checkSeason "1" 2
      { seasonStart fee answer stay season with
        asked := 4, tExit := { vehicleOf stay with iTransType := 1, iVehicleType := 0 } } =
      .ok answer.code (seasonFound fee answer stay season) := by
    have hexit : TStationType.tiExit ≠ .tientry := by decide
    rw [checkSeason_found (s := { seasonStart fee answer stay season with
      asked := 4, tExit := { vehicleOf stay with iTransType := 1, iVehicleType := 0 } }) rfl hfound
      (stoi_rate season) hexit]
    rfl
  have hvehicle : checkedVehicle "1"
      { seasonStart fee answer stay season with asked := 1, tExit := vehicleOf stay } =
      .ok (some answer.code) (seasonFound fee answer stay season) := by
    unfold checkedVehicle
    rw [bind_of_ok htype, modify_bind, if_neg (by decide), modify_bind]
    exact bind_of_ok hseason
  have hblocked : (do
      if isBlocked (← get).env "1" then
        sendMsg2Server "90" ("1" ++ ",,,,,Block IU")
        return none
      getEntryTime "1"
      checkedVehicle "1" : Op (Option ℤ))
      { seasonStart fee answer stay season with asked := 1, tExit := vehicleOf stay } =
      .ok (some answer.code) (seasonFound fee answer stay season) := by
    rw [get_bind, if_neg (hfree _)]
    exact hvehicle
  exact hblocked

/-- The law speaks of every stay and every season. -/
theorem seasonExit_found (fee : String → String → ℤ → ℚ) (answer : SeasonAnswer)
    (stay season : Interval) :
    SeasonExit fee "1" answer stay season (seasonStart fee answer stay season)
      (seasonFound fee answer stay season) where
  came := checkedSeason_start fee answer stay season
  iType := rfl
  giSeasonCharge := one_ne_zero
  bNoEntryRecord := rfl
  sEntryTime := rfl
  now := rfl
  date_from := rfl
  date_to := rfl
  rate_type _ := stoi_rate season
  tariffed := ⟨fun _ => rfl, fun _ _ _ => rfl⟩
  noRedemption := ⟨rfl, rfl, rfl⟩
  sRebateAmt := rfl
  sOweAmt := rfl

/-! ## When the law holds -/

/-- An exit pays for the parts of the stay that are not covered. -/
def PaysUncovered (answer : SeasonAnswer) (stay season : Interval) : Prop :=
  ∀ fee sIU start s, SeasonExit fee sIU answer stay season start s →
    (after (setPaidAmt sIU answer.code) s).tExit.sPaidAmt =
      payableFee (feeOfSpans fee s.tExit.iVehicleType (uncoveredSpans stay season))

/-- It does so for every tariff if and only if the stay goes beyond the season at most on the side
that is looked at. -/
theorem pays_iff (answer : SeasonAnswer) (stay season : Interval) :
    PaysUncovered answer stay season ↔ OneSided answer stay season := by
  constructor
  · intro hpays
    have hexit := seasonExit_found (tellingFee stay) answer stay season
    have hamount := hpays _ _ _ _ hexit
    rw [setPaidAmt_charged hexit, feeOfSpans_telling, feeOfSpans_telling, payableFee_natCast,
      payableFee_natCast, Nat.cast_inj] at hamount
    exact oneSided_of_telling hamount
  · intro hone fee sIU start s hexit
    rw [setPaidAmt_charged hexit, chargedSpans_of_oneSided hone]

/-! ### A season of eight hours -/

/-- An hour of the first of January. -/
def newYear (hour : ℕ) (hhour : hour < 24) : DateTime where
  date := ⟨2026, 1, 1, by decide, Date.january_mem, by decide⟩
  hour
  minute := 0
  second := 0
  year_lt := show 2026 < 10000 by decide
  hour_lt := hhour
  minute_lt := by decide
  second_lt := by decide

theorem newYear_le {hour later : ℕ} (hhour : hour < 24) (hlater : later < 24)
    (hle : hour ≤ later) : newYear hour hhour ≤ newYear later hlater :=
  Nat.add_le_add_left (Nat.add_le_add_right (Nat.mul_le_mul_left 3600 hle) 0) _

/-- The hours of that day from one to another. -/
def hoursOf (hour later : ℕ) (hlater : later < 24) (hle : hour ≤ later) : Interval :=
  ⟨newYear hour (hle.trans_lt hlater), newYear later hlater, newYear_le _ _ hle⟩

/-- From eight to six. -/
def dayStay : Interval := hoursOf 8 18 (by decide) (by decide)

/-- From nine to five. -/
def officeHours : Interval := hoursOf 9 17 (by decide) (by decide)

/-- At one dollar an hour the hour before the season and the hour after it cost two dollars.  The
season has expired when the vehicle leaves, and it pays one. -/
theorem not_paysUncovered :
    ((after (setPaidAmt "1" SeasonAnswer.expired.code)
          (seasonFound dayMaxFee .expired dayStay officeHours)).tExit.sPaidAmt = 1 ∧
        payableFee (feeOfSpans dayMaxFee 0 (uncoveredSpans dayStay officeHours)) = 2) ∧
      ¬∀ answer stay season, PaysUncovered answer stay season := by
  have hexit := seasonExit_found dayMaxFee .expired dayStay officeHours
  have hpaid := setPaidAmt_charged hexit
  have hone :
      payableFee (feeOfSpans dayMaxFee 0 (chargedSpans .expired dayStay officeHours)) = 1 := by
    decide +kernel
  have htwo : payableFee (feeOfSpans dayMaxFee 0 (uncoveredSpans dayStay officeHours)) = 2 := by
    decide +kernel
  refine ⟨⟨hpaid.trans hone, htwo⟩, fun hall => ?_⟩
  have hlaw := hall .expired dayStay officeHours _ _ _ _ hexit
  have hsame : (1 : ℚ) = 2 := (hpaid.trans hone).symm.trans (hlaw.trans htwo)
  norm_num at hsame

end LinuxPBS.Operation
