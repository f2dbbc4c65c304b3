import LinuxPBS.Operation.Walk

/-!
# The walk through the handlers

The handlers of the devices and of the PMS at an exit, for a property that is `S` when the
handler begins and `Q` when it ends: either of them closes the exit, or it is a read, or it
writes a few fields of the lane and switches the readers.
-/

set_option synthInstance.maxSize 100000

namespace LinuxPBS.Operation

open Handler CxxText Common

variable {S Q : Station → Prop} {enableCashcard : Bool → Op Unit}

/-- A deduction has been reported. -/
class Debits (S Q : Station → Prop) : Prop where
  debit : ∀ sIUNO sCardNo sPaidAmt sBal iCardType sTopupAmt iDevicetype,
    Leads S Q (debitOK sIUNO sCardNo sPaidAmt sBal iCardType sTopupAmt iDevicetype)

instance [h : Debits S Q] (sIUNO sCardNo sPaidAmt sBal : String) (iCardType : ℤ)
    (sTopupAmt : String) (iDevicetype : DeviceType) :
    Leads S Q (debitOK sIUNO sCardNo sPaidAmt sBal iCardType sTopupAmt iDevicetype) :=
  h.debit _ _ _ _ _ _ _

/-! ## Readings -/

/-- The status of an LCSC event. -/
def lcscStatus (eventData : String) : ℤ := lastRead stoi "msgStatus" (-101) (pairs eventData)

/-- The status of a UPOS event. -/
def uptStatus (eventData : String) : ℕ :=
  lastRead (fun value => (stoull value).map (· % 2 ^ 32)) "msgStatus" 8 (pairs eventData)

/-- A message of the CHU that can be read: its command, its result and its values. -/
def chuReply (eventData : String) : Option (ℤ × ℤ × List String) := do
  let fields := parseData '[' ']' '|' eventData
  if fields.length < 4 then none
  else
    let rxcmd ← stoi (fields.getD 2 "")
    let tmpStr := split ',' (fields.getD 3 "")
    if tmpStr.length = 0 then none
    else
      let iRC ← stoi (tmpStr.getD 0 "")
      pure (rxcmd, iRC, tmpStr)

/-- What a device tells `CheckIUorCardStatus`. -/
structure CardRead where
  sCheckNo : String
  iDevicetype : DeviceType
  sCardNo : String
  sCardBal : ℚ

/-- `CheckIUorCardStatus` is told. -/
abbrev check (enableCashcard : Bool → Op Unit) (r : CardRead) (sCardType : ℤ) : Op Unit :=
  checkIUorCardStatus enableCashcard r.sCheckNo r.iDevicetype r.sCardNo sCardType r.sCardBal

/-- The read that an event reports.  EEP reports a balance in cents, the others in dollars. -/
def cardRead : Event → Option CardRead
  | .lcsc eventData =>
      if lcscStatus eventData = 4 then
        (stof (lastText "cardBalance" (pairs eventData))).map fun balance =>
          ⟨lastText "CAN" (pairs eventData), .LCSC, lastText "CAN" (pairs eventData), balance / 100⟩
      else none
  | .upt .CARD_DETECT_REQUEST eventData =>
      if uptStatus eventData = 0 then
        (allRead stof "cardBalance" 0 (pairs eventData)).map fun balance =>
          ⟨lastText "cardCan" (pairs eventData), .UPOS, lastText "cardCan" (pairs eventData),
            roundHalfAway balance / 100⟩
      else none
  | .eep ⟨_, _, .OBU_INFORMATION_NOTIFICATION info⟩ =>
      some ⟨longToHex info.obulabel, .EEP, eepCardNo info.can, info.cardBalance⟩
  | .chu eventData =>
      match chuReply eventData with
      | some (101, iRC, tmpStr) =>
          if iRC = 14 ∨ iRC = 15 then
            (stof (tmpStr.getD 4 "")).map fun balance =>
              ⟨tmpStr.getD 2 "", .CHU, if iRC = 14 then tmpStr.getD 3 "" else "", balance / 100⟩
          else none
      | _ => none
  | _ => none

/-- The antenna reports no card. -/
theorem ne_ant_of_cardRead {event : Event} {r : CardRead} (hr : cardRead event = some r) :
    r.iDevicetype ≠ .Ant := by
  have hmap {cents : Option ℚ} {told : ℚ → CardRead} (htold : ∀ c, (told c).iDevicetype ≠ .Ant)
      (h : cents.map told = some r) : r.iDevicetype ≠ .Ant := by
    obtain ⟨c, -, rfl⟩ := Option.map_eq_some_iff.mp h
    exact htold c
  unfold cardRead at hr
  split at hr
  · split at hr
    · exact hmap (fun _ => by rintro ⟨⟩) hr
    · cases hr
  · split at hr
    · exact hmap (fun _ => by rintro ⟨⟩) hr
    · cases hr
  · cases hr
    nofun
  · split at hr
    · split at hr
      · exact hmap (fun _ => by rintro ⟨⟩) hr
      · cases hr
    · cases hr
  · cases hr

/-- What an event reports may be read. -/
class Checks (enableCashcard : Bool → Op Unit) (event : Event) (S Q : Station → Prop) : Prop where
  check : ∀ r, cardRead event = some r → ∀ sCardType, Leads S Q (check enableCashcard r sCardType)

/-! ## What the handlers write -/

/-- The handlers may set the state of the deduction. -/
class Statuses (S : Station → Prop) : Prop where
  status : ∀ status, Leads S S (setStatus status)

instance [h : Statuses S] (status : EProcessStatus) : Leads S S (setStatus status) :=
  h.status status

/-- The handlers may write into the lane what an exit is known by. -/
class Updates (S : Station → Prop) : Prop extends Statuses S where
  vehicle : ∀ sIUNo, Leads S S (setVehicle sIUNo)
  plate : ∀ sLPN0, Leads S S (modify fun s => { s with tExit.sLPN0 := sLPN0 } : Op Unit)
  tailgate : ∀ obu, Leads S S
    (modify fun s => { s with tProcess.gsTailgateOBU := obu } : Op Unit)
  transID : ∀ gsTransID : Station → String, Leads S S
    (modify fun s => { s with tProcess.gsTransID := gsTransID s } : Op Unit)
  paras : ∀ tParas, Leads S S (modify fun s => { s with tParas := tParas } : Op Unit)
  forget : Leads S S (modify fun s => { s with tProcess.gsLastCardNo := "" } : Op Unit)

instance [h : Updates S] (sIUNo : String) : Leads S S (setVehicle sIUNo) := h.vehicle sIUNo

/-! ## Tickets -/

section Tickets

variable [Settled S] [Entails S Q]

instance [∀ bEnable, Leads S Q (enableCashcard bEnable)] [Settled Q] :
    Leads S Q (exitSub enableCashcard) := by
  unfold exitSub
  infer_instance

instance [Releases S Q] : Leads S Q closeMember := by
  unfold closeMember
  infer_instance

variable [Settled Q] [Releases S Q] [∀ bEnable, Leads S Q (enableCashcard bEnable)]

instance (sCardTkNo : String) (answer : BarCodeAnswer) :
    Leads S Q (redeemTicket enableCashcard sCardTkNo answer) := by
  unfold redeemTicket
  dsimp only
  infer_instance

variable [Updates S]

instance (sCardTkNo : String) : Leads S Q (complimentaryTicket enableCashcard sCardTkNo) := by
  unfold complimentaryTicket
  dsimp only
  infer_instance

instance (skeyedNo : String) (ticket : TicketNo) :
    Leads S Q (useTicket enableCashcard skeyedNo ticket) := by
  unfold useTicket
  dsimp only
  infer_instance

instance [∀ bEnable, Leads S S (enableCashcard bEnable)] (skeyedNo : String) :
    Leads S Q (ticketScan enableCashcard skeyedNo) := by
  unfold ticketScan
  infer_instance

end Tickets

/-! ## Card readers -/

section Readers

variable [Settled S] [Settled Q] [Entails S Q] [Statuses S]
  [∀ bEnable, Leads S Q (enableCashcard bEnable)]

instance : Leads S Q (retryLCSCLastCommand enableCashcard) := by
  unfold retryLCSCLastCommand
  dsimp only
  infer_instance

instance (status : EProcessStatus) (reason : String) :
    Leads S Q (cardRejected enableCashcard status reason) := by
  unfold cardRejected
  infer_instance

omit [Settled Q] [Statuses S]
  [∀ bEnable, Leads S Q (enableCashcard bEnable)] in
instance (sCardNo : String) : Leads S Q (wrongCardNo sCardNo) := by
  unfold wrongCardNo
  infer_instance

end Readers

section LCSC

variable [Entails S Q]

/-- An exit takes no card numbers. -/
instance [h : AtExit S] (sCardNo : String) : Leads S Q (lcscCardID enableCashcard sCardNo) where
  leads s hs := by
    unfold lcscCardID
    rw [after_get_bind, if_pos (h.atExit s hs)]
    exact Entails.entails s hs

variable [Settled S]

instance [Debits S Q] (sCardNo sBalanceAfterTrans : String) :
    Leads S Q (lcscDeducted sCardNo sBalanceAfterTrans) := by
  unfold lcscDeducted
  infer_instance

variable {eventData : String}

/-- An LCSC event that reports the balance of a card. -/
theorem lcscBalance_leads [∀ bEnable, Leads S S (enableCashcard bEnable)]
    [hchecks : Checks enableCashcard (.lcsc eventData) S Q] (hstatus : lcscStatus eventData = 4) :
    Leads S Q (lcscBalance enableCashcard (lastText "CAN" (pairs eventData))
      (lastText "cardBalance" (pairs eventData))) := by
  have hcheck := hchecks.check
  simp only [cardRead, if_pos hstatus] at hcheck
  unfold lcscBalance
  cases hbalance : CxxText.stof (lastText "cardBalance" (pairs eventData)) with
  | none =>
      simp only [orThrow_none, throw_bind]
      infer_instance
  | some balance =>
      have := hcheck _ (by rw [hbalance, Option.map_some]) 1
      simp only [orThrow_some, pure_bind]
      infer_instance

/-- An LCSC event reports a balance or a deduction, or it does not close the exit. -/
theorem processLCSC_leads [AtExit S] [Settled Q] [Statuses S]
    [∀ bEnable, Leads S Q (enableCashcard bEnable)]
    (hbalance : lcscStatus eventData = 4 → Leads S Q (lcscBalance enableCashcard
      (lastText "CAN" (pairs eventData)) (lastText "cardBalance" (pairs eventData))))
    (hdeducted : lcscStatus eventData = 6 → Leads S Q (lcscDeducted
      (lastText "CAN" (pairs eventData)) (lastText "BalanceAfterTrans" (pairs eventData)))) :
    Leads S Q (processLCSC enableCashcard eventData) := by
  unfold lcscStatus at hbalance hdeducted
  unfold processLCSC
  dsimp only
  by_cases h4 : lastRead CxxText.stoi "msgStatus" (-101) (pairs eventData) = 4
  · have hread := hbalance h4
    simp only [h4]
    exact hread
  by_cases h6 : lastRead CxxText.stoi "msgStatus" (-101) (pairs eventData) = 6
  · have hdebit := hdeducted h6
    simp only [h6]
    exact hdebit
  · simp only [if_neg h4, if_neg h6]
    infer_instance

end LCSC

section UPT

variable [Settled S] [Settled Q] [Entails S Q]

instance [Debits S Q] (event : List (String × String)) : Leads S Q (uptPaid event) := by
  unfold uptPaid
  infer_instance

instance (m : Op Unit) [Leads S Q m] : Leads S Q (catchException m) := by
  unfold catchException
  infer_instance

variable {eventData : String}

omit [Settled Q] in
/-- A UPOS event that reports a card. -/
theorem uptCardDetected_leads
    [hchecks : Checks enableCashcard (.upt .CARD_DETECT_REQUEST eventData) S Q]
    (hstatus : uptStatus eventData = 0) :
    Leads S Q (uptCardDetected enableCashcard (pairs eventData)) := by
  have hcheck := hchecks.check
  simp only [cardRead, if_pos hstatus] at hcheck
  unfold uptCardDetected
  cases hbalance : allRead CxxText.stof "cardBalance" 0 (pairs eventData) with
  | none =>
      simp only [orThrow_none, throw_bind]
      infer_instance
  | some balance =>
      have := hcheck _ (by rw [hbalance, Option.map_some])
      simp only [orThrow_some, pure_bind]
      infer_instance

/-- A UPOS event reports a card or a payment, or it does not close the exit. -/
theorem processUPT_leads [Statuses S] [∀ bEnable, Leads S Q (enableCashcard bEnable)]
    [∀ sPaidAmt, Leads S Q (debitfromReader "" sPaidAmt .UPOS 0 0)] {cmd : UptCmd}
    (hdetected : cmd = .CARD_DETECT_REQUEST → uptStatus eventData = 0 →
      Leads S Q (uptCardDetected enableCashcard (pairs eventData)))
    (hpaid : cmd = .PAYMENT_MODE_AUTO_REQUEST → uptStatus eventData = 0 →
      Leads S Q (uptPaid (pairs eventData))) :
    Leads S Q (processUPT enableCashcard cmd eventData) := by
  unfold uptStatus at hdetected hpaid
  unfold processUPT uptPayment uptCardDetect
  dsimp only
  by_cases hzero : lastRead (fun value => (stoull value).map (· % 2 ^ 32)) "msgStatus" 8
      (pairs eventData) = 0
  · cases cmd with
    | CARD_DETECT_REQUEST =>
        have := hdetected rfl hzero
        simp only [hzero, if_true]
        infer_instance
    | PAYMENT_MODE_AUTO_REQUEST =>
        have := hpaid rfl hzero
        simp only [hzero, if_true, reduceCtorEq, if_false]
        infer_instance
    | other =>
        simp only [reduceCtorEq, if_false]
        infer_instance
  · simp only [if_neg hzero]
    infer_instance

end UPT

/-! ## EEP -/

section EEP

variable [Settled S] [Entails S Q]

instance [Debits S Q] (transData : TransactionData) : Leads S Q (eepDeducted transData) := by
  unfold eepDeducted
  infer_instance

instance [Debits S Q] (transData : TransactionData) : Leads S Q (eepSuccess transData) := by
  unfold eepSuccess
  infer_instance

instance [h : Updates S] [Releases S Q]
    (transData : TransactionData) : Leads S Q (eepRejectCode7 transData) := by
  have hvehicle : Leads S S (modify fun s => { s with
      tExit.sIUNo := decimalIntToHexString transData.obuLabel 5
      tExit.iEEPPaymentResult := transData.resultDeduction
      tExit.sCardNo := eepCardNo transData.can
      tExit.iCardType := if eepCardNo transData.can = "" then s.tExit.iCardType else 1 } :
      Op Unit) := by
    refine ⟨fun s hs => Settled.settled _ _ ?_
      ((h.vehicle (decimalIntToHexString transData.obuLabel 5)).leads s hs)⟩
    rfl
  unfold eepRejectCode7
  infer_instance

variable [Settled Q] [Statuses S]
  [∀ bEnable, Leads S Q (enableCashcard bEnable)]

instance (status : EProcessStatus) (reason : String) :
    Leads S Q (eepRefused enableCashcard status reason) := by
  unfold eepRefused
  dsimp only
  infer_instance

end EEP

instance [Settled S] [Settled Q] [Entails S Q] [Updates S] [Debits S Q] [Releases S Q]
    [∀ bEnable, Leads S Q (enableCashcard bEnable)] (transData : TransactionData) :
    Leads S Q (processEEPTransData enableCashcard transData) := by
  unfold processEEPTransData
  infer_instance

section OBU

variable [Settled S] [Entails S Q] [AtExit S] [h : Updates S] {event : EepEvent}
  {info : ObuInformation}

theorem processOUBInformation_leads [hchecks : Checks enableCashcard (.eep event) S Q]
    (hinfo : event.message = .OBU_INFORMATION_NOTIFICATION info) :
    Leads S Q (processOUBInformation enableCashcard info) := by
  have hcheck := hchecks.check
  obtain ⟨cmd, messageStatus, message⟩ := event
  simp only at hinfo
  subst hinfo
  simp only [cardRead, Option.some.injEq, forall_eq'] at hcheck
  have htailgate := h.tailgate ""
  have htake : Leads S S
      (modify fun s => { s with tExit := takeObuInformation info s.tExit } : Op Unit) := by
    refine ⟨fun s hs => Settled.settled _ _ ?_ ((h.plate info.vechicleNumber).leads s hs)⟩
    rfl
  have hexit : Leads S Q (do
      modify fun s => { s with tExit := takeObuInformation info s.tExit }
      let s ← get
      if s.tExit.iEEPPaymentResult = 5 ∧ s.tExit.sDSerialNo ≠ "" then
        send (.transactionReq (longToHex info.obulabel) s.tExit.sDSerialNo)
      else
        checkIUorCardStatus enableCashcard (longToHex info.obulabel) .EEP s.tExit.sCardNo 1
          info.cardBalance) := by
    have hquiet (message : Message) : Leads S Q (send message) := inferInstance
    constructor
    intro s hs
    have hs' := htake.leads s hs
    rw [after_modify_bind, after_get_bind, after_ite]
    split
    · exact (hquiet _).leads _ hs'
    · exact (hcheck 1).leads _ hs'
  unfold processOUBInformation
  dsimp only at hexit ⊢
  infer_instance

omit [AtExit S] in
theorem eepTailgate_leads (hprocess : Leads S Q (processOUBInformation enableCashcard info)) :
    Leads S Q (eepTailgate enableCashcard info) := by
  have htailgate : Leads S Q (modify fun s => { s with
      tProcess.gsTailgateOBU := longToHex info.obulabel } : Op Unit) :=
    ⟨fun s hs => Entails.entails _ ((h.tailgate _).leads s hs)⟩
  unfold eepTailgate
  dsimp only
  infer_instance

omit [AtExit S] h in
theorem eepObuInformation_leads [∀ bEnable, Leads S S (enableCashcard bEnable)]
    (hprocess : Leads S Q (processOUBInformation enableCashcard info)) (message : EepMessage) :
    Leads S Q (eepObuInformation enableCashcard message info) := by
  unfold eepObuInformation endCommand
  infer_instance

end OBU

section EEP

variable [Settled S] [Settled Q] [Entails S Q] [∀ bEnable, Leads S Q (enableCashcard bEnable)]

instance [Statuses S] (cmd : CommandType) (messageStatus : EepStatus) :
    Leads S Q (eepFailure enableCashcard cmd messageStatus) := by
  unfold eepFailure
  infer_instance

omit [∀ bEnable, Leads S Q (enableCashcard bEnable)] in
/-- An EEP event reports an OBU or a transaction, or it does not close the exit. -/
theorem processEEP_leads {event : EepEvent}
    (hobu : ∀ info, event.message = .OBU_INFORMATION_NOTIFICATION info →
      Leads S Q (eepTailgate enableCashcard info) ∧
        Leads S Q (eepObuInformation enableCashcard event.message info))
    (hdata : ∀ transData, event.message = .TRANSACTION_DATA transData →
      Leads S Q (processEEPTransData enableCashcard transData))
    (hfailure : Leads S Q (eepFailure enableCashcard event.commandReqType event.messageStatus)) :
    Leads S Q (processEEP enableCashcard event) := by
  have hnotification : Leads S Q (eepNotification enableCashcard event.message) := by
    unfold eepNotification
    split
    · exact hdata _ ‹_›
    · exact (hobu _ ‹_›).1
    · infer_instance
  have hresponse : Leads S Q (eepResponse enableCashcard event.commandReqType event.message) := by
    unfold eepResponse endCommand
    split
    · rename_i hmessage
      rw [hmessage] at hobu ⊢
      exact (hobu _ rfl).2
    · have := hdata _ ‹_›
      infer_instance
    · have := hdata _ ‹_›
      infer_instance
    · infer_instance
    · infer_instance
  unfold processEEP
  infer_instance

end EEP

/-! ## CHU -/

section CHU

variable [Settled S] [Entails S Q]

instance (tmpStr : List String) (i : ℕ) {view : Station → Lane} : Frames view (chuAmount tmpStr i) := by
  unfold chuAmount
  infer_instance

instance [Debits S Q] (tmpStr : List String) : Leads S Q (chuDebitOK tmpStr) := by
  unfold chuDebitOK
  infer_instance

section Codes

variable [h : Updates S] [∀ bEnable, Leads S Q (enableCashcard bEnable)]

instance [Settled Q] [Debits S Q] (tmpStr : List String) (l4 r4 : String) :
    Leads S Q (chuErrorCode enableCashcard tmpStr l4 r4) := by
  have hforget : Leads S S (modify fun s => { s with
      tExit.giDeductionStatus := .InsufficientBalance, tProcess.gsLastCardNo := "" } : Op Unit) :=
    ⟨fun s hs => h.forget.leads _ ((h.status .InsufficientBalance).leads s hs)⟩
  unfold chuErrorCode
  infer_instance

instance [Settled Q] [Debits S Q] (tmpStr : List String) :
    Leads S Q (chuDebitFail enableCashcard tmpStr) := by
  unfold chuDebitFail
  infer_instance

/-- The error code of a failed debit says that it has been reversed. -/
def reversedCode (tmpStr : List String) : Prop := substr (tmpStr.getD 6 "") 5 8 = some "0004"

end Codes

section Inquiries

variable [h : Updates S] {eventData : String} [hchecks : Checks enableCashcard (.chu eventData) S Q]

/-- The answer to an inquiry: the vehicle and its card are taken over and checked. -/
theorem chuInquired_leads {iRC : ℤ} {tmpStr : List String}
    (hreply : chuReply eventData = some (101, iRC, tmpStr)) :
    Leads S Q (chuInquired enableCashcard iRC tmpStr) := by
  have hcheck := hchecks.check
  simp only [cardRead, hreply] at hcheck
  unfold chuInquired
  by_cases hlength : tmpStr.length ≤ 5
  · simp only [index_of_le hlength, throw_bind]
    infer_instance
  rw [not_le] at hlength
  rw [index_of_lt (show 1 < tmpStr.length by omega), index_of_lt (show 2 < tmpStr.length by omega),
    index_of_lt (show 3 < tmpStr.length by omega), index_of_lt (show 4 < tmpStr.length by omega),
    index_of_lt hlength]
  simp only [pure_bind]
  cases htype : CxxText.stoi (tmpStr.getD 5 "") with
  | none =>
      simp only [orThrow_none, throw_bind]
      infer_instance
  | some cardType =>
      cases hbalance : CxxText.stof (tmpStr.getD 4 "") with
      | none =>
          simp only [orThrow_none, throw_bind, orThrow_some, pure_bind]
          infer_instance
      | some balance =>
          simp only [orThrow_some, pure_bind]
          have hvehicle (sCardNo : String) (iCardStatus : ℤ) : Leads S S (modify fun s => { s with
              tExit.sIUNo := tmpStr.getD 2 ""
              tExit.sCardNo := sCardNo
              tExit.iCardStatus := iCardStatus } : Op Unit) := by
            refine ⟨fun s hs => Settled.settled _ _ ?_ ((h.vehicle (tmpStr.getD 2 "")).leads s hs)⟩
            rfl
          have hread : iRC = 14 ∨ iRC = 15 → Leads S Q (do
              modify fun s => { s with tExit.sIUNo := tmpStr.getD 2 "" }
              if iRC = 14 then
                modify fun s => { s with
                  tExit.sCardNo := tmpStr.getD 3 "", tExit.iCardStatus := 0 }
              else
                modify fun s => { s with tExit.sCardNo := "", tExit.iCardStatus := 1 }
              let s ← get
              checkIUorCardStatus enableCashcard s.tExit.sIUNo .CHU s.tExit.sCardNo cardType
                (balance / 100) : Op Unit) := by
            intro hiRC
            simp only [if_pos hiRC, hbalance, Option.map_some, Option.some.injEq, forall_eq'] at hcheck
            constructor
            intro s hs
            by_cases h14 : iRC = 14
            · simp only [if_pos h14, after_modify_bind, after_get_bind] at hcheck ⊢
              exact (hcheck cardType).leads _ ((hvehicle (tmpStr.getD 3 "") 0).leads s hs)
            · simp only [if_neg h14, after_modify_bind, after_get_bind] at hcheck ⊢
              exact (hcheck cardType).leads _ ((hvehicle "" 1).leads s hs)
          by_cases hiRC : iRC = 14 ∨ iRC = 15
          · have := hread hiRC
            infer_instance
          · simp only [if_neg hiRC]
            infer_instance

end Inquiries

section Messages

variable {eventData : String}

/-- A message of the CHU is an answer to an inquiry, or it reports a debit. -/
theorem processCHU_of_reply
    (hinquired : ∀ iRC tmpStr, chuReply eventData = some (101, iRC, tmpStr) →
      Leads S Q (chuInquired enableCashcard iRC tmpStr))
    (hdebit : ∀ iRC tmpStr, chuReply eventData = some (103, iRC, tmpStr) →
      Leads S Q (chuDebited enableCashcard iRC tmpStr) ∧
        (iRC = 12 → Leads S Q (chuLateDebit tmpStr))) :
    Leads S Q (processCHU enableCashcard eventData) := by
  unfold chuReply at hinquired hdebit
  unfold processCHU
  dsimp only at hinquired hdebit ⊢
  by_cases hfields : (parseData '[' ']' '|' eventData).length < 4
  · simp only [if_pos hfields]
    infer_instance
  simp only [if_neg hfields] at hinquired hdebit ⊢
  cases hrxcmd : stoi ((parseData '[' ']' '|' eventData).getD 2 "") with
  | none =>
      simp only [orThrow_none, throw_bind]
      infer_instance
  | some rxcmd =>
      generalize split ',' ((parseData '[' ']' '|' eventData).getD 3 "") = tmpStr
        at hinquired hdebit ⊢
      rcases Nat.eq_zero_or_pos tmpStr.length with hempty | hlength
      · rw [index_of_le hempty.le]
        simp only [orThrow_some, pure_bind, throw_bind]
        infer_instance
      · rw [index_of_lt hlength]
        simp only [orThrow_some, pure_bind]
        cases hiRC : stoi (tmpStr.getD 0 "") with
        | none =>
            simp only [orThrow_none, throw_bind]
            infer_instance
        | some iRC =>
            simp only [orThrow_some, pure_bind]
            by_cases h103 : rxcmd = 103
            · obtain ⟨hdebited, hlate⟩ := hdebit iRC tmpStr (by
                simp only [hrxcmd, hiRC, h103, bind, pure, Option.bind_some, if_neg hlength.ne'])
              have h101 : rxcmd ≠ 101 := by omega
              by_cases h12 : iRC = 12
              · have := hlate h12
                simp only [if_neg h101]
                infer_instance
              · simp only [if_neg h101, h12, and_false, if_false]
                infer_instance
            · simp only [h103, false_and, if_false]
              by_cases h101 : rxcmd = 101
              · have := hinquired iRC tmpStr (by
                  simp only [hrxcmd, hiRC, h101, bind, pure, Option.bind_some, if_neg hlength.ne'])
                infer_instance
              · simp only [if_neg h101]
                infer_instance

variable [Updates S]

variable [Settled Q] [∀ bEnable, Leads S Q (enableCashcard bEnable)]

/-- What reports a debit: a debit, or one that has failed and was reversed. -/
def ReportsDebit (tParas : TParas) (iRC : ℤ) (tmpStr : List String) : Prop :=
  iRC = 12 ∨ (iRC = 13 ∧ reversedCode tmpStr ∧ tParas.giProcessReversedCMD = 0)

instance [Debits S Q] [Leads S S updateExit] [Checks enableCashcard (.chu eventData) S Q] :
    Leads S Q (processCHU enableCashcard eventData) := by
  refine processCHU_of_reply (fun _ _ => chuInquired_leads) fun iRC tmpStr _ => ⟨?_, fun _ => ?_⟩
  · unfold chuDebited
    infer_instance
  · unfold chuLateDebit
    dsimp only
    infer_instance

end Messages

end CHU

/-! ## The loops and the barrier -/

section Loops

variable [Settled S] [Entails S Q]

instance [∀ bEnable, Leads S S (enableCashcard bEnable)] [Releases S Q] :
    Leads S Q (closeLeavingMember enableCashcard) := by
  unfold closeLeavingMember
  infer_instance

instance [AtExit S] [Settled Q] [Leads S Q (closeLeavingMember enableCashcard)]
    [∀ bEnable, Leads Q Q (enableCashcard bEnable)] : Leads S Q (loopAGone enableCashcard) := by
  have hgone : Leads S Q (do
      if (← get).tExit.sIUNo = "" then send .antennaStopRead
      closeLeavingMember enableCashcard) := by
    infer_instance
  unfold loopAGone
  dsimp only
  infer_instance

variable [h : Updates S] [Leads S S clearme] [∀ bEnable, Leads S Q (enableCashcard bEnable)]

instance : Leads S Q (loopACome enableCashcard) := by
  have htailgate := h.tailgate ""
  have htransID (nowDigits : String) := h.transID fun s =>
    s.tParas.gscarparkcode ++ "-" ++ toString s.gtStation.iSID ++ "-" ++ nowDigits
  unfold loopACome
  infer_instance

instance : Leads S Q (loopCGone enableCashcard) := by
  unfold loopCGone
  dsimp only
  infer_instance

instance [∀ bEnable, Leads S S (enableCashcard bEnable)] :
    Leads S Q (loopATimeoutHandler enableCashcard) := by
  unfold loopATimeoutHandler
  infer_instance

end Loops

/-- No vehicle has entered. -/
class NoEntries (S : Station → Prop) : Prop where
  noEntry : ∀ s, S s → s.tEntry.sIUTKNo = ""

section Barrier

variable [Settled S] [Entails S Q] [AtExit S] [hnone : NoEntries S]

/-- The test of `ManualOpenBarrier` is about a vehicle that has entered. -/
instance [∀ iReason, Leads S Q (openbarrier iReason)] : Leads S Q manualOpenExit where
  leads s hs := by
    unfold manualOpenExit
    dsimp only
    rw [after_get_bind, if_neg (not_not.mpr (hnone.noEntry s hs))]
    exact Leads.leads s hs

instance [Leads S Q manualOpenExit] : Leads S Q manualOpenBarrier where
  leads s hs := by
    unfold manualOpenBarrier
    dsimp only
    rw [after_get_bind, if_neg (fun hentry => AtExit.not_entry hs hentry.1)]
    exact Leads.leads s hs

end Barrier

/-! ## The other events -/

section Events

variable [Settled S] [Entails S Q]

instance [Leads S Q (loopACome enableCashcard)] [Leads S Q (loopAGone enableCashcard)]
    [Leads S Q (loopCGone enableCashcard)] [Leads S Q manualOpenBarrier] (event : DioEvent) :
    Leads S Q (handleDioEvent enableCashcard event) := by
  unfold handleDioEvent
  split <;> infer_instance

instance [Settled Q] [∀ bEnable, Leads S Q (enableCashcard bEnable)] (errorCode : ℤ) :
    Leads S Q (handleAntennaFail enableCashcard errorCode) := by
  unfold handleAntennaFail
  dsimp only
  infer_instance

instance : Leads S Q ksmCardIn := by
  unfold ksmCardIn
  infer_instance

variable [AtExit S]

instance [∀ sNo, Leads S Q (vehicleCome enableCashcard sNo)] (iuNo : String) :
    Leads S Q (handleAntennaIUCome enableCashcard iuNo) where
  leads s hs := by
    unfold handleAntennaIUCome
    rw [after_ask_bind, after_get_bind, if_neg (fun hentry => AtExit.not_entry hs hentry.2.2.2)]
    refine Leads.leads (P := S) _ ?_
    exact Settled.settled s _ rfl hs

instance [∀ sNo, Leads S Q (vehicleCome enableCashcard sNo)] (sKSMCardNo : String) :
    Leads S Q (ksmCardInfo enableCashcard sKSMCardNo) := by
  unfold ksmCardInfo
  infer_instance

instance : Leads S Q (ksmCardTakeAway enableCashcard) where
  leads s hs := by
    unfold ksmCardTakeAway
    rw [after_modify_bind, after_get_bind, if_neg (fun hentry => AtExit.not_entry hs hentry.1)]
    refine Entails.entails (P := S) _ ?_
    exact Settled.settled s _ rfl hs

instance [h : Updates S] (LPN sTransid : String) : Leads S Q (receivedLPR LPN sTransid) := by
  have hplate : Leads S S
      (modify fun s => { s with tExit.sLPN0 := LPN, tExit.sLPN1 := LPN } : Op Unit) := by
    refine ⟨fun s hs => Settled.settled _ _ ?_ ((h.plate LPN).leads s hs)⟩
    rfl
  unfold receivedLPR
  dsimp only
  infer_instance

instance [Updates S] [Releases S Q] [∀ bEnable, Leads S Q (enableCashcard bEnable)] :
    Leads S Q (receivedEntryRecord enableCashcard) := by
  unfold receivedEntryRecord
  dsimp only
  infer_instance

instance [Leads S Q (receivedEntryRecord enableCashcard)] (data : String) :
    Leads S Q (timeForNoEntry enableCashcard data) := by
  unfold timeForNoEntry
  dsimp only
  infer_instance

instance [hnone : NoEntries S] (data : String) : Leads S Q (setCarparkFull data) := by
  have hknown : Leads S Q (do
      let iuNumber := (← get).tEntry.sIUTKNo
      if (← ask Env.gbLoopApresent) then
        if iuNumber ≠ "" then pbsEntry iuNumber) := by
    constructor
    intro s hs
    dsimp only
    rw [after_get_bind, hnone.noEntry s hs]
    have hquiet : Leads S Q (do
        if (← ask Env.gbLoopApresent) then
          if "" ≠ "" then pbsEntry "") := by
      simp only [ne_eq, not_true_eq_false, if_false]
      infer_instance
    exact hquiet.leads s hs
  unfold setCarparkFull
  dsimp only at hknown ⊢
  infer_instance

instance [Settled Q] [h : Updates S] [NoEntries S] [Leads S Q manualOpenBarrier]
    [∀ data, Leads S Q (timeForNoEntry enableCashcard data)] (command : UdpRxCommand)
    (data : String) : Leads S Q (processPms enableCashcard command data) := by
  have hparas (tParas : TParas) :
      Leads S Q (modify fun s => { s with tParas := tParas } : Op Unit) :=
    ⟨fun s hs => Entails.entails _ ((h.paras tParas).leads s hs)⟩
  unfold processPms
  split <;> infer_instance

end Events

/-! ## Every event -/

section HandleEvent

variable {I : Station → Prop} [Settled I] [AtExit I] [NoEntries I] [Updates I] [Releases I I]
  [Debits I I] [Leads I I clearme] [Leads I I updateExit]
  [∀ iReason, Leads I I (openbarrier iReason)] [∀ bEnable, Leads I I (enableCashcard bEnable)]
  [∀ sNo, Leads I I (vehicleCome enableCashcard sNo)]
  [∀ sPaidAmt, Leads I I (debitfromReader "" sPaidAmt .UPOS 0 0)]

/-- A property that every act keeps, every event keeps. -/
theorem handleEvent_leads (event : Event) [Checks enableCashcard event I I] :
    Leads I I (handleEvent enableCashcard event) := by
  unfold handleEvent
  cases event with
  | lcsc eventData =>
      exact processLCSC_leads (fun hstatus => lcscBalance_leads hstatus) fun _ => inferInstance
  | upt cmd eventData =>
      refine processUPT_leads ?_ fun _ _ => inferInstance
      rintro rfl hstatus
      exact uptCardDetected_leads hstatus
  | eep event =>
      refine processEEP_leads (fun info hinfo => ?_) (fun _ _ => inferInstance) inferInstance
      have hprocess : Leads I I (processOUBInformation enableCashcard info) :=
        processOUBInformation_leads hinfo
      exact ⟨eepTailgate_leads hprocess, eepObuInformation_leads hprocess event.message⟩
  | antennaFail errorCode => infer_instance
  | antennaIUCome iuNo => infer_instance
  | dio event => infer_instance
  | ksmCardIn => infer_instance
  | ksmCardTakeAway => infer_instance
  | ksmCardInfo cardNo => infer_instance
  | lprReceive LPN sTransid => infer_instance
  | barcodeReceived sBarcodedata => infer_instance
  | chu eventData => infer_instance
  | pms command data => infer_instance
  | loopATimeout => infer_instance

end HandleEvent

end LinuxPBS.Operation
