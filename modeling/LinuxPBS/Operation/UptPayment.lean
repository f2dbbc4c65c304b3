import LinuxPBS.Upt.Payment
import LinuxPBS.Operation.Closing

/-!
# From the payment message to `DebitOK`

The terminal's answer to a payment becomes a text in the UPT module
(`Upt.paymentEvent`), and the operation takes the text apart again in `processUPT`.
`debitsOnce_iff` says for which answers `DebitOK` is called, once and with the amount
that was paid.  Three things can go wrong between the message and the call:

* the fee stays hexadecimal when the balance cannot be converted, and is then read as
  a decimal number;
* a card type that is no number makes `stoi` throw before `DebitOK` is reached;
* an amount of more than 2^24 cents may lose a cent in the `float` of `SetFeeFormat`.

A value with a comma puts further pairs into the text; `Undisturbed` says that none
of them has a name the operation looks for.
-/

set_option synthInstance.maxSize 10000

namespace LinuxPBS.Operation

open Handler CxxText Common Db

/-! ## The calls of `DebitOK` -/

/-- The device and the amount of a `DebitOK`. -/
def Call.debit : Call → Option (DeviceType × String)
  | .debitOK iDevicetype sPaidAmt => some (iDevicetype, sPaidAmt)
  | _ => none

/-- The calls of `DebitOK`, the last one first. -/
@[reducible] def debits (s : Station) : List (DeviceType × String) := s.calls.filterMap Call.debit

theorem frames_call {c : Call} (hother : c.debit = none) : Frames debits (call c) where
  frames _ := List.filterMap_cons_none hother

instance (iStatus : TransType) (tExit : TExit) (gfGSTRate : ℚ) :
    Frames debits (call (.closeExitOperation iStatus tExit gfGSTRate)) := frames_call rfl

instance (tExit : TExitTrans) (ret : DBError) :
    Frames debits (call (.insertexittrans tExit ret)) := frames_call rfl

instance (iReason : ℤ) : Frames debits (call (.openBarrier iReason)) := frames_call rfl

instance : Frames debits (call .clearme) := frames_call rfl

instance : Frames debits insertexittrans where
  frames _ := rfl

instance (iRet : DBError) : Frames debits (followUp iRet) := by
  unfold followUp
  dsimp only
  infer_instance

instance (iRet : DBError) : Frames debits (reportExit iRet) := by
  unfold reportExit
  dsimp only
  infer_instance

instance : Frames debits printReceipt := by
  unfold printReceipt
  infer_instance

instance : Frames debits saveExit := by
  unfold saveExit
  infer_instance

instance : Frames debits clearme := by
  unfold clearme
  infer_instance

instance (delay : ℕ) : Frames debits (eepInq delay) := by
  unfold eepInq
  infer_instance

instance (obu : String) : Frames debits (sendMsg2OBU obu) := by
  unfold sendMsg2OBU
  infer_instance

instance (processingResult : ℤ) : Frames debits (endEEPprocess processingResult) := by
  unfold endEEPprocess
  dsimp only
  infer_instance

instance (reason : ℤ) : Frames debits (openbarrier reason) := by
  unfold openbarrier
  infer_instance

instance (iStatus : TransType) : Frames debits (closeExitOperation iStatus) := by
  unfold closeExitOperation
  infer_instance

/-- `DebitOK` is called when it is called. -/
theorem debits_debitOK (sIUNO sCardNo sPaidAmt sBal : String) (iCardType : ℤ) (sTopupAmt : String)
    (iDevicetype : DeviceType) (s : Station) :
    debits (after (debitOK sIUNO sCardNo sPaidAmt sBal iCardType sTopupAmt iDevicetype) s) =
      (iDevicetype, sPaidAmt) :: debits s := by
  unfold debitOK
  rw [after_call_bind, Frames.after_eq debits]
  rfl

/-- What has to be read in the text of a payment. -/
structure ReadsAs (event : List (String × String)) (amount : String) : Prop where
  fee : ∃ card_fee, centsOf "cardFee" event = some card_fee ∧
    setFeeFormat (toFloat ((card_fee : ℚ) / 100)) = amount
  balance : (centsOf "cardBalance" event).isSome = true
  cardType : (stoi (lastText "cardType" event)).isSome = true

/-- A payment with a card number reaches `DebitOK` exactly when its text can be read. -/
theorem debits_uptPaid {event : List (String × String)} (hcan : lastText "cardCan" event ≠ "")
    (amount : String) (s : Station) :
    debits (after (uptPaid event) s) = (.UPOS, amount) :: debits s ↔ ReadsAs event amount := by
  have hnever : debits s ≠ (.UPOS, amount) :: debits s := fun h =>
    absurd (congrArg List.length h) (by simp)
  unfold uptPaid
  cases hfee : centsOf "cardFee" event with
  | none =>
      rw [orThrow_none, throw_bind, after_throw]
      refine iff_of_false hnever ?_
      rintro ⟨⟨card_fee, hsome, -⟩, -, -⟩
      rw [hfee] at hsome
      cases hsome
  | some card_fee =>
      rw [orThrow_some, pure_bind]
      cases hbalance : centsOf "cardBalance" event with
      | none =>
          rw [orThrow_none, throw_bind, after_throw]
          refine iff_of_false hnever ?_
          rintro ⟨-, hsome, -⟩
          rw [hbalance] at hsome
          cases hsome
      | some card_balance =>
          rw [orThrow_some, pure_bind, after_get_bind]
          dsimp only
          cases htype : stoi (lastText "cardType" event) with
          | none =>
              rw [orThrow_none, throw_bind, after_throw]
              refine iff_of_false hnever ?_
              rintro ⟨-, -, hsome⟩
              rw [htype] at hsome
              cases hsome
          | some card_type =>
              rw [orThrow_some, pure_bind, debits_debitOK, if_neg hcan]
              constructor
              · intro h
                have hamount := congrArg Prod.snd (List.cons.inj h).1
                exact ⟨⟨card_fee, hfee, hamount⟩, by rw [hbalance]; rfl, by rw [htype]; rfl⟩
              · rintro ⟨⟨other, hother, hamount⟩, -, -⟩
                rw [hfee] at hother
                obtain rfl := Option.some.inj hother
                rw [hamount]

/-! ## Readings of a text -/

/-- Only the pairs with the name matter. -/
theorem centsOf_filter (param : String) (event : List (String × String)) :
    centsOf param (event.filter fun pair => pair.1 = param) = centsOf param event := by
  have hread (found : ℕ) (event : List (String × String)) :
      allRead stoull param found (event.filter fun pair => pair.1 = param) =
        allRead stoull param found event := by
    induction event generalizing found with
    | nil => rfl
    | cons pair rest ih =>
        obtain ⟨name, value⟩ := pair
        by_cases hname : name = param
        · rw [List.filter_cons_of_pos (by simpa using hname)]
          simp only [allRead, if_pos hname]
          congr 1
          funext next
          exact ih next
        · rw [List.filter_cons_of_neg (by simpa using hname)]
          simp only [allRead, if_neg hname]
          exact ih found
  unfold centsOf
  rw [List.filter_filter, ← hread 0 (event.filter fun pair => pair.2 ≠ ""), List.filter_filter]
  congr 2
  funext pair
  exact Bool.and_comm _ _

theorem lastRead_filter {α : Type} (read : String → Option α) (param : String) (found : α)
    (event : List (String × String)) :
    lastRead read param found (event.filter fun pair => pair.1 = param) =
      lastRead read param found event := by
  induction event generalizing found with
  | nil => rfl
  | cons pair rest ih =>
      obtain ⟨name, value⟩ := pair
      by_cases hname : name = param
      · rw [List.filter_cons_of_pos (by simpa using hname)]
        simp only [lastRead, if_pos hname]
        cases read value with
        | none => rfl
        | some next => exact ih next
      · rw [List.filter_cons_of_neg (by simpa using hname)]
        simp only [lastRead, if_neg hname]
        exact ih found

/-! ## The pairs of a text -/

/-- The pair that a piece between commas is. -/
def pairOf (piece : List Char) : String × String :=
  (String.ofList (biteChars '=' piece).1, String.ofList (biteChars '=' piece).2)

/-- All pairs of a text, one behind a final comma included. -/
def allPairs (text : List Char) : List (String × String) := (splitChars ',' text).map pairOf

/-- A value up to its first comma. -/
def firstPiece (value : String) : String := String.ofList (value.toList.takeWhile (· ≠ ','))

/-- The pairs behind the first comma of a value. -/
def furtherPairs (value : String) : List (String × String) :=
  (splitChars ',' value.toList).tail.map pairOf

/-- The pairs that a name and a value put into a text. -/
def field (name value : String) : List (String × String) :=
  (name, firstPiece value) :: furtherPairs value

/-- A pair without a name is never looked for. -/
theorem filter_pairs {param : String} (hparam : param ≠ "") (text : String) :
    (pairs text).filter (fun pair => pair.1 = param) =
      (allPairs text.toList).filter fun pair => pair.1 = param := by
  have hlength : text.toList.length < text.length + 1 := by
    rw [String.length_toList]
    exact Nat.lt_succ_self _
  unfold allPairs
  rcases splitChars_eq_parseChars ',' hlength with h | h
  · rw [h]
    rfl
  · have hempty : pairOf [] = ("", "") := rfl
    rw [h, List.map_append, List.filter_append, List.map_singleton, hempty,
      List.filter_cons_of_neg (by simpa using hparam.symm), List.filter_nil, List.append_nil]
    rfl

theorem allPairs_append (front back : List Char) :
    allPairs (front ++ ',' :: back) = allPairs front ++ allPairs back := by
  unfold allPairs
  rw [splitChars_append, List.map_append]

/-- What is in front of the first comma is in the first piece. -/
theorem splitChars_front {front : List Char} (hfront : ',' ∉ front) (text : List Char) :
    splitChars ',' (front ++ text) =
      (front ++ text.takeWhile (· ≠ ',')) :: (splitChars ',' text).tail := by
  induction front with
  | nil =>
      induction text with
      | nil => rfl
      | cons c text ih =>
          rw [List.nil_append] at ih ⊢
          unfold splitChars
          by_cases hc : c = ','
          · rw [if_pos hc, List.takeWhile_cons_of_neg (by simpa using hc)]
            rfl
          · rw [if_neg hc, ih, List.takeWhile_cons_of_pos (by simpa using hc)]
            rfl
  | cons c front ih =>
      rw [List.mem_cons, not_or] at hfront
      rw [List.cons_append, splitChars, if_neg (Ne.symm hfront.1), ih hfront.2]
      rfl

/-- A name with its value is a field. -/
theorem allPairs_field {name : String} (hcomma : ',' ∉ name.toList) (hequals : '=' ∉ name.toList)
    (value : String) : allPairs (name.toList ++ '=' :: value.toList) = field name value := by
  have hfront : ',' ∉ name.toList ++ ['='] := by
    simpa using hcomma
  have hall : ∀ c ∈ name.toList, decide (c ≠ '=') = true := fun c hc =>
    decide_eq_true fun heq => hequals (heq ▸ hc)
  have hsplit := splitChars_front hfront value.toList
  rw [List.append_assoc, List.append_assoc] at hsplit
  have hpair (rest : List Char) :
      pairOf (name.toList ++ ('=' :: rest)) = (name, String.ofList rest) := by
    unfold pairOf biteChars
    rw [List.takeWhile_append_of_pos hall, List.dropWhile_append_of_pos hall]
    simp
  unfold allPairs field furtherPairs firstPiece
  rw [show name.toList ++ '=' :: value.toList = name.toList ++ (['='] ++ value.toList) from rfl, hsplit,
    List.map_cons]
  congr 1
  exact hpair _

/-! ## The text of a payment -/

/-- The names `processUPT` looks for in the text of a payment. -/
def paymentNames : List String := ["msgStatus", "cardCan", "cardFee", "cardBalance", "cardType"]

/-- No value brings in a pair that is looked for, and the card number does not start with a comma. -/
structure Undisturbed (texts : Upt.PaymentTexts) : Prop where
  can : firstPiece texts.cardCan ≠ ""
  names : ∀ value ∈ [texts.msgStatus, texts.cardCan, texts.cardFee, texts.cardBalance,
    texts.cardReferenceNo, texts.cardBatchNo, texts.cardType],
    ∀ pair ∈ furtherPairs value, pair.1 ∉ paymentNames

/-- The text is its fields, one behind the other. -/
theorem allPairs_eventData (texts : Upt.PaymentTexts) :
    allPairs texts.eventData.toList =
      field "msgStatus" texts.msgStatus ++ (field "cardCan" texts.cardCan ++
        (field "cardFee" texts.cardFee ++ (field "cardBalance" texts.cardBalance ++
          (field "cardReferenceNo" texts.cardReferenceNo ++
            (field "cardBatchNo" texts.cardBatchNo ++ field "cardType" texts.cardType))))) := by
  have htext : texts.eventData.toList =
      ("msgStatus".toList ++ '=' :: texts.msgStatus.toList) ++ ',' ::
        (("cardCan".toList ++ '=' :: texts.cardCan.toList) ++ ',' ::
          (("cardFee".toList ++ '=' :: texts.cardFee.toList) ++ ',' ::
            (("cardBalance".toList ++ '=' :: texts.cardBalance.toList) ++ ',' ::
              (("cardReferenceNo".toList ++ '=' :: texts.cardReferenceNo.toList) ++ ',' ::
                (("cardBatchNo".toList ++ '=' :: texts.cardBatchNo.toList) ++ ',' ::
                  ("cardType".toList ++ '=' :: texts.cardType.toList)))))) := by
    have hstatus : "msgStatus=".toList = "msgStatus".toList ++ ['='] := rfl
    have hcan : ",cardCan=".toList = ',' :: ("cardCan".toList ++ ['=']) := rfl
    have hfee : ",cardFee=".toList = ',' :: ("cardFee".toList ++ ['=']) := rfl
    have hbalance : ",cardBalance=".toList = ',' :: ("cardBalance".toList ++ ['=']) := rfl
    have hreference : ",cardReferenceNo=".toList = ',' :: ("cardReferenceNo".toList ++ ['=']) := rfl
    have hbatch : ",cardBatchNo=".toList = ',' :: ("cardBatchNo".toList ++ ['=']) := rfl
    have htype : ",cardType=".toList = ',' :: ("cardType".toList ++ ['=']) := rfl
    unfold Upt.PaymentTexts.eventData
    simp only [String.toList_append]
    rw [hstatus, hcan, hfee, hbalance, hreference, hbatch, htype]
    simp only [List.append_assoc, List.cons_append, List.nil_append]
  rw [htext]
  simp only [allPairs_append]
  rw [allPairs_field (by decide) (by decide), allPairs_field (by decide) (by decide),
    allPairs_field (by decide) (by decide), allPairs_field (by decide) (by decide),
    allPairs_field (by decide) (by decide), allPairs_field (by decide) (by decide),
    allPairs_field (by decide) (by decide)]

theorem filter_field {param : String} (hparam : param ∈ paymentNames) {value : String}
    (hfurther : ∀ pair ∈ furtherPairs value, pair.1 ∉ paymentNames) (name : String) :
    (field name value).filter (fun pair => pair.1 = param) =
      if name = param then [(name, firstPiece value)] else [] := by
  have hnone : (furtherPairs value).filter (fun pair => pair.1 = param) = [] := by
    rw [List.filter_eq_nil_iff]
    intro pair hpair heq
    exact hfurther pair hpair (of_decide_eq_true heq ▸ hparam)
  unfold field
  split_ifs with hname
  · rw [List.filter_cons_of_pos (by simpa using hname), hnone]
  · rw [List.filter_cons_of_neg (by simpa using hname), hnone]

/-- In an undisturbed text a name has the value of its field. -/
theorem filter_eventData {texts : Upt.PaymentTexts} (hundisturbed : Undisturbed texts) {param : String}
    (hparam : param ∈ paymentNames) :
    (pairs texts.eventData).filter (fun pair => pair.1 = param) =
      (if "msgStatus" = param then [("msgStatus", firstPiece texts.msgStatus)] else []) ++
      ((if "cardCan" = param then [("cardCan", firstPiece texts.cardCan)] else []) ++
      ((if "cardFee" = param then [("cardFee", firstPiece texts.cardFee)] else []) ++
      ((if "cardBalance" = param then [("cardBalance", firstPiece texts.cardBalance)] else []) ++
      (if "cardType" = param then [("cardType", firstPiece texts.cardType)] else [])))) := by
  have hnames := hundisturbed.names
  simp only [List.forall_mem_cons] at hnames
  obtain ⟨hstatus, hcan, hfee, hbalance, hreference, hbatch, htype, -⟩ := hnames
  have hempty : param ≠ "" := by
    rintro rfl
    exact absurd hparam (by decide)
  have hother : "cardReferenceNo" ≠ param ∧ "cardBatchNo" ≠ param := by
    constructor <;>
    · rintro rfl
      exact absurd hparam (by decide)
  rw [filter_pairs hempty, allPairs_eventData]
  simp only [List.filter_append, filter_field hparam hstatus, filter_field hparam hcan,
    filter_field hparam hfee, filter_field hparam hbalance, filter_field hparam hreference,
    filter_field hparam hbatch, filter_field hparam htype, if_neg hother.1, if_neg hother.2,
    List.nil_append]

section Readings

variable {texts : Upt.PaymentTexts} (hundisturbed : Undisturbed texts)

include hundisturbed

theorem msgStatus_eventData :
    lastRead (fun value => (stoull value).map (· % 2 ^ 32)) "msgStatus" 8 (pairs texts.eventData) =
      (((stoull (firstPiece texts.msgStatus)).map (· % 2 ^ 32)).getD 8) := by
  rw [← lastRead_filter, filter_eventData hundisturbed (by decide)]
  simp only [String.reduceEq, if_true, if_false, List.append_nil, lastRead]
  cases stoull (firstPiece texts.msgStatus) with
  | none => rfl
  | some status => rfl

theorem cardCan_eventData : lastText "cardCan" (pairs texts.eventData) = firstPiece texts.cardCan := by
  unfold lastText
  rw [← lastRead_filter, filter_eventData hundisturbed (by decide)]
  rfl

theorem cardType_eventData :
    lastText "cardType" (pairs texts.eventData) = firstPiece texts.cardType := by
  unfold lastText
  rw [← lastRead_filter, filter_eventData hundisturbed (by decide)]
  rfl

omit hundisturbed in
/-- An empty amount is skipped and stays zero. -/
theorem centsOf_single (param value : String) :
    centsOf param [(param, value)] = if value = "" then some 0 else stoull value := by
  unfold centsOf
  by_cases hempty : value = ""
  · rw [if_pos hempty, List.filter_cons_of_neg (by simpa using hempty)]
    rfl
  · rw [if_neg hempty, List.filter_cons_of_pos (by simpa using hempty)]
    simp only [List.filter_nil, allRead, if_true]
    cases stoull value with
    | none => rfl
    | some cents => rfl

theorem cardFee_eventData :
    centsOf "cardFee" (pairs texts.eventData) =
      if firstPiece texts.cardFee = "" then some 0 else stoull (firstPiece texts.cardFee) := by
  rw [← centsOf_filter, filter_eventData hundisturbed (by decide)]
  exact centsOf_single _ _

theorem cardBalance_eventData :
    centsOf "cardBalance" (pairs texts.eventData) =
      if firstPiece texts.cardBalance = "" then some 0
      else stoull (firstPiece texts.cardBalance) := by
  rw [← centsOf_filter, filter_eventData hundisturbed (by decide)]
  exact centsOf_single _ _

end Readings

/-! ## From the message to the call -/

/-- A successful answer to a payment: it has a card number, and its amount is four bytes,
little-endian. -/
structure PaymentOf (msg : Upt.Message) (a : ℕ) : Prop where
  msgType : msg.header.msgType = Upt.msgTypePayment
  msgCode : msg.header.msgCode = Upt.msgCodePaymentAuto
  msgStatus : msg.header.msgStatus = 0
  cardCan : Upt.findReceivedPayloadData msg.payloads Upt.idCardCan ≠ ""
  amount : ∃ payload ∈ msg.payloads.find? fun payload => payload.payloadFieldId = Upt.idTxnAmount,
    payload.fieldEncoding = Upt.fieldEncodingValueHexLittle ∧
      payload.fieldData = Bytes.leBytes 4 a
  lt : a < 2 ^ 31

/-- An amount in cents as it is handed to `DebitOK`. -/
def printedAmount (cents : ℕ) : String := setFeeFormat (toFloat ((cents : ℚ) / 100))

/-- The text of the amount of a payment. -/
def amountText (a : ℕ) : String := Upt.toHexString (Bytes.leBytes 4 a) true

/-- When a payment of `a` cents arrives as one: the balance is a hexadecimal number, so that the
fee is converted, too, and a float keeps the cents; or the fee stays hexadecimal, reads the same
as a decimal number, and the balance can be read, too.  The card type starts with a number. -/
structure Chargeable (msg : Upt.Message) (a : ℕ) : Prop where
  amounts :
    let cardBalance := Upt.findReceivedPayloadData msg.payloads Upt.idCardBalance
    if (Upt.stoiHex cardBalance).isSome then printedAmount a = setFeeFormat ((a : ℚ) / 100)
    else (firstPiece cardBalance = "" ∨ (stoull (firstPiece cardBalance)).isSome) ∧
      ∃ fee, stoull (amountText a) = some fee ∧ printedAmount fee = setFeeFormat ((a : ℚ) / 100)
  cardType :
    (stoi (firstPiece (Upt.findReceivedPayloadData msg.payloads Upt.idTxnType))).isSome = true

/-- Processing the event calls `DebitOK` once, for the UPOS terminal and the given amount. -/
def DebitsOnce (enableCashcard : Bool → Op Unit) (eventData amount : String) (s : Station) : Prop :=
  debits (after (processUPT enableCashcard .PAYMENT_MODE_AUTO_REQUEST eventData) s) =
    (.UPOS, amount) :: debits s

theorem firstPiece_of_notMem {value : String} (hnone : ',' ∉ value.toList) : firstPiece value = value := by
  have hall : ∀ c ∈ value.toList, decide (c ≠ ',') = true := fun c hc =>
    decide_eq_true fun heq => hnone (heq ▸ hc)
  unfold firstPiece
  rw [List.takeWhile_eq_self_iff.mpr hall, String.ofList_toList]

theorem firstPiece_toString (value : ℤ) : firstPiece (toString value) = toString value := by
  apply firstPiece_of_notMem
  rw [toList_toString, List.mem_append, not_or]
  constructor
  · split_ifs <;> simp
  · intro hmem
    exact absurd (isDigit_of_mem_toDigits _ hmem) (by decide)

theorem stoull_toString {value : ℤ} (hfits : FitsInt value) :
    stoull (toString value) = some (value % 2 ^ 64).toNat := by
  obtain ⟨hlow, hhigh⟩ := hfits
  unfold stoull
  rw [readInteger_toString, Option.bind_some, if_pos ⟨by omega, by omega⟩]

theorem toString_ne_empty (value : ℤ) : toString value ≠ "" := by
  intro hempty
  have hread := readInteger_toString value
  rw [hempty] at hread
  cases hread

/-- The hexadecimal digits of an amount have no comma. -/
theorem firstPiece_amountText (a : ℕ) : firstPiece (amountText a) = amountText a := by
  apply firstPiece_of_notMem
  unfold amountText Upt.toHexString
  rw [String.toList_ofList]
  intro hmem
  obtain ⟨byte, -, hbyte⟩ := List.mem_flatMap.mp hmem
  exact absurd (Upt.isHexDigit_of_mem_hexByte hbyte) (by decide)

/-- The mapping of the card types keeps a number a number. -/
theorem isSome_stoi_cardTypeText (text : String) :
    (stoi (firstPiece (Upt.cardTypeText text))).isSome = (stoi (firstPiece text)).isSome := by
  unfold Upt.cardTypeText
  split_ifs with h1100 h1200 h1000 h1700 h2000 h3000
  · subst h1100; decide +kernel
  · subst h1200; decide +kernel
  · subst h1000; decide +kernel
  · subst h1700; decide +kernel
  · subst h2000; decide +kernel
  · subst h3000; decide +kernel
  · rfl

theorem stoiHex_amountText {a : ℕ} (hlt : a < 2 ^ 31) : Upt.stoiHex (amountText a) = some (a : ℤ) := by
  have hvalue : Bytes.ofLeBytes (Bytes.leBytes 4 a) = a :=
    Bytes.ofLeBytes_leBytes_of_lt (by omega)
  unfold amountText
  rw [Upt.stoiHex_toHexString _ (by rw [hvalue]; exact hlt), hvalue]
  intro hempty
  exact absurd (congrArg List.length hempty) (by simp)

theorem find_amount {msg : Upt.Message} {a : ℕ} (hpayment : PaymentOf msg a) :
    Upt.findReceivedPayloadData msg.payloads Upt.idTxnAmount = amountText a := by
  obtain ⟨payload, hfind, hencoding, hdata⟩ := hpayment.amount
  unfold Upt.findReceivedPayloadData
  rw [Option.mem_def.mp hfind]
  dsimp only
  unfold Upt.PayloadField.text
  rw [hencoding, hdata]
  rfl

/-- The text of a payment can be read exactly when the payment is chargeable. -/
theorem readsAs_iff {msg : Upt.Message} {a : ℕ} (hpayment : PaymentOf msg a)
    (hundisturbed : Undisturbed (Upt.paymentTexts msg)) :
    ReadsAs (pairs (Upt.paymentTexts msg).eventData) (setFeeFormat ((a : ℚ) / 100)) ↔
      Chargeable msg a := by
  have hlt := hpayment.lt
  have htype : (stoi (lastText "cardType" (pairs (Upt.paymentTexts msg).eventData))).isSome =
      (stoi (firstPiece (Upt.findReceivedPayloadData msg.payloads Upt.idTxnType))).isSome := by
    rw [cardType_eventData hundisturbed]
    exact isSome_stoi_cardTypeText _
  have hfee := cardFee_eventData hundisturbed
  have hbalance := cardBalance_eventData hundisturbed
  -- what the `try` block has left
  have htexts : ((Upt.paymentTexts msg).cardBalance, (Upt.paymentTexts msg).cardFee) =
      Upt.convertAmounts (Upt.findReceivedPayloadData msg.payloads Upt.idCardBalance)
        (amountText a) := by
    rw [← find_amount hpayment]
    rfl
  cases hconverts : Upt.stoiHex (Upt.findReceivedPayloadData msg.payloads Upt.idCardBalance) with
  | some balance =>
      have hfits : FitsInt balance := by
        unfold Upt.stoiHex at hconverts
        dsimp only at hconverts
        split_ifs at hconverts with hbad
        obtain rfl := Option.some.inj hconverts
        exact not_not.mp fun h => hbad (Or.inr h)
      unfold Upt.convertAmounts at htexts
      simp only [hconverts, stoiHex_amountText hlt, Prod.mk.injEq] at htexts
      have hwrap : ((a : ℤ) % 2 ^ 64).toNat = a := by omega
      rw [htexts.2, firstPiece_toString, if_neg (toString_ne_empty _),
        stoull_toString ⟨by omega, by omega⟩, hwrap] at hfee
      rw [htexts.1, firstPiece_toString, if_neg (toString_ne_empty _), stoull_toString hfits]
        at hbalance
      constructor
      · rintro ⟨⟨card_fee, hsome, hamount⟩, -, hcard⟩
        rw [hfee] at hsome
        obtain rfl := Option.some.inj hsome
        refine ⟨?_, htype ▸ hcard⟩
        dsimp only
        rw [hconverts, if_pos (Option.isSome_some)]
        exact hamount
      · rintro ⟨hamounts, hcard⟩
        dsimp only at hamounts
        rw [hconverts, if_pos (Option.isSome_some)] at hamounts
        exact ⟨⟨a, hfee, hamounts⟩, by rw [hbalance]; rfl, htype.trans hcard⟩
  | none =>
      unfold Upt.convertAmounts at htexts
      simp only [hconverts, Prod.mk.injEq] at htexts
      have hdigits : amountText a ≠ "" := by
        intro hempty
        have hread := stoiHex_amountText hlt
        rw [hempty] at hread
        cases hread
      rw [htexts.2, firstPiece_amountText, if_neg hdigits] at hfee
      rw [htexts.1] at hbalance
      have hreadable : (centsOf "cardBalance" (pairs (Upt.paymentTexts msg).eventData)).isSome = true ↔
          firstPiece (Upt.findReceivedPayloadData msg.payloads Upt.idCardBalance) = "" ∨
            (stoull (firstPiece
              (Upt.findReceivedPayloadData msg.payloads Upt.idCardBalance))).isSome = true := by
        rw [hbalance]
        split_ifs with hempty
        · simp [hempty]
        · simp [hempty]
      constructor
      · rintro ⟨⟨card_fee, hsome, hamount⟩, hsomeBalance, hcard⟩
        refine ⟨?_, htype ▸ hcard⟩
        dsimp only
        rw [hconverts, if_neg (by decide)]
        exact ⟨hreadable.mp hsomeBalance, card_fee, hfee ▸ hsome, hamount⟩
      · rintro ⟨hamounts, hcard⟩
        dsimp only at hamounts
        rw [hconverts, if_neg (by decide)] at hamounts
        obtain ⟨hreads, card_fee, hsome, hamount⟩ := hamounts
        exact ⟨⟨card_fee, hfee.trans hsome, hamount⟩, hreadable.mpr hreads, htype.trans hcard⟩

/-- A payment reaches `DebitOK` once and with its amount exactly when it is chargeable. -/
theorem debitsOnce_iff (enableCashcard : Bool → Op Unit) (s : Station) {msg : Upt.Message} {a : ℕ}
    (hpayment : PaymentOf msg a) (hundisturbed : Undisturbed (Upt.paymentTexts msg)) :
    ∃ eventData, Upt.paymentEvent msg = some eventData ∧
      (DebitsOnce enableCashcard eventData (setFeeFormat ((a : ℚ) / 100)) s ↔ Chargeable msg a) := by
  refine ⟨(Upt.paymentTexts msg).eventData, ?_, ?_⟩
  · unfold Upt.paymentEvent
    rw [if_pos hpayment.msgType, if_pos hpayment.msgCode]
  have hstatus : lastRead (fun value => (stoull value).map (· % 2 ^ 32)) "msgStatus" 8
      (pairs (Upt.paymentTexts msg).eventData) = 0 := by
    rw [msgStatus_eventData hundisturbed]
    unfold Upt.paymentTexts
    dsimp only
    rw [hpayment.msgStatus]
    decide +kernel
  have hcan : lastText "cardCan" (pairs (Upt.paymentTexts msg).eventData) ≠ "" := by
    rw [cardCan_eventData hundisturbed]
    exact hundisturbed.can
  have hserve : after (processUPT enableCashcard .PAYMENT_MODE_AUTO_REQUEST
      (Upt.paymentTexts msg).eventData) s =
        after (uptPaid (pairs (Upt.paymentTexts msg).eventData)) s := by
    unfold processUPT uptPayment
    dsimp only
    rw [if_neg (by decide), if_pos rfl, if_pos hstatus, after_catchException]
  unfold DebitsOnce
  rw [hserve, debits_uptPaid hcan, readsAs_iff hpayment hundisturbed]

/-- A payment with a balance and a card type, of less than 2^17 dollars. -/
theorem chargeable_of_lt {msg : Upt.Message} {a : ℕ} (hlt : a < 13107200)
    (hbalance : (Upt.stoiHex
      (Upt.findReceivedPayloadData msg.payloads Upt.idCardBalance)).isSome = true)
    (htype : (stoi (firstPiece
      (Upt.findReceivedPayloadData msg.payloads Upt.idTxnType))).isSome = true) :
    Chargeable msg a := by
  constructor
  · dsimp only
    rw [if_pos hbalance]
    exact setFeeFormat_toFloat hlt
  · exact htype

/-- The answer to a payment of `a` cents with an EZ-Link card, with the given further fields. -/
def ezLinkPayment (a : ℕ) (payloads : List Upt.PayloadField) : Upt.Message where
  header := { msgType := Upt.msgTypePayment, msgCode := Upt.msgCodePaymentAuto, msgStatus := 0 }
  payloads :=
    [{ payloadFieldLength := 16, payloadFieldId := Upt.idCardCan, fieldEncoding := 0x33
       fieldData := [0x11, 0x19, 0x80, 0x00, 0x12, 0x34, 0x56, 0x78] },
      { payloadFieldLength := 12, payloadFieldId := Upt.idTxnAmount, fieldEncoding := 0x38
        fieldData := Bytes.leBytes 4 a },
      { payloadFieldLength := 10, payloadFieldId := Upt.idTxnType, fieldEncoding := 0x33
        fieldData := [0x17, 0x00] }] ++ payloads

/-- A balance of 10.00. -/
def balanceField : Upt.PayloadField where
  payloadFieldLength := 12
  payloadFieldId := Upt.idCardBalance
  fieldEncoding := 0x38
  fieldData := [0xE8, 0x03, 0x00, 0x00]

/-- A payment of 1.20 with all its fields arrives. -/
theorem debitsOnce_iff_balance :
    ∃ eventData, Upt.paymentEvent (ezLinkPayment 120 [balanceField]) = some eventData ∧
      DebitsOnce (enableCashcardAt 3) eventData (setFeeFormat (((120 : ℕ) : ℚ) / 100)) emptyExit := by
  have hpayment : PaymentOf (ezLinkPayment 120 [balanceField]) 120 := by
    refine ⟨rfl, rfl, rfl, by decide +kernel, ⟨_, rfl, rfl, rfl⟩, by decide⟩
  have hundisturbed : Undisturbed (Upt.paymentTexts (ezLinkPayment 120 [balanceField])) := by
    constructor <;> decide +kernel
  have hchargeable : Chargeable (ezLinkPayment 120 [balanceField]) 120 := by
    apply chargeable_of_lt <;> decide +kernel
  obtain ⟨eventData, hevent, hiff⟩ :=
    debitsOnce_iff (enableCashcardAt 3) emptyExit hpayment hundisturbed
  exact ⟨eventData, hevent, hiff.mpr hchargeable⟩

/-- Without its balance the same payment arrives as 0.78: the `78` is hexadecimal. -/
theorem not_debitsOnce :
    ∃ eventData, PaymentOf (ezLinkPayment 120 []) 120 ∧
      Undisturbed (Upt.paymentTexts (ezLinkPayment 120 [])) ∧
      Upt.paymentEvent (ezLinkPayment 120 []) = some eventData ∧
      debits (after (processUPT (enableCashcardAt 3) .PAYMENT_MODE_AUTO_REQUEST eventData)
        emptyExit) = [(.UPOS, "0.78")] ∧
      ¬DebitsOnce (enableCashcardAt 3) eventData (setFeeFormat (((120 : ℕ) : ℚ) / 100)) emptyExit := by
  refine ⟨_, ⟨rfl, rfl, rfl, by decide +kernel, ⟨_, rfl, rfl, rfl⟩, by decide⟩, ?_, rfl, ?_, ?_⟩
  · constructor <;> decide +kernel
  · decide +kernel
  · unfold DebitsOnce
    decide +kernel

end LinuxPBS.Operation
