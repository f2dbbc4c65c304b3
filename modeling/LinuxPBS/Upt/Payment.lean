import LinuxPBS.Common
import LinuxPBS.Upt.Message

/-!
# The text of a payment

`handleCmdResponse` turns a `PAYMENT_AUTO` response into the text of the event
`Evt_handleUPTPaymentAuto`:

```text
msgStatus=…,cardCan=…,cardFee=…,cardBalance=…,cardReferenceNo=…,cardBatchNo=…,cardType=…
```

Each value is the text that `findReceivedPayloadData` makes of the first field with
its identifier; of a little-endian number that is eight hexadecimal digits.  The
balance and then the fee are converted to decimal in one `try` block, so that a
balance which cannot be converted leaves the fee in hexadecimal.  Nothing in the
values is escaped: a comma in one of them ends it and starts another pair.
-/

namespace LinuxPBS.Upt

open LinuxPBS.Bytes LinuxPBS.Common LinuxPBS.CxxText

/-! ## Hexadecimal numbers -/

/-- `std::isxdigit` -/
def isHexDigit (c : Char) : Bool := c.isDigit || ('a' ≤ c && c ≤ 'f') || ('A' ≤ c && c ≤ 'F')

/-- The value of a hexadecimal digit. -/
def hexDigitValue (c : Char) : ℕ :=
  if c.isDigit then c.toNat - '0'.toNat else c.toLower.toNat - 'a'.toNat + 10

/-- The hexadecimal digits a text starts with, behind an optional `0x`. -/
def takeHexDigits : List Char → List Char
  | '0' :: x :: rest =>
      if (x = 'x' ∨ x = 'X') ∧ rest.head?.any isHexDigit then rest.takeWhile isHexDigit
      else ('0' :: x :: rest).takeWhile isHexDigit
  | text => text.takeWhile isHexDigit

/-- The value of a string of hexadecimal digits. -/
def hexDigitsValue (digits : List Char) : ℕ :=
  digits.foldl (fun number c => 16 * number + hexDigitValue c) 0

/-- `std::stoi(text, nullptr, 16)` -/
def stoiHex (text : String) : Option ℤ :=
  let (negative, rest) := takeSign (text.toList.dropWhile isSpace)
  let digits := takeHexDigits rest
  let value : ℤ := withSign negative (hexDigitsValue digits : ℤ)
  if digits = [] ∨ ¬FitsInt value then none else some value

/-- `std::hex` with `std::setw(2)` and `std::setfill('0')` -/
def hexByte (byte : UInt8) : List Char :=
  [Nat.digitChar (byte.toNat / 16), Nat.digitChar (byte.toNat % 16)]

/-- `FnConvertVectorUint8ToHexString` -/
def toHexString (data : List UInt8) (littleEndian : Bool) : String :=
  String.ofList ((if littleEndian then data.reverse else data).flatMap hexByte)

/-- `FnConvertVectorUint8ToBcdString` -/
def toBcdString (data : List UInt8) : String :=
  String.ofList (data.flatMap fun byte =>
    Nat.toDigits 10 (byte.toNat / 16) ++ Nat.toDigits 10 (byte.toNat % 16))

/-! ## The fields of a message -/

/-- The text `findReceivedPayloadData` makes of a field. -/
def PayloadField.text (field : PayloadField) : String :=
  if field.fieldEncoding = 0x31 ∨ field.fieldEncoding = 0x32 ∨ field.fieldEncoding = 0x34 ∨
      field.fieldEncoding = 0x35 then
    String.ofList (field.fieldData.map fun byte => Char.ofNat byte.toNat)
  else if field.fieldEncoding = fieldEncodingValueHexLittle then toHexString field.fieldData true
  else if field.fieldEncoding = 0x36 then toBcdString field.fieldData
  else if field.fieldEncoding = 0x30 ∨ field.fieldEncoding = 0x33 ∨ field.fieldEncoding = 0x37 then
    toHexString field.fieldData false
  else ""

/-- `Upt::findReceivedPayloadData`: the first field with the identifier decides. -/
def findReceivedPayloadData (payloads : List PayloadField) (payloadFieldId : UInt16) : String :=
  match payloads.find? fun payload => payload.payloadFieldId = payloadFieldId with
  | some payload => payload.text
  | none => ""

/-- The identifiers of the fields of a payment. -/
def idCardCan : UInt16 := 0x4001
def idCardBalance : UInt16 := 0x4003
def idTxnType : UInt16 := 0x5000
def idTxnAmount : UInt16 := 0x5001
def idTxnBatch : UInt16 := 0x5005
def idTxnMerRefNum : UInt16 := 0x500B

/-! ## The event -/

/-- The values of the event. -/
structure PaymentTexts where
  msgStatus : String
  cardCan : String
  cardFee : String
  cardBalance : String
  cardReferenceNo : String
  cardBatchNo : String
  cardType : String
  deriving DecidableEq, Repr

/-- The card types of the terminal that the operation knows. -/
def cardTypeText (text : String) : String :=
  if text = "1100" then "0"
  else if text = "1200" then "1"
  else if text = "1000" then "2"
  else if text = "1700" then "3"
  else if text = "2000" then "4"
  else if text = "3000" then "5"
  else text

/-- The `try` block: an exception keeps what has been converted so far. -/
def convertAmounts (cardBalance cardFee : String) : String × String :=
  match stoiHex cardBalance with
  | none => (cardBalance, cardFee)
  | some balance =>
      match stoiHex cardFee with
      | none => (toString balance, cardFee)
      | some fee => (toString balance, toString fee)

/-- `FnUint32ToString` -/
def uint32ToString (value : UInt32) : String :=
  let digits := Nat.toDigits 10 value.toNat
  String.ofList (List.replicate (8 - digits.length) '0' ++ digits)

/-- The part of `Upt::handleCmdResponse` for a payment, up to the text. -/
def paymentTexts (msg : Message) : PaymentTexts :=
  let find := findReceivedPayloadData msg.payloads
  let (cardBalance, cardFee) := convertAmounts (find idCardBalance) (find idTxnAmount)
  { msgStatus := uint32ToString msg.header.msgStatus
    cardCan := find idCardCan
    cardFee := cardFee
    cardBalance := cardBalance
    cardReferenceNo := find idTxnMerRefNum
    cardBatchNo := find idTxnBatch
    cardType := cardTypeText (find idTxnType) }

/-- The text of the event. -/
def PaymentTexts.eventData (texts : PaymentTexts) : String :=
  "msgStatus=" ++ texts.msgStatus ++ ",cardCan=" ++ texts.cardCan ++ ",cardFee=" ++ texts.cardFee ++
    ",cardBalance=" ++ texts.cardBalance ++ ",cardReferenceNo=" ++ texts.cardReferenceNo ++
    ",cardBatchNo=" ++ texts.cardBatchNo ++ ",cardType=" ++ texts.cardType

/-- `MSG_TYPE_PAYMENT` -/
def msgTypePayment : UInt32 := 0x40000000

/-- `MSG_CODE_PAYMENT_AUTO` -/
def msgCodePaymentAuto : UInt32 := 0x10000000

/-- `Upt::handleCmdResponse`: the text of `Evt_handleUPTPaymentAuto`, if it is raised. -/
def paymentEvent (msg : Message) : Option String :=
  if msg.header.msgType = msgTypePayment then
    if msg.header.msgCode = msgCodePaymentAuto then some (paymentTexts msg).eventData else none
  else none

/-! ## Reading a hexadecimal number back -/

theorem isHexDigit_digitChar {d : ℕ} (hd : d < 16) :
    isHexDigit (Nat.digitChar d) = true ∧ hexDigitValue (Nat.digitChar d) = d := by
  revert d
  decide

theorem isHexDigit_of_mem_hexByte {c : Char} {byte : UInt8} (hc : c ∈ hexByte byte) :
    isHexDigit c = true := by
  have hbyte := byte.toNat_lt
  simp only [hexByte, List.mem_cons, List.not_mem_nil, or_false] at hc
  rcases hc with rfl | rfl
  · exact (isHexDigit_digitChar (by omega)).1
  · exact (isHexDigit_digitChar (by omega)).1

/-- A digit is none of the characters that a number may start with. -/
theorem not_start_of_isHexDigit {c : Char} (hc : isHexDigit c = true) :
    isSpace c = false ∧ c ≠ '-' ∧ c ≠ '+' ∧ c ≠ 'x' ∧ c ≠ 'X' := by
  refine ⟨?_, ?_, ?_, ?_, ?_⟩
  · by_contra hspace
    rw [Bool.not_eq_false] at hspace
    unfold isSpace at hspace
    simp only [Bool.or_eq_true, decide_eq_true_eq] at hspace
    -- no blank is a digit or a letter
    rcases hspace with ((((rfl | rfl) | rfl) | rfl) | hcode) | hcode
    · exact absurd hc (by decide)
    · exact absurd hc (by decide)
    · exact absurd hc (by decide)
    · exact absurd hc (by decide)
    · rw [show c = Char.ofNat 0x0b by rw [← hcode, Char.ofNat_toNat]] at hc
      exact absurd hc (by decide)
    · rw [show c = Char.ofNat 0x0c by rw [← hcode, Char.ofNat_toNat]] at hc
      exact absurd hc (by decide)
  all_goals
    rintro rfl
    exact absurd hc (by decide)

/-- Digits stand behind no blank and no sign, and are taken to their end. -/
theorem takeHexDigits_of_isHexDigit {digits : List Char}
    (hdigits : ∀ c ∈ digits, isHexDigit c = true) (hsome : digits ≠ []) :
    takeSign (digits.dropWhile isSpace) = (false, digits) ∧ takeHexDigits digits = digits := by
  have hall : digits.takeWhile isHexDigit = digits := List.takeWhile_eq_self_iff.mpr hdigits
  cases digits with
  | nil => exact absurd rfl hsome
  | cons c rest =>
      obtain ⟨hspace, hminus, hplus, -, -⟩ := not_start_of_isHexDigit (hdigits c (by simp))
      rw [List.dropWhile_cons_of_neg (by simp [hspace])]
      constructor
      · unfold takeSign
        split
        · next h => exact absurd (List.cons.inj h).1 hminus
        · next h => exact absurd (List.cons.inj h).1 hplus
        · rfl
      · unfold takeHexDigits
        split
        · next x later heq =>
            obtain ⟨-, -, -, hx, hX⟩ := not_start_of_isHexDigit (hdigits x (by rw [heq]; simp))
            rw [if_neg (by simp [hx, hX]), ← heq, hall]
        · exact hall

/-- Hexadecimal digits are read to their end. -/
theorem stoiHex_ofList {digits : List Char} (hdigits : ∀ c ∈ digits, isHexDigit c = true)
    (hsome : digits ≠ []) :
    stoiHex (String.ofList digits) =
      if FitsInt (hexDigitsValue digits) then some (hexDigitsValue digits : ℤ) else none := by
  obtain ⟨hsign, htake⟩ := takeHexDigits_of_isHexDigit hdigits hsome
  unfold stoiHex
  rw [String.toList_ofList, hsign]
  dsimp only
  rw [htake]
  by_cases hfits : FitsInt (hexDigitsValue digits)
  · rw [if_pos hfits, if_neg (by simpa [hsome, withSign] using hfits)]
    rfl
  · rw [if_neg hfits, if_pos (by simpa [hsome, withSign] using hfits)]

theorem hexDigitsValue_flatMap (bytes : List UInt8) :
    hexDigitsValue (bytes.flatMap hexByte) = bytes.foldl (fun number byte => 256 * number + byte.toNat) 0 := by
  have hfold (start : ℕ) :
      (bytes.flatMap hexByte).foldl (fun number c => 16 * number + hexDigitValue c) start =
        bytes.foldl (fun number byte => 256 * number + byte.toNat) start := by
    induction bytes generalizing start with
    | nil => rfl
    | cons byte rest ih =>
        have hbyte := byte.toNat_lt
        have hhigh := (isHexDigit_digitChar (d := byte.toNat / 16) (by omega)).2
        have hlow := (isHexDigit_digitChar (d := byte.toNat % 16) (by omega)).2
        rw [List.flatMap_cons, List.foldl_append, List.foldl_cons, ih]
        congr 1
        simp only [hexByte, List.foldl_cons, List.foldl_nil, hhigh, hlow]
        omega
  exact hfold 0

theorem foldl_reverse_eq_ofLeBytes (data : List UInt8) :
    data.reverse.foldl (fun number byte => 256 * number + byte.toNat) 0 = ofLeBytes data := by
  rw [List.foldl_reverse]
  induction data with
  | nil => rfl
  | cons byte rest ih =>
      rw [List.foldr_cons, ih, ofLeBytes]
      omega

theorem flatMap_hexByte_ne_nil {data : List UInt8} (hdata : data ≠ []) :
    data.flatMap hexByte ≠ [] := by
  obtain ⟨byte, hbyte⟩ := List.exists_mem_of_ne_nil _ hdata
  intro hempty
  cases List.flatMap_eq_nil_iff.mp hempty byte hbyte

/-- A little-endian number that fits is read back from its hexadecimal text. -/
theorem stoiHex_toHexString {data : List UInt8} (hdata : data ≠ [])
    (hfits : ofLeBytes data < 2 ^ 31) :
    stoiHex (toHexString data true) = some (ofLeBytes data : ℤ) := by
  have hvalue : hexDigitsValue (data.reverse.flatMap hexByte) = ofLeBytes data := by
    rw [hexDigitsValue_flatMap, foldl_reverse_eq_ofLeBytes]
  have hdigits : ∀ c ∈ data.reverse.flatMap hexByte, isHexDigit c = true := by
    intro c hc
    obtain ⟨byte, -, hmem⟩ := List.mem_flatMap.mp hc
    exact isHexDigit_of_mem_hexByte hmem
  have hsome := flatMap_hexByte_ne_nil (fun h => hdata (List.reverse_eq_nil_iff.mp h))
  have hint : FitsInt (ofLeBytes data) := by
    unfold FitsInt
    omega
  unfold toHexString
  rw [if_pos rfl, stoiHex_ofList hdigits hsome, hvalue, if_pos hint]

end LinuxPBS.Upt
