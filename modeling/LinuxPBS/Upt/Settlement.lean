import LinuxPBS.Upt.Payment

/-!
# The totals of a settlement

`handleCmdResponse` reports the amount and the number of the sales of a settlement,
summed over the providers `NETS`, `NFP` and `NCC`.  Three stages lie between the
payload and the totals:

* `findReceivedSettlementPayloadData` makes rows of the fields.  A row ends with its
  sixth settlement field, whichever that is;
* each value becomes the text of `PayloadField.text`, read back in base 16 by
  `std::stoull` (settlement) or `std::stoi` (last settlement).  The digits of a
  number in BCD or in ASCII are decimal;
* a row *assigns* its values to its provider: an earlier row of it is forgotten.

A `SettlementRow` is what the terminal means by a row, and `settlementTotals_right`
says when the totals of the two paths are the sums over the rows: no field may be
missing, the decimal values have one digit, what is forgotten is zero, and the
values fit in an `int`.
-/

namespace LinuxPBS.Upt

open LinuxPBS.Bytes LinuxPBS.Common LinuxPBS.CxxText

/-! ## The rows -/

/-- The identifiers of the fields of a row. -/
def idSofAcquirer : UInt16 := 0x2003
def idSofName : UInt16 := 0x2004
def idSofSaleCount : UInt16 := 0x2005
def idSofSaleTotal : UInt16 := 0x2006
def idSofPreAuthCompleteCount : UInt16 := 0x200B
def idSofPreAuthCompleteTotal : UInt16 := 0x200C

/-- The fields a row consists of. -/
def settlementIds : List UInt16 :=
  [idSofAcquirer, idSofName, idSofPreAuthCompleteCount, idSofPreAuthCompleteTotal,
    idSofSaleCount, idSofSaleTotal]

/-- `SettlementPayloadRow` -/
structure SettlementPayloadRow where
  acquirer : String := ""
  name : String := ""
  preAuthCompleteCount : String := ""
  preAuthCompleteTotal : String := ""
  saleCount : String := ""
  saleTotal : String := ""
  deriving DecidableEq, Repr

/-- The encodings that `findReceivedSettlementPayloadData` counts. -/
def isSupportedEncoding (fieldEncoding : UInt8) : Bool :=
  0x30 ≤ fieldEncoding && fieldEncoding ≤ 0x38

/-- The second chain of tests: the field goes to its place in `currentRow`. -/
def SettlementPayloadRow.assign (currentRow : SettlementPayloadRow) (payload : PayloadField) :
    SettlementPayloadRow :=
  let result := payload.text
  if payload.payloadFieldId = idSofAcquirer then { currentRow with acquirer := result }
  else if payload.payloadFieldId = idSofName then { currentRow with name := result }
  else if payload.payloadFieldId = idSofPreAuthCompleteCount then
    { currentRow with preAuthCompleteCount := result }
  else if payload.payloadFieldId = idSofPreAuthCompleteTotal then
    { currentRow with preAuthCompleteTotal := result }
  else if payload.payloadFieldId = idSofSaleCount then { currentRow with saleCount := result }
  else if payload.payloadFieldId = idSofSaleTotal then { currentRow with saleTotal := result }
  else currentRow

/-- The variables of the loop. -/
structure RowReader where
  rows : List SettlementPayloadRow := []
  currentRow : SettlementPayloadRow := {}
  count : ℕ := 0
  deriving DecidableEq, Repr

/-- One turn of the loop. -/
def RowReader.read (reader : RowReader) (payload : PayloadField) : RowReader :=
  let count :=
    if payload.payloadFieldId ∈ settlementIds ∧ isSupportedEncoding payload.fieldEncoding then
      reader.count + 1
    else reader.count
  let currentRow := reader.currentRow.assign payload
  if count = 6 then { rows := reader.rows ++ [currentRow] }
  else { reader with currentRow := currentRow, count := count }

/-- `Upt::findReceivedSettlementPayloadData` -/
def findReceivedSettlementPayloadData (payloads : List PayloadField) : List SettlementPayloadRow :=
  (payloads.foldl RowReader.read {}).rows

/-! ## The totals -/

/-- The amount and the count of a provider. -/
structure ProviderTotals where
  amount : UInt64 := 0
  count : UInt64 := 0
  deriving DecidableEq, Repr

/-- The totals of the three providers. -/
structure SettlementTotals where
  nets : ProviderTotals := {}
  nfp : ProviderTotals := {}
  ncc : ProviderTotals := {}
  deriving DecidableEq, Repr

/-- `std::stoull(text, nullptr, 16)` assigned to a `uint64_t`. -/
def stoull16 (text : String) : Option UInt64 := (stoulHex text).map UInt64.ofNat

/-- `std::stoi(text, nullptr, 16)` assigned to a `uint64_t`. -/
def stoi16 (text : String) : Option UInt64 := (stoiHex text).map UInt64.ofInt

/-- The two assignments of the `try` block: an exception keeps what has been set. -/
def ProviderTotals.assign (convert : String → Option UInt64) (totals : ProviderTotals)
    (data : SettlementPayloadRow) : ProviderTotals :=
  match convert data.saleTotal with
  | none => totals
  | some amount =>
      match convert data.saleCount with
      | none => { totals with amount := amount }
      | some count => { amount := amount, count := count }

/-- One turn of the loop over `settlementData`. -/
def SettlementTotals.assign (convert : String → Option UInt64) (totals : SettlementTotals)
    (data : SettlementPayloadRow) : SettlementTotals :=
  if data.name = "NETS" then { totals with nets := totals.nets.assign convert data }
  else if data.name = "NFP" then { totals with nfp := totals.nfp.assign convert data }
  else if data.name = "NCC" then { totals with ncc := totals.ncc.assign convert data }
  else totals

/-- The totals of a payload. -/
def settlementTotals (convert : String → Option UInt64) (payloads : List PayloadField) :
    SettlementTotals :=
  (findReceivedSettlementPayloadData payloads).foldl (SettlementTotals.assign convert) {}

/-- `totalAmount` and `totalTransCount`. -/
def SettlementTotals.texts (totals : SettlementTotals) : String × String :=
  (toString (totals.nets.amount + totals.nfp.amount + totals.ncc.amount).toNat,
    toString (totals.nets.count + totals.nfp.count + totals.ncc.count).toNat)

/-- `MSG_TYPE_DEVICE`, and the codes of the two responses. -/
def msgTypeDevice : UInt32 := 0x10000000
def msgCodeDeviceSettlement : UInt32 := 0x70000000
def msgCodeDeviceRetrieveLastSettlement : UInt32 := 0x70000003

/-- What both events start with. -/
def totalsText (msg : Message) (texts : String × String) : String :=
  "msgStatus=" ++ uint32ToString msg.header.msgStatus ++ ",totalAmount=" ++ texts.1 ++
    ",totalTransCount=" ++ texts.2

/-- `Upt::handleCmdResponse`: the event of a settlement, with its text. -/
def settlementEvent (msg : Message) : Option (String × String) :=
  if msg.header.msgType = msgTypeDevice then
    if msg.header.msgCode = msgCodeDeviceSettlement then
      let find := findReceivedPayloadData msg.payloads
      some ("Evt_handleUPTDeviceSettlement",
        totalsText msg (settlementTotals stoull16 msg.payloads).texts ++
          ",TID=" ++ find idSofPreAuthCompleteCount ++ ",MID=" ++ find idSofPreAuthCompleteTotal)
    else if msg.header.msgCode = msgCodeDeviceRetrieveLastSettlement then
      some ("Evt_handleUPTRetrieveLastSettlement",
        totalsText msg (settlementTotals stoi16 msg.payloads).texts)
    else none
  else none

/-! ## What the terminal means -/

/-- The number that digits mean in a base. -/
def digitsValue (base : ℕ) (digits : List Char) : ℕ :=
  digits.foldl (fun number c => base * number + hexDigitValue c) 0

/-- The characters are the digits of a number. -/
def AreDigits (base : ℕ) (digits : List Char) : Prop :=
  digits ≠ [] ∧ ∀ c ∈ digits, isHexDigit c = true ∧ hexDigitValue c < base

instance (base : ℕ) (digits : List Char) : Decidable (AreDigits base digits) :=
  inferInstanceAs (Decidable (_ ∧ _))

/-- The field holds decimal digits: `ARRAY_ASCII`, `VALUE_ASCII` or `VALUE_BCD`. -/
def PayloadField.IsDecimal (field : PayloadField) : Prop :=
  field.fieldEncoding = 0x31 ∨ field.fieldEncoding = 0x34 ∨ field.fieldEncoding = 0x36

instance (field : PayloadField) : Decidable field.IsDecimal :=
  inferInstanceAs (Decidable (_ ∨ _ ∨ _))

/-- The number that a field encodes. -/
def PayloadField.encodedValue (field : PayloadField) : Option ℕ :=
  let data := field.fieldData
  let characters := data.map fun byte => Char.ofNat byte.toNat
  if field.fieldEncoding = 0x31 ∨ field.fieldEncoding = 0x34 then
    if AreDigits 10 characters then some (digitsValue 10 characters) else none
  else if field.fieldEncoding = 0x32 ∨ field.fieldEncoding = 0x35 then
    if AreDigits 16 characters then some (digitsValue 16 characters) else none
  else if field.fieldEncoding = 0x36 then
    if data ≠ [] ∧ ∀ byte ∈ data, byte.toNat / 16 < 10 ∧ byte.toNat % 16 < 10 then
      some (data.foldl (fun number byte =>
        100 * number + 10 * (byte.toNat / 16) + byte.toNat % 16) 0)
    else none
  else if data = [] then none
  else if field.fieldEncoding = fieldEncodingValueHexLittle then some (ofLeBytes data)
  else some (ofLeBytes data.reverse)

/-- The identifiers of the settlement fields, in their order. -/
def idsOf (fields : List PayloadField) : List UInt16 :=
  (fields.map PayloadField.payloadFieldId).filter (· ∈ settlementIds)

/-- A row of the terminal: its fields in any order, none of them twice, with other
fields in between.  One or another may be missing. -/
structure SettlementRow where
  fields : List PayloadField
  once : (idsOf fields).Nodup
  supported : ∀ field ∈ fields, field.payloadFieldId ∈ settlementIds →
    isSupportedEncoding field.fieldEncoding = true
  numbers : ∀ field ∈ fields,
    field.payloadFieldId = idSofSaleCount ∨ field.payloadFieldId = idSofSaleTotal →
      ∃ value ∈ field.encodedValue, value < 2 ^ 63

namespace SettlementRow

/-- The field with an identifier. -/
def field? (row : SettlementRow) (id : UInt16) : Option PayloadField :=
  row.fields.find? fun field => field.payloadFieldId = id

/-- The provider. -/
def name (row : SettlementRow) : String := ((row.field? idSofName).map PayloadField.text).getD ""

/-- The encoded sale total; a missing one adds nothing. -/
def saleTotal (row : SettlementRow) : ℕ :=
  ((row.field? idSofSaleTotal).bind PayloadField.encodedValue).getD 0

/-- The encoded sale count. -/
def saleCount (row : SettlementRow) : ℕ :=
  ((row.field? idSofSaleCount).bind PayloadField.encodedValue).getD 0

/-- The row belongs to one of the three providers. -/
def Counted (row : SettlementRow) : Prop :=
  row.name = "NETS" ∨ row.name = "NFP" ∨ row.name = "NCC"

instance (row : SettlementRow) : Decidable row.Counted := inferInstanceAs (Decidable (_ ∨ _ ∨ _))

/-- No field is missing. -/
def Complete (row : SettlementRow) : Prop :=
  settlementIds ⊆ row.fields.map PayloadField.payloadFieldId

/-- A decimal number among the sale fields has one digit that counts. -/
def ReadsAlike (row : SettlementRow) : Prop :=
  ∀ id ∈ [idSofSaleTotal, idSofSaleCount], ∀ field ∈ row.field? id,
    field.IsDecimal → ∀ value ∈ field.encodedValue, value < 10

end SettlementRow

/-- The payload of a settlement. -/
def payloadOf (rows : List SettlementRow) : List PayloadField := rows.flatMap SettlementRow.fields

/-- The sums over the rows of the three providers. -/
def saleTotals (rows : List SettlementRow) : ℕ × ℕ :=
  let counted := rows.filter fun row => row.Counted
  ((counted.map SettlementRow.saleTotal).sum, (counted.map SettlementRow.saleCount).sum)

/-- Both paths report the sums over the rows. -/
def TotalsRight (rows : List SettlementRow) : Prop :=
  (settlementTotals stoull16 (payloadOf rows)).texts =
      (toString (saleTotals rows).1, toString (saleTotals rows).2) ∧
    (settlementTotals stoi16 (payloadOf rows)).texts =
      (settlementTotals stoull16 (payloadOf rows)).texts

/-- No row meets a defect of the two paths. -/
structure SettlesRight (rows : List SettlementRow) : Prop where
  complete : ∀ row ∈ rows, row.Complete
  readsAlike : ∀ row ∈ rows, row.Counted → row.ReadsAlike
  fits : ∀ row ∈ rows, row.Counted → row.saleTotal < 2 ^ 31 ∧ row.saleCount < 2 ^ 31
  forgotten : rows.Pairwise fun earlier later =>
    earlier.Counted → earlier.name = later.name → earlier.saleTotal = 0 ∧ earlier.saleCount = 0

/-! ## The text of a number -/

/-- Digits that mean a number below ten in base ten mean the same in base 16. -/
theorem digitsValue_of_lt_ten (digits : List Char) (hlt : digitsValue 10 digits < 10) :
    digitsValue 16 digits = digitsValue 10 digits := by
  induction digits using List.reverseRecOn with
  | nil => rfl
  | append_singleton front c ih =>
      simp only [digitsValue, List.foldl_append, List.foldl_cons, List.foldl_nil] at hlt ih ⊢
      rw [ih (by omega)]
      omega

/-- The characters of a number in hexadecimal are its digits. -/
theorem areDigits_flatMap_hexByte {data : List UInt8} (hdata : data ≠ []) :
    AreDigits 16 (data.flatMap hexByte) := by
  refine ⟨flatMap_hexByte_ne_nil hdata, ?_⟩
  · intro c hc
    obtain ⟨byte, -, hmem⟩ := List.mem_flatMap.mp hc
    have hbyte := byte.toNat_lt
    simp only [hexByte, List.mem_cons, List.not_mem_nil, or_false] at hmem
    rcases hmem with rfl | rfl
    · have hdigit := isHexDigit_digitChar (d := byte.toNat / 16) (by omega)
      exact ⟨hdigit.1, by omega⟩
    · have hdigit := isHexDigit_digitChar (d := byte.toNat % 16) (by omega)
      exact ⟨hdigit.1, by omega⟩

/-- The two digits of a byte in BCD. -/
theorem toDigits_ten {d : ℕ} (hd : d < 10) :
    Nat.toDigits 10 d = [Nat.digitChar d] ∧ isHexDigit (Nat.digitChar d) = true ∧
      hexDigitValue (Nat.digitChar d) = d := by
  refine ⟨?_, isHexDigit_digitChar (by omega)⟩
  interval_cases d <;> rfl

/-- The characters of a number in BCD are its decimal digits. -/
theorem areDigits_bcd {data : List UInt8} (hdata : data ≠ [])
    (hbcd : ∀ byte ∈ data, byte.toNat / 16 < 10 ∧ byte.toNat % 16 < 10) :
    AreDigits 10 (data.flatMap fun byte =>
      Nat.toDigits 10 (byte.toNat / 16) ++ Nat.toDigits 10 (byte.toNat % 16)) := by
  constructor
  · obtain ⟨byte, hbyte⟩ := List.exists_mem_of_ne_nil _ hdata
    intro hempty
    rw [List.flatMap_eq_nil_iff] at hempty
    have hnil := hempty byte hbyte
    rw [(toDigits_ten (hbcd byte hbyte).1).1] at hnil
    cases hnil
  · intro c hc
    obtain ⟨byte, hbyte, hmem⟩ := List.mem_flatMap.mp hc
    obtain ⟨hhigh, hdigit, hvalue⟩ := toDigits_ten (hbcd byte hbyte).1
    obtain ⟨hlow, hdigit', hvalue'⟩ := toDigits_ten (hbcd byte hbyte).2
    have hlt := hbcd byte hbyte
    rw [hhigh, hlow, List.mem_append, List.mem_singleton, List.mem_singleton] at hmem
    rcases hmem with rfl | rfl
    · exact ⟨hdigit, by omega⟩
    · exact ⟨hdigit', by omega⟩

theorem digitsValue_bcd {data : List UInt8}
    (hbcd : ∀ byte ∈ data, byte.toNat / 16 < 10 ∧ byte.toNat % 16 < 10) :
    digitsValue 10 (data.flatMap fun byte =>
        Nat.toDigits 10 (byte.toNat / 16) ++ Nat.toDigits 10 (byte.toNat % 16)) =
      data.foldl (fun number byte =>
        100 * number + 10 * (byte.toNat / 16) + byte.toNat % 16) 0 := by
  unfold digitsValue
  generalize 0 = start
  induction data generalizing start with
  | nil => rfl
  | cons byte rest ih =>
      obtain ⟨hhigh, -, hvalue⟩ := toDigits_ten (hbcd byte (by simp)).1
      obtain ⟨hlow, -, hvalue'⟩ := toDigits_ten (hbcd byte (by simp)).2
      rw [List.flatMap_cons, List.foldl_append, hhigh, hlow, List.foldl_cons,
        ih fun byte' hbyte' => hbcd byte' (List.mem_cons_of_mem _ hbyte')]
      congr 1
      simp only [List.cons_append, List.nil_append, List.foldl_cons, List.foldl_nil, hvalue,
        hvalue']
      omega

theorem AreDigits.of_le {base base' : ℕ} {digits : List Char} (hdigits : AreDigits base digits)
    (hle : base ≤ base') : AreDigits base' digits :=
  ⟨hdigits.1, fun c hc => ⟨(hdigits.2 c hc).1, (hdigits.2 c hc).2.trans_le hle⟩⟩

/-- The nine encodings. -/
theorem supported_cases {e : UInt8} (he : isSupportedEncoding e) :
    (e = 0x31 ∨ e = 0x34) ∨ (e = 0x32 ∨ e = 0x35) ∨ e = 0x36 ∨ e = fieldEncodingValueHexLittle ∨
      (e = 0x30 ∨ e = 0x33 ∨ e = 0x37) := by
  unfold isSupportedEncoding at he
  rw [Bool.and_eq_true, decide_eq_true_eq, decide_eq_true_eq, UInt8.le_iff_toNat_le,
    UInt8.le_iff_toNat_le] at he
  have hlow : 0x30 ≤ e.toNat := he.1
  have hhigh : e.toNat ≤ 0x38 := he.2
  unfold fieldEncodingValueHexLittle
  simp only [← UInt8.toNat_inj]
  generalize e.toNat = n at hlow hhigh
  interval_cases n <;> decide

/-- The text of a number consists of its digits, decimal ones or those in base 16. -/
theorem text_of_encodedValue {field : PayloadField} {value : ℕ}
    (hvalue : value ∈ field.encodedValue) (hsupported : isSupportedEncoding field.fieldEncoding) :
    ∃ digits, field.text = String.ofList digits ∧ AreDigits 16 digits ∧
      (field.IsDecimal → digitsValue 10 digits = value) ∧
      (¬field.IsDecimal → digitsValue 16 digits = value) := by
  have hnumber (data : List UInt8) :
      digitsValue 16 (data.flatMap hexByte) = ofLeBytes data.reverse := by
    rw [← foldl_reverse_eq_ofLeBytes, List.reverse_reverse]
    exact hexDigitsValue_flatMap data
  unfold PayloadField.encodedValue at hvalue
  unfold PayloadField.text PayloadField.IsDecimal
  dsimp only at hvalue
  rcases supported_cases hsupported with hascii | hhex | hbcd | hlittle | hbig
  · rw [if_pos hascii, Option.mem_def, Option.ite_none_right_eq_some] at hvalue
    rw [if_pos (by tauto)]
    exact ⟨_, rfl, hvalue.1.of_le (by norm_num), fun _ => Option.some.inj hvalue.2,
      fun h => absurd (by tauto) h⟩
  · have hnot : ¬(field.fieldEncoding = 0x31 ∨ field.fieldEncoding = 0x34) := by
      rcases hhex with h | h <;> rw [h] <;> decide
    rw [if_neg hnot, if_pos hhex, Option.mem_def, Option.ite_none_right_eq_some] at hvalue
    rw [if_pos (by tauto)]
    refine ⟨_, rfl, hvalue.1, fun h => ?_, fun _ => Option.some.inj hvalue.2⟩
    rcases hhex with hhex | hhex <;> rw [hhex] at h <;> exact absurd h (by decide)
  · rw [hbcd] at hvalue ⊢
    rw [if_neg (by decide), if_neg (by decide), if_pos rfl, Option.mem_def,
      Option.ite_none_right_eq_some] at hvalue
    rw [if_neg (by decide), if_neg (by decide), if_pos rfl]
    obtain ⟨⟨hdata, hdigits⟩, hvalue⟩ := hvalue
    exact ⟨_, rfl, (areDigits_bcd hdata hdigits).of_le (by norm_num),
      fun _ => (digitsValue_bcd hdigits).trans (Option.some.inj hvalue),
      fun h => absurd (by decide) h⟩
  · rw [hlittle] at hvalue ⊢
    rw [if_neg (by decide), if_neg (by decide), if_neg (by decide), Option.mem_def,
      Option.ite_none_left_eq_some, if_pos rfl] at hvalue
    rw [if_neg (by decide), if_pos rfl]
    refine ⟨_, rfl, areDigits_flatMap_hexByte ?_, fun h => absurd h (by decide), fun _ => ?_⟩
    · exact fun h => hvalue.1 (List.reverse_eq_nil_iff.mp h)
    · exact (hnumber _).trans (by
        rw [if_pos rfl, List.reverse_reverse]
        exact Option.some.inj hvalue.2)
  · have hne : field.fieldEncoding ≠ fieldEncodingValueHexLittle ∧ field.fieldEncoding ≠ 0x36 ∧
        ¬(field.fieldEncoding = 0x31 ∨ field.fieldEncoding = 0x34) ∧
        ¬(field.fieldEncoding = 0x32 ∨ field.fieldEncoding = 0x35) := by
      rcases hbig with h | h | h <;> rw [h] <;> decide
    obtain ⟨hlittle, hbcd, hascii, hhex⟩ := hne
    rw [if_neg hascii, if_neg hhex, if_neg hbcd, Option.mem_def, Option.ite_none_left_eq_some,
      if_neg hlittle] at hvalue
    rw [if_neg (by tauto), if_neg hlittle, if_neg hbcd, if_pos hbig]
    exact ⟨_, rfl, areDigits_flatMap_hexByte hvalue.1, fun h => absurd (by tauto) hascii,
      fun _ => (hnumber _).trans (Option.some.inj hvalue.2)⟩

/-! ## Reading a number back -/

/-- `std::stoull` reads digits in base 16 to their end. -/
theorem stoull16_ofList {digits : List Char} (hdigits : AreDigits 16 digits)
    (hlt : digitsValue 16 digits < 2 ^ 64) :
    stoull16 (String.ofList digits) = some (UInt64.ofNat (digitsValue 16 digits)) := by
  obtain ⟨hsign, htake⟩ := takeHexDigits_of_isHexDigit (fun c hc => (hdigits.2 c hc).1) hdigits.1
  have hread (taken : List Char) (htaken : taken = digits) :
      (if taken = [] ∨ 2 ^ 64 ≤ hexDigitsValue taken then none else some (hexDigitsValue taken)) =
        some (digitsValue 16 digits) := by
    rw [htaken, if_neg]
    · rfl
    · rintro (h | h)
      · exact hdigits.1 h
      · exact not_le.mpr hlt h
  have heq : stoulHex (String.ofList digits) = some (digitsValue 16 digits) := by
    unfold stoulHex
    rw [String.toList_ofList, hsign]
    unfold takeHexDigits at htake
    dsimp only
    split
    · exact hread _ htake
    · next hshape =>
        split at htake
        · exact absurd rfl (hshape _ _)
        · exact hread _ htake
  rw [stoull16, heq]
  rfl

/-- `std::stoi` reads them if the number fits in an `int`. -/
theorem stoi16_ofList {digits : List Char} (hdigits : AreDigits 16 digits) :
    stoi16 (String.ofList digits) =
      if digitsValue 16 digits < 2 ^ 31 then some (UInt64.ofNat (digitsValue 16 digits))
      else none := by
  have hfits : FitsInt (digitsValue 16 digits) ↔ digitsValue 16 digits < 2 ^ 31 := by
    unfold FitsInt
    omega
  rw [stoi16, stoiHex_ofList (fun c hc => (hdigits.2 c hc).1) hdigits.1]
  change (if FitsInt (digitsValue 16 digits) then some (digitsValue 16 digits : ℤ)
    else none).map UInt64.ofInt = _
  simp only [hfits]
  split_ifs with hlt
  · rw [Option.map_some, UInt64.ofInt]
    congr 2
    omega
  · rfl

/-! ## Reading a row -/

/-- Each place of the row takes the text of the fields that go there. -/
theorem assign_eq (row : SettlementPayloadRow) (payload : PayloadField) :
    row.assign payload =
      { acquirer := if payload.payloadFieldId = idSofAcquirer then payload.text else row.acquirer
        name := if payload.payloadFieldId = idSofName then payload.text else row.name
        preAuthCompleteCount :=
          if payload.payloadFieldId = idSofPreAuthCompleteCount then payload.text
          else row.preAuthCompleteCount
        preAuthCompleteTotal :=
          if payload.payloadFieldId = idSofPreAuthCompleteTotal then payload.text
          else row.preAuthCompleteTotal
        saleCount := if payload.payloadFieldId = idSofSaleCount then payload.text else row.saleCount
        saleTotal :=
          if payload.payloadFieldId = idSofSaleTotal then payload.text else row.saleTotal } := by
  unfold SettlementPayloadRow.assign
  by_cases hmem : payload.payloadFieldId ∈ settlementIds
  · simp only [settlementIds, List.mem_cons, List.not_mem_nil, or_false] at hmem
    rcases hmem with hid | hid | hid | hid | hid | hid <;>
    · rw [hid]
      rfl
  · simp only [settlementIds, List.mem_cons, List.not_mem_nil, or_false, not_or] at hmem
    simp only [hmem, if_false]
theorem assign_of_notMem {payload : PayloadField}
    (hother : payload.payloadFieldId ∉ settlementIds) (row : SettlementPayloadRow) :
    row.assign payload = row := by
  simp only [settlementIds, List.mem_cons, List.not_mem_nil, or_false, not_or] at hother
  unfold SettlementPayloadRow.assign
  simp only [hother, if_false]

theorem idsOf_cons (payload : PayloadField) (rest : List PayloadField) :
    idsOf (payload :: rest) =
      if payload.payloadFieldId ∈ settlementIds then payload.payloadFieldId :: idsOf rest
      else idsOf rest := by
  unfold idsOf
  rw [List.map_cons, List.filter_cons]
  simp only [decide_eq_true_eq]

/-- A place of the row holds the text of the field that goes there. -/
theorem foldl_assign {place : SettlementPayloadRow → String} {id : UInt16}
    (hid : id ∈ settlementIds)
    (hplace : ∀ row payload, place (row.assign payload) =
      if payload.payloadFieldId = id then payload.text else place row)
    (fields : List PayloadField) (honce : (idsOf fields).Nodup) (row : SettlementPayloadRow) :
    place (fields.foldl SettlementPayloadRow.assign row) =
      ((fields.find? fun field => field.payloadFieldId = id).map PayloadField.text).getD
        (place row) := by
  induction fields generalizing row with
  | nil => rfl
  | cons payload rest ih =>
      rw [idsOf_cons] at honce
      rw [List.foldl_cons, List.find?_cons]
      by_cases hmine : payload.payloadFieldId = id
      · -- no later field goes to this place
        rw [if_pos (by rw [hmine]; exact hid), List.nodup_cons] at honce
        have hnone : (rest.find? fun field => field.payloadFieldId = id) = none := by
          rw [List.find?_eq_none]
          intro field hfield heq
          rw [decide_eq_true_eq] at heq
          apply honce.1
          rw [hmine, ← heq]
          exact List.mem_filter.mpr
            ⟨List.mem_map_of_mem hfield, by rw [heq]; exact decide_eq_true hid⟩
        rw [ih honce.2, hnone, hplace, if_pos hmine, decide_eq_true hmine]
        rfl
      · have hrest : (idsOf rest).Nodup := by
          split_ifs at honce
          · exact (List.nodup_cons.mp honce).2
          · exact honce
        rw [ih hrest, hplace, if_neg hmine, decide_eq_false hmine]

theorem read_of_notMem {payload : PayloadField} (hother : payload.payloadFieldId ∉ settlementIds)
    {reader : RowReader} (hcount : reader.count ≠ 6) : reader.read payload = reader := by
  unfold RowReader.read
  simp only [hother, false_and, if_false, hcount, assign_of_notMem hother]

theorem read_of_mem {payload : PayloadField} (hmine : payload.payloadFieldId ∈ settlementIds)
    (hsupported : isSupportedEncoding payload.fieldEncoding = true) (reader : RowReader) :
    reader.read payload =
      if reader.count + 1 = 6 then { rows := reader.rows ++ [reader.currentRow.assign payload] }
      else { reader with
        currentRow := reader.currentRow.assign payload, count := reader.count + 1 } := by
  unfold RowReader.read
  simp only [hmine, hsupported, and_self, if_true]

theorem foldl_read_others (fields : List PayloadField) (hothers : idsOf fields = [])
    {reader : RowReader} (hcount : reader.count ≠ 6) (row : SettlementPayloadRow) :
    fields.foldl RowReader.read reader = reader ∧
      fields.foldl SettlementPayloadRow.assign row = row := by
  induction fields with
  | nil => exact ⟨rfl, rfl⟩
  | cons payload rest ih =>
      rw [idsOf_cons] at hothers
      have hother : payload.payloadFieldId ∉ settlementIds := by
        intro hmem
        rw [if_pos hmem] at hothers
        cases hothers
      rw [if_neg hother] at hothers
      rw [List.foldl_cons, List.foldl_cons, read_of_notMem hother hcount, assign_of_notMem hother]
      exact ih hothers

/-- The sixth settlement field ends the row, wherever it stands. -/
theorem foldl_read (fields : List PayloadField)
    (hsupported : ∀ field ∈ fields, field.payloadFieldId ∈ settlementIds →
      isSupportedEncoding field.fieldEncoding = true)
    (reader : RowReader) (hcount : reader.count < 6)
    (hlength : reader.count + (idsOf fields).length = 6) :
    fields.foldl RowReader.read reader =
      { rows := reader.rows ++ [fields.foldl SettlementPayloadRow.assign reader.currentRow] } := by
  induction fields generalizing reader with
  | nil =>
      simp only [idsOf, List.map_nil, List.filter_nil, List.length_nil] at hlength
      omega
  | cons payload rest ih =>
      rw [idsOf_cons] at hlength
      have hrest := fun field hfield => hsupported field (List.mem_cons_of_mem _ hfield)
      rw [List.foldl_cons, List.foldl_cons]
      by_cases hmine : payload.payloadFieldId ∈ settlementIds
      · rw [if_pos hmine, List.length_cons] at hlength
        rw [read_of_mem hmine (hsupported payload (by simp) hmine)]
        by_cases hlast : reader.count + 1 = 6
        · -- the row ends here: only other fields follow
          have hothers : idsOf rest = [] := List.length_eq_zero_iff.mp (by omega)
          obtain ⟨hreads, hassigns⟩ := @foldl_read_others rest hothers
            { rows := reader.rows ++ [reader.currentRow.assign payload] } (by simp)
            (reader.currentRow.assign payload)
          rw [if_pos hlast, hreads, hassigns]
        · rw [if_neg hlast, ih hrest _ (by dsimp only; omega) (by dsimp only; omega)]
      · rw [if_neg hmine] at hlength
        rw [read_of_notMem hmine (by omega), ih hrest reader hcount hlength, assign_of_notMem hmine]

namespace SettlementRow

/-- The row that the code makes of the fields. -/
def payloadRow (row : SettlementRow) : SettlementPayloadRow :=
  row.fields.foldl SettlementPayloadRow.assign {}

theorem payloadRow_name (row : SettlementRow) : row.payloadRow.name = row.name :=
  foldl_assign (by decide)
    (fun before payload => congrArg SettlementPayloadRow.name (assign_eq before payload))
    row.fields row.once {}

theorem payloadRow_saleTotal (row : SettlementRow) :
    row.payloadRow.saleTotal = ((row.field? idSofSaleTotal).map PayloadField.text).getD "" :=
  foldl_assign (by decide)
    (fun before payload => congrArg SettlementPayloadRow.saleTotal (assign_eq before payload))
    row.fields row.once {}

theorem payloadRow_saleCount (row : SettlementRow) :
    row.payloadRow.saleCount = ((row.field? idSofSaleCount).map PayloadField.text).getD "" :=
  foldl_assign (by decide)
    (fun before payload => congrArg SettlementPayloadRow.saleCount (assign_eq before payload))
    row.fields row.once {}

theorem idsOf_length {row : SettlementRow} (hcomplete : row.Complete) :
    (idsOf row.fields).length = 6 := by
  have hperm : (idsOf row.fields).Perm settlementIds := by
    have hnodup : settlementIds.Nodup := by decide
    rw [List.perm_ext_iff_of_nodup row.once hnodup]
    intro id
    constructor
    · intro hid
      exact of_decide_eq_true (List.mem_filter.mp hid).2
    · intro hid
      exact List.mem_filter.mpr ⟨hcomplete hid, decide_eq_true hid⟩
  exact hperm.length_eq

/-- The values of a row. -/
def values (row : SettlementRow) : ℕ × ℕ := (row.saleTotal, row.saleCount)

theorem of_field? {row : SettlementRow} {id : UInt16} {field : PayloadField}
    (hfield : row.field? id = some field) : field ∈ row.fields ∧ field.payloadFieldId = id := by
  unfold field? at hfield
  have hid := List.find?_some hfield
  exact ⟨List.mem_of_find?_eq_some hfield, of_decide_eq_true hid⟩

theorem exists_field? {row : SettlementRow} (hcomplete : row.Complete) {id : UInt16}
    (hid : id ∈ settlementIds) : ∃ field, row.field? id = some field := by
  obtain ⟨field, hfield, heq⟩ := List.mem_map.mp (hcomplete hid)
  unfold field?
  rw [← Option.isSome_iff_exists, List.find?_isSome]
  exact ⟨field, hfield, decide_eq_true heq⟩

/-- What the two conversions make of a sale field. -/
theorem convert_text {row : SettlementRow} (hcomplete : row.Complete) (halike : row.ReadsAlike)
    (id : UInt16) (hid : id ∈ [idSofSaleTotal, idSofSaleCount]) :
    let text := ((row.field? id).map PayloadField.text).getD ""
    let value := ((row.field? id).bind PayloadField.encodedValue).getD 0
    value < 2 ^ 63 ∧ stoull16 text = some (UInt64.ofNat value) ∧
      stoi16 text = if value < 2 ^ 31 then some (UInt64.ofNat value) else none := by
  have hsale : id = idSofSaleTotal ∨ id = idSofSaleCount := by simpa using hid
  have hmem : id ∈ settlementIds := by rcases hsale with rfl | rfl <;> decide
  obtain ⟨field, hfound⟩ := exists_field? hcomplete hmem
  obtain ⟨hfield, hfieldId⟩ := of_field? hfound
  obtain ⟨value, hvalue, hlt⟩ := row.numbers field hfield (by rw [hfieldId]; exact hsale.symm)
  obtain ⟨digits, htext, hdigits, hdecimal, hhex⟩ :=
    text_of_encodedValue hvalue (row.supported field hfield (by rw [hfieldId]; exact hmem))
  have hread : digitsValue 16 digits = value := by
    by_cases hkind : field.IsDecimal
    · have hten := halike id hid field hfound hkind value hvalue
      rw [digitsValue_of_lt_ten _ (by rw [hdecimal hkind]; exact hten), hdecimal hkind]
    · exact hhex hkind
  rw [hfound]
  dsimp only [Option.map_some, Option.getD_some, Option.bind_some]
  rw [Option.mem_def.mp hvalue, htext, stoi16_ofList hdigits,
    stoull16_ofList hdigits (by rw [hread]; omega), hread]
  exact ⟨hlt, rfl, rfl⟩

end SettlementRow

theorem findReceivedSettlementPayloadData_payloadOf {rows : List SettlementRow}
    (hcomplete : ∀ row ∈ rows, row.Complete) :
    findReceivedSettlementPayloadData (payloadOf rows) = rows.map SettlementRow.payloadRow := by
  have hread (read : List SettlementPayloadRow) :
      (payloadOf rows).foldl RowReader.read { rows := read } =
        { rows := read ++ rows.map SettlementRow.payloadRow } := by
    induction rows generalizing read with
    | nil => simp [payloadOf]
    | cons row rest ih =>
        have hrow := foldl_read row.fields row.supported { rows := read } (by simp)
          (by simpa using SettlementRow.idsOf_length (hcomplete row (by simp)))
        have hrest := ih fun later hlater => hcomplete later (List.mem_cons_of_mem _ hlater)
        rw [payloadOf, List.flatMap_cons, List.foldl_append, hrow]
        rw [payloadOf] at hrest
        rw [hrest, List.map_cons, List.append_assoc]
        rfl
  unfold findReceivedSettlementPayloadData
  rw [hread []]
  rfl

/-! ## What a provider keeps -/

/-- One assignment to a provider, when the conversions accept what lies below `bound`. -/
def keep (bound : ℕ) (kept values : ℕ × ℕ) : ℕ × ℕ :=
  if values.1 < bound then (values.1, if values.2 < bound then values.2 else kept.2) else kept

/-- What the rows of a provider leave behind. -/
def keptOf (bound : ℕ) (values : List (ℕ × ℕ)) : ℕ × ℕ := values.foldl (keep bound) (0, 0)

/-- The sums over the rows of a provider. -/
def sumOf (values : List (ℕ × ℕ)) : ℕ × ℕ :=
  ((values.map Prod.fst).sum, (values.map Prod.snd).sum)

/-- Every row of the provider but the last one is zero. -/
def Forgets (values : List (ℕ × ℕ)) : Prop := values.Pairwise fun earlier _ => earlier = (0, 0)

/-- The values that the terminal can send. -/
def InRange (bound : ℕ) (values : List (ℕ × ℕ)) : Prop :=
  ∀ value ∈ values, value.1 < bound ∧ value.2 < bound

theorem keptOf_append (bound : ℕ) (front : List (ℕ × ℕ)) (last : ℕ × ℕ) :
    keptOf bound (front ++ [last]) = keep bound (keptOf bound front) last := by
  rw [keptOf, List.foldl_append]
  rfl

theorem sumOf_append (front : List (ℕ × ℕ)) (last : ℕ × ℕ) :
    sumOf (front ++ [last]) = ((sumOf front).1 + last.1, (sumOf front).2 + last.2) := by
  simp [sumOf]

theorem forgets_append (front : List (ℕ × ℕ)) (last : ℕ × ℕ) :
    Forgets (front ++ [last]) ↔ ∀ value ∈ front, value = (0, 0) := by
  unfold Forgets
  rw [List.pairwise_append]
  constructor
  · rintro ⟨-, -, hall⟩ value hvalue
    exact hall value hvalue last (by simp)
  · intro hall
    exact ⟨List.Pairwise.imp_of_mem (fun ha _ _ => hall _ ha) (List.pairwise_of_forall fun _ _ =>
      trivial), List.pairwise_singleton _ _, fun a ha _ _ => hall a ha⟩

theorem sumOf_eq_zero {values : List (ℕ × ℕ)} (hfst : (sumOf values).1 = 0)
    (hsnd : (sumOf values).2 = 0) : ∀ value ∈ values, value = (0, 0) := by
  intro value hvalue
  have hfst' := (List.sum_eq_zero_iff.mp hfst) value.1 (List.mem_map_of_mem hvalue)
  have hsnd' := (List.sum_eq_zero_iff.mp hsnd) value.2 (List.mem_map_of_mem hvalue)
  exact Prod.ext hfst' hsnd'

theorem keptOf_zeros (bound : ℕ) {values : List (ℕ × ℕ)}
    (hzero : ∀ value ∈ values, value = (0, 0)) :
    keptOf bound values = (0, 0) ∧ sumOf values = (0, 0) := by
  induction values using List.reverseRecOn with
  | nil => exact ⟨rfl, rfl⟩
  | append_singleton front last ih =>
      obtain ⟨hkept, hsum⟩ := ih fun value hvalue => hzero value (by simp [hvalue])
      rw [keptOf_append, sumOf_append, hkept, hsum, hzero last (by simp)]
      refine ⟨?_, rfl⟩
      unfold keep
      split_ifs <;> rfl

/-- With `std::stoull` the last row is kept. -/
theorem keptOf_mem {values : List (ℕ × ℕ)} (hrange : InRange (2 ^ 64) values) :
    keptOf (2 ^ 64) values ∈ (0, 0) :: values := by
  rcases List.eq_nil_or_concat values with rfl | ⟨front, last, rfl⟩
  · exact List.mem_cons_self
  · rw [List.concat_eq_append] at hrange ⊢
    have hlast := hrange last (by simp)
    rw [keptOf_append, keep, if_pos hlast.1, if_pos hlast.2]
    simp

/-- With `std::stoull` the last row is kept: that is the sum exactly if the rows before are zero. -/
theorem keptOf_le {values : List (ℕ × ℕ)} (hrange : InRange (2 ^ 64) values) :
    (keptOf (2 ^ 64) values).1 ≤ (sumOf values).1 ∧
      (keptOf (2 ^ 64) values).2 ≤ (sumOf values).2 ∧
      (keptOf (2 ^ 64) values = sumOf values ↔ Forgets values) := by
  rcases List.eq_nil_or_concat values with rfl | ⟨front, last, rfl⟩
  · exact ⟨le_rfl, le_rfl, iff_of_true rfl List.Pairwise.nil⟩
  · rw [List.concat_eq_append] at hrange ⊢
    have hlast := hrange last (by simp)
    have hkeep : keptOf (2 ^ 64) (front ++ [last]) = last := by
      rw [keptOf_append, keep, if_pos hlast.1, if_pos hlast.2]
    rw [hkeep, sumOf_append, forgets_append]
    refine ⟨Nat.le_add_left _ _, Nat.le_add_left _ _, ?_⟩
    constructor
    · intro heq
      have hfst := congrArg Prod.fst heq
      have hsnd := congrArg Prod.snd heq
      exact sumOf_eq_zero (by simpa using hfst) (by simpa using hsnd)
    · intro hzero
      rw [(keptOf_zeros 0 hzero).2]
      simp

/-- With `std::stoi` that is kept too, exactly if the values fit in an `int`. -/
theorem keptOf_int {values : List (ℕ × ℕ)} (hrange : InRange (2 ^ 64) values)
    (hforgets : Forgets values) :
    (keptOf (2 ^ 31) values).1 ≤ (keptOf (2 ^ 64) values).1 ∧
      (keptOf (2 ^ 31) values).2 ≤ (keptOf (2 ^ 64) values).2 ∧
      (keptOf (2 ^ 31) values = keptOf (2 ^ 64) values ↔ InRange (2 ^ 31) values) := by
  rcases List.eq_nil_or_concat values with rfl | ⟨front, last, rfl⟩
  · exact ⟨le_rfl, le_rfl, iff_of_true rfl fun value hvalue => absurd hvalue (by simp)⟩
  · rw [List.concat_eq_append] at hrange hforgets ⊢
    have hzero := (forgets_append front last).mp hforgets
    have hlast := hrange last (by simp)
    have hkeep : keptOf (2 ^ 64) (front ++ [last]) = last := by
      rw [keptOf_append, keep, if_pos hlast.1, if_pos hlast.2]
    have hrest : InRange (2 ^ 31) (front ++ [last]) ↔ last.1 < 2 ^ 31 ∧ last.2 < 2 ^ 31 := by
      constructor
      · intro h
        exact h last (by simp)
      · intro h value hvalue
        rcases List.mem_append.mp hvalue with hfront | hmem
        · rw [hzero value hfront]
          decide
        · rwa [List.mem_singleton.mp hmem]
    rw [hkeep, keptOf_append, (keptOf_zeros (2 ^ 31) hzero).1, hrest]
    unfold keep
    by_cases hfst : last.1 < 2 ^ 31
    · by_cases hsnd : last.2 < 2 ^ 31
      · rw [if_pos hfst, if_pos hsnd]
        exact ⟨le_rfl, le_rfl, iff_of_true rfl ⟨hfst, hsnd⟩⟩
      · rw [if_pos hfst, if_neg hsnd]
        refine ⟨le_rfl, Nat.zero_le _, iff_of_false ?_ fun h => hsnd h.2⟩
        intro heq
        have := congrArg Prod.snd heq
        dsimp only at this
        omega
    · rw [if_neg hfst]
      refine ⟨Nat.zero_le _, Nat.zero_le _, iff_of_false ?_ fun h => hfst h.1⟩
      intro heq
      have := congrArg Prod.fst heq
      dsimp only at this
      omega

/-! ## The totals of the code -/

/-- The values of the rows of a provider. -/
def valuesOf (name : String) (rows : List SettlementRow) : List (ℕ × ℕ) :=
  (rows.filter fun row => row.name = name).map SettlementRow.values

theorem valuesOf_append (name : String) (front : List SettlementRow) (row : SettlementRow) :
    valuesOf name (front ++ [row]) =
      if row.name = name then valuesOf name front ++ [row.values] else valuesOf name front := by
  unfold valuesOf
  rw [List.filter_append, List.map_append]
  by_cases hname : row.name = name
  · rw [if_pos hname, List.filter_singleton, decide_eq_true hname]
    rfl
  · rw [if_neg hname, List.filter_singleton, decide_eq_false hname]
    exact List.append_nil _

/-- The two numbers as the code holds them. -/
def ProviderTotals.of (values : ℕ × ℕ) : ProviderTotals :=
  { amount := UInt64.ofNat values.1, count := UInt64.ofNat values.2 }

theorem ProviderTotals.assign_of {convert : String → Option UInt64} {bound : ℕ}
    {data : SettlementPayloadRow} {values : ℕ × ℕ}
    (hamount : convert data.saleTotal =
      if values.1 < bound then some (UInt64.ofNat values.1) else none)
    (hcount : convert data.saleCount =
      if values.2 < bound then some (UInt64.ofNat values.2) else none) (kept : ℕ × ℕ) :
    (ProviderTotals.of kept).assign convert data = ProviderTotals.of (keep bound kept values) := by
  unfold ProviderTotals.assign keep
  rw [hamount, hcount]
  by_cases hfst : values.1 < bound
  · by_cases hsnd : values.2 < bound
    · simp only [if_pos hfst, if_pos hsnd]
      rfl
    · simp only [if_pos hfst, if_neg hsnd]
      rfl
  · simp only [if_neg hfst]

/-- The conversion reads what lies below `bound` in the sale fields of the counted rows. -/
def ReadsBelow (convert : String → Option UInt64) (bound : ℕ) (rows : List SettlementRow) : Prop :=
  ∀ row ∈ rows, row.Counted →
    (convert row.payloadRow.saleTotal =
      if row.saleTotal < bound then some (UInt64.ofNat row.saleTotal) else none) ∧
    (convert row.payloadRow.saleCount =
      if row.saleCount < bound then some (UInt64.ofNat row.saleCount) else none)

/-- The providers' totals, each from its own rows. -/
theorem settlementTotals_payloadOf {convert : String → Option UInt64} {bound : ℕ}
    {rows : List SettlementRow} (hcomplete : ∀ row ∈ rows, row.Complete)
    (hreads : ReadsBelow convert bound rows) :
    settlementTotals convert (payloadOf rows) =
      { nets := .of (keptOf bound (valuesOf "NETS" rows))
        nfp := .of (keptOf bound (valuesOf "NFP" rows))
        ncc := .of (keptOf bound (valuesOf "NCC" rows)) } := by
  unfold settlementTotals
  rw [findReceivedSettlementPayloadData_payloadOf hcomplete]
  clear hcomplete
  induction rows using List.reverseRecOn with
  | nil => rfl
  | append_singleton front row ih =>
      have hfront := ih fun earlier hearlier => hreads earlier (List.mem_append_left _ hearlier)
      have hassign (hcounted : row.Counted) (kept : ℕ × ℕ) :
          (ProviderTotals.of kept).assign convert row.payloadRow =
            ProviderTotals.of (keep bound kept row.values) := by
        obtain ⟨hamount, hcount⟩ := hreads row (by simp) hcounted
        exact ProviderTotals.assign_of hamount hcount kept
      rw [List.map_append, List.foldl_append, hfront, valuesOf_append, valuesOf_append,
        valuesOf_append]
      simp only [List.map_cons, List.map_nil, List.foldl_cons, List.foldl_nil]
      unfold SettlementTotals.assign
      rw [row.payloadRow_name]
      by_cases hnets : row.name = "NETS"
      · rw [hnets, if_pos rfl, if_pos rfl, if_neg (by decide), if_neg (by decide), keptOf_append,
          hassign (Or.inl hnets)]
      rw [if_neg hnets, if_neg hnets]
      by_cases hnfp : row.name = "NFP"
      · rw [hnfp, if_pos rfl, if_pos rfl, if_neg (by decide), keptOf_append,
          hassign (Or.inr (Or.inl hnfp))]
      rw [if_neg hnfp, if_neg hnfp]
      by_cases hncc : row.name = "NCC"
      · rw [hncc, if_pos rfl, if_pos rfl, keptOf_append, hassign (Or.inr (Or.inr hncc))]
      · rw [if_neg hncc, if_neg hncc]

/-- The two conversions on rows that read alike. -/
theorem readsBelow_of_readsAlike {rows : List SettlementRow}
    (hcomplete : ∀ row ∈ rows, row.Complete)
    (halike : ∀ row ∈ rows, row.Counted → row.ReadsAlike) :
    ReadsBelow stoull16 (2 ^ 64) rows ∧ ReadsBelow stoi16 (2 ^ 31) rows ∧
      ∀ row ∈ rows, row.Counted → row.saleTotal < 2 ^ 64 ∧ row.saleCount < 2 ^ 64 := by
  have hconvert (row : SettlementRow) (hrow : row ∈ rows) (hcounted : row.Counted) :=
    SettlementRow.convert_text (hcomplete row hrow) (halike row hrow hcounted)
  refine ⟨?_, ?_, ?_⟩
  · intro row hrow hcounted
    obtain ⟨hamount, hamounts, -⟩ := hconvert row hrow hcounted idSofSaleTotal (by simp)
    obtain ⟨hcount, hcounts, -⟩ := hconvert row hrow hcounted idSofSaleCount (by simp)
    rw [row.payloadRow_saleTotal, row.payloadRow_saleCount, hamounts, hcounts]
    exact ⟨(if_pos (hamount.trans (by norm_num))).symm, (if_pos (hcount.trans (by norm_num))).symm⟩
  · intro row hrow hcounted
    obtain ⟨-, -, hamounts⟩ := hconvert row hrow hcounted idSofSaleTotal (by simp)
    obtain ⟨-, -, hcounts⟩ := hconvert row hrow hcounted idSofSaleCount (by simp)
    rw [row.payloadRow_saleTotal, row.payloadRow_saleCount]
    exact ⟨hamounts, hcounts⟩
  · intro row hrow hcounted
    obtain ⟨hamount, -, -⟩ := hconvert row hrow hcounted idSofSaleTotal (by simp)
    obtain ⟨hcount, -, -⟩ := hconvert row hrow hcounted idSofSaleCount (by simp)
    exact ⟨hamount.trans (by norm_num), hcount.trans (by norm_num)⟩

/-- The names of the three providers. -/
def providers : List String := ["NETS", "NFP", "NCC"]

theorem counted_iff (row : SettlementRow) : row.Counted ↔ row.name ∈ providers := by
  simp [SettlementRow.Counted, providers]

theorem inRange_valuesOf {bound : ℕ} {rows : List SettlementRow} :
    (∀ name ∈ providers, InRange bound (valuesOf name rows)) ↔
      ∀ row ∈ rows, row.Counted → row.saleTotal < bound ∧ row.saleCount < bound := by
  simp only [counted_iff, InRange, valuesOf, List.forall_mem_map, List.mem_filter,
    decide_eq_true_eq, and_imp]
  constructor
  · intro h row hrow hcounted
    exact h row.name hcounted row hrow rfl
  · rintro h name hname row hrow rfl
    exact h row hrow hname

theorem forgets_valuesOf {rows : List SettlementRow} :
    (∀ name ∈ providers, Forgets (valuesOf name rows)) ↔
      rows.Pairwise fun earlier later => earlier.Counted → earlier.name = later.name →
        earlier.saleTotal = 0 ∧ earlier.saleCount = 0 := by
  have hname (name : String) : Forgets (valuesOf name rows) ↔
      rows.Pairwise fun earlier later => earlier.name = name → later.name = name →
        earlier.saleTotal = 0 ∧ earlier.saleCount = 0 := by
    unfold Forgets valuesOf
    rw [List.pairwise_map, List.pairwise_filter]
    simp only [decide_eq_true_eq, SettlementRow.values, Prod.mk.injEq]
  simp only [hname, counted_iff]
  constructor
  · intro h
    have hall := ((h "NETS" (by decide)).and ((h "NFP" (by decide)).and (h "NCC" (by decide))))
    refine hall.imp ?_
    rintro earlier later ⟨hnets, hnfp, hncc⟩ hcounted heq
    simp only [providers, List.mem_cons, List.not_mem_nil, or_false] at hcounted
    rcases hcounted with hcounted | hcounted | hcounted
    · exact hnets hcounted (heq ▸ hcounted)
    · exact hnfp hcounted (heq ▸ hcounted)
    · exact hncc hcounted (heq ▸ hcounted)
  · intro h name hname
    refine h.imp ?_
    rintro earlier later hzero rfl heq
    exact hzero hname heq.symm

theorem saleTotals_eq (rows : List SettlementRow) :
    saleTotals rows =
      ((sumOf (valuesOf "NETS" rows)).1 + (sumOf (valuesOf "NFP" rows)).1 +
          (sumOf (valuesOf "NCC" rows)).1,
        (sumOf (valuesOf "NETS" rows)).2 + (sumOf (valuesOf "NFP" rows)).2 +
          (sumOf (valuesOf "NCC" rows)).2) := by
  induction rows using List.reverseRecOn with
  | nil => rfl
  | append_singleton front row ih =>
      have happend : saleTotals (front ++ [row]) =
          if row.Counted then ((saleTotals front).1 + row.saleTotal,
            (saleTotals front).2 + row.saleCount) else saleTotals front := by
        unfold saleTotals
        rw [List.filter_append, List.filter_singleton]
        by_cases hcounted : row.Counted
        · rw [decide_eq_true hcounted, if_pos hcounted]
          simp
        · rw [decide_eq_false hcounted, if_neg hcounted]
          simp
      rw [happend, ih, valuesOf_append, valuesOf_append, valuesOf_append]
      by_cases hnets : row.name = "NETS"
      · rw [if_pos (show row.Counted from Or.inl hnets), hnets, if_pos rfl, if_neg (by decide),
          if_neg (by decide), sumOf_append]
        simp only [SettlementRow.values, Prod.mk.injEq]
        omega
      by_cases hnfp : row.name = "NFP"
      · rw [if_pos (show row.Counted from Or.inr (Or.inl hnfp)), hnfp, if_neg (by decide),
          if_pos rfl, if_neg (by decide), sumOf_append]
        simp only [SettlementRow.values, Prod.mk.injEq]
        omega
      by_cases hncc : row.name = "NCC"
      · rw [if_pos (show row.Counted from Or.inr (Or.inr hncc)), hncc, if_neg (by decide),
          if_neg (by decide), if_pos rfl, sumOf_append]
        simp only [SettlementRow.values, Prod.mk.injEq]
        omega
      · have hnot : ¬row.Counted := by
          unfold SettlementRow.Counted
          tauto
        rw [if_neg hnot, if_neg hnets, if_neg hnfp, if_neg hncc]

/-- The texts of totals, in numbers. -/
theorem texts_of (nets nfp ncc : ℕ × ℕ) :
    SettlementTotals.texts { nets := .of nets, nfp := .of nfp, ncc := .of ncc } =
      (toString ((nets.1 + nfp.1 + ncc.1) % 2 ^ 64),
        toString ((nets.2 + nfp.2 + ncc.2) % 2 ^ 64)) := by
  unfold SettlementTotals.texts ProviderTotals.of
  simp only [UInt64.toNat_add, UInt64.toNat_ofNat', Prod.mk.injEq]
  constructor <;> congr 1 <;> omega

theorem texts_inj {first second first' second' : ℕ} :
    ((toString first, toString second) : String × String) = (toString first', toString second') ↔
      first = first' ∧ second = second' := by
  rw [Prod.mk.injEq]
  exact and_congr Nat.repr_inj Nat.repr_inj

/-! ## When the totals are right -/

/-- For complete rows that read alike the totals are right exactly if no row meets a defect. -/
theorem totalsRight_iff {rows : List SettlementRow} (hcomplete : ∀ row ∈ rows, row.Complete)
    (halike : ∀ row ∈ rows, row.Counted → row.ReadsAlike) :
    TotalsRight rows ↔ SettlesRight rows := by
  obtain ⟨hlong, hint, hrange⟩ := readsBelow_of_readsAlike hcomplete halike
  have hin := inRange_valuesOf.mpr hrange
  have hkept := fun name hname => keptOf_le (hin name hname)
  obtain ⟨hnets, hnets', hnetsEq⟩ := hkept "NETS" (by decide)
  obtain ⟨hnfp, hnfp', hnfpEq⟩ := hkept "NFP" (by decide)
  obtain ⟨hncc, hncc', hnccEq⟩ := hkept "NCC" (by decide)
  unfold TotalsRight
  rw [settlementTotals_payloadOf hcomplete hlong, settlementTotals_payloadOf hcomplete hint,
    texts_of, texts_of, saleTotals_eq, texts_inj, texts_inj]
  constructor
  · rintro ⟨⟨hamount, hcount⟩, hamounts, hcounts⟩
    -- nothing is lost in the sum, so nothing is lost in a provider
    have hforgets : ∀ name ∈ providers, Forgets (valuesOf name rows) := by
      intro name hname
      simp only [providers, List.mem_cons, List.not_mem_nil, or_false] at hname
      rcases hname with rfl | rfl | rfl
      · exact hnetsEq.mp (Prod.ext (by omega) (by omega))
      · exact hnfpEq.mp (Prod.ext (by omega) (by omega))
      · exact hnccEq.mp (Prod.ext (by omega) (by omega))
    have hint := fun name hname => keptOf_int (hin name hname) (hforgets name hname)
    obtain ⟨hnetsLow, hnetsLow', hnetsInt⟩ := hint "NETS" (by decide)
    obtain ⟨hnfpLow, hnfpLow', hnfpInt⟩ := hint "NFP" (by decide)
    obtain ⟨hnccLow, hnccLow', hnccInt⟩ := hint "NCC" (by decide)
    have hfits : ∀ name ∈ providers, InRange (2 ^ 31) (valuesOf name rows) := by
      intro name hname
      simp only [providers, List.mem_cons, List.not_mem_nil, or_false] at hname
      rcases hname with rfl | rfl | rfl
      · exact hnetsInt.mp (Prod.ext (by omega) (by omega))
      · exact hnfpInt.mp (Prod.ext (by omega) (by omega))
      · exact hnccInt.mp (Prod.ext (by omega) (by omega))
    exact ⟨hcomplete, halike, inRange_valuesOf.mp hfits, forgets_valuesOf.mp hforgets⟩
  · intro hright
    have hforgets := forgets_valuesOf.mpr hright.forgotten
    have hfits := inRange_valuesOf.mpr hright.fits
    have hsame (name : String) (hname : name ∈ providers) :
        keptOf (2 ^ 31) (valuesOf name rows) = keptOf (2 ^ 64) (valuesOf name rows) ∧
          (keptOf (2 ^ 64) (valuesOf name rows)).1 < 2 ^ 31 ∧
          (keptOf (2 ^ 64) (valuesOf name rows)).2 < 2 ^ 31 := by
      refine ⟨(keptOf_int (hin name hname) (hforgets name hname)).2.2.mpr (hfits name hname), ?_⟩
      rcases List.mem_cons.mp (keptOf_mem (hin name hname)) with hzero | hmem
      · rw [hzero]
        decide
      · exact hfits name hname _ hmem
    have hnetsSame := hsame "NETS" (by decide)
    have hnfpSame := hsame "NFP" (by decide)
    have hnccSame := hsame "NCC" (by decide)
    rw [hnetsSame.1, hnfpSame.1, hnccSame.1, ← hnetsEq.mpr (hforgets _ (by decide)),
      ← hnfpEq.mpr (hforgets _ (by decide)), ← hnccEq.mpr (hforgets _ (by decide))]
    exact ⟨⟨Nat.mod_eq_of_lt (by omega), Nat.mod_eq_of_lt (by omega)⟩, rfl, rfl⟩

/-- **Settlement.**  Both paths report the sums if no row meets a defect; for complete
rows that read alike only then. -/
theorem settlementTotals_right (rows : List SettlementRow) :
    (SettlesRight rows → TotalsRight rows) ∧
      ((∀ row ∈ rows, row.Complete) → (∀ row ∈ rows, row.Counted → row.ReadsAlike) →
        TotalsRight rows → SettlesRight rows) :=
  ⟨fun hright => (totalsRight_iff hright.complete hright.readsAlike).mpr hright,
    fun hcomplete halike => (totalsRight_iff hcomplete halike).mp⟩

/-- A field with a little-endian number of one byte. -/
def littleField (id : UInt16) (value : UInt8) : PayloadField :=
  { payloadFieldLength := 9, payloadFieldId := id, fieldEncoding := 0x38, fieldData := [value] }

/-- A field with characters. -/
def asciiField (id : UInt16) (characters : List UInt8) : PayloadField :=
  { payloadFieldLength := 8 + .ofNat characters.length, payloadFieldId := id,
    fieldEncoding := 0x31, fieldData := characters }

/-- A row of `NETS`, in the order of the identifiers. -/
def netsRow (total count : UInt8) : List PayloadField :=
  [asciiField idSofAcquirer [0x4E], asciiField idSofName [0x4E, 0x45, 0x54, 0x53],
    littleField idSofSaleCount count, littleField idSofSaleTotal total,
    littleField idSofPreAuthCompleteCount 0, littleField idSofPreAuthCompleteTotal 0]

/-- A row of `NCC` in another order, with a refund count in between. -/
def nccRow : List PayloadField :=
  [littleField idSofPreAuthCompleteTotal 0, littleField idSofSaleTotal 200,
    littleField 0x2007 1, asciiField idSofName [0x4E, 0x43, 0x43], littleField idSofSaleCount 2,
    littleField idSofPreAuthCompleteCount 0, asciiField idSofAcquirer [0x4E]]

/-- One row of `NETS` and one of `NCC`. -/
def netsAndNcc : List SettlementRow :=
  [{ fields := netsRow 100 1, once := by decide, supported := by decide, numbers := by decide },
    { fields := nccRow, once := by decide, supported := by decide, numbers := by decide }]

/-- Two rows of `NETS`. -/
def twoNets : List SettlementRow :=
  [{ fields := netsRow 100 1, once := by decide, supported := by decide, numbers := by decide },
    { fields := netsRow 200 2, once := by decide, supported := by decide, numbers := by decide }]

theorem settlesRight_netsAndNcc : SettlesRight netsAndNcc where
  complete := by
    unfold SettlementRow.Complete
    decide
  readsAlike := by
    have hlittle : ∀ row ∈ netsAndNcc, ∀ field ∈ row.fields,
        field.payloadFieldId ∈ [idSofSaleTotal, idSofSaleCount] → ¬field.IsDecimal := by decide
    intro row hrow _ id hid field hfound hdecimal
    obtain ⟨hfield, rfl⟩ := SettlementRow.of_field? hfound
    exact absurd hdecimal (hlittle row hrow field hfield hid)
  fits := by decide
  forgotten := by decide

/-- A payload that meets no defect: both paths report `300` in three sales. -/
theorem settlementTotals_right_netsAndNcc :
    SettlesRight netsAndNcc ∧ TotalsRight netsAndNcc :=
  ⟨settlesRight_netsAndNcc, (settlementTotals_right netsAndNcc).1 settlesRight_netsAndNcc⟩

/-- Of two rows of `NETS` the first is forgotten: `200` is reported, not `300`. -/
theorem not_totalsRight : ¬∀ rows, TotalsRight rows := by
  intro hall
  have hreported : (settlementTotals stoull16 (payloadOf twoNets)).texts = ("200", "2") := by
    decide +kernel
  have hsum : saleTotals twoNets = (300, 3) := by decide
  have hright := (hall twoNets).1
  rw [hreported, hsum] at hright
  exact absurd hright (by decide)

end LinuxPBS.Upt
