import LinuxPBS.CommonBinary

/-!
# The settlement record of a card deduction

`processTrans` cuts its fields out of two bit strings of the payload and writes the
four amounts as decimals, two to a byte.  `FnPadLeft0_Uint32` pads an amount to six
digits and does not cut it, so that a longer one takes no bytes at all (seven digits are
odd) or more than three, and shifts what follows; a balance that rises makes the
transaction amount wrap around.

`processTrans_iff` says when the record is right.
-/

namespace LinuxPBS.Lcsc

open Common Digits Record

/-! ## The record -/

/-- `assign` from two iterators; reading behind the end is `none`. -/
def assign (payload : List UInt8) (offset count : ℕ) : Option (List UInt8) :=
  if offset + count ≤ payload.length then some (field payload offset count) else none

/-- A purse field of a transaction record, as a number. -/
def purseField (transRecord : List ℕ) (offset : ℕ) : UInt32 :=
  convertStringToDecimal (convertBinaryStringToString (field transRecord offset 24))

/-- The bytes that are written for an amount. -/
def toBcd (amount : UInt32) : List UInt8 := convertHexStringToString (padLeft0_Uint32 6 amount)

/-- The transaction amount `amt`. -/
def transAmount (transRecord1 transRecord2 : List ℕ) : UInt32 :=
  let transStatus := convertBinaryStringToString ([0, 0, 0] ++ field transRecord2 2 5)
  if hexText transStatus = ['0', '5'] then
    purseField transRecord1 171 - purseField transRecord2 168 + purseField transRecord2 16
  else purseField transRecord1 171 - purseField transRecord2 168

/-- The pieces of the record, in the order in which `processTrans` appends them. -/
def transPieces (eps : ℤ) (lastDebitTime : DateTime) (transRecord1 transRecord2 : List ℕ)
    (TRPVec : List UInt8) : List (List UInt8) :=
  let can := convertBinaryStringToString (field transRecord1 10 64)
  let lastTransHeader := convertBinaryStringToString (field transRecord1 74 64)
  let lastCreditTransTRP := convertBinaryStringToString (field transRecord1 138 32)
  let badDebtCounter := convertBinaryStringToString (field transRecord1 195 8)
  let mac1 :=
    if eps = 3 then List.replicate 4 0
    else convertBinaryStringToString (field transRecord1 208 32)
  let transStatus := convertBinaryStringToString ([0, 0, 0] ++ field transRecord2 2 5)
  let counter := convertBinaryStringToString (field transRecord2 40 64)
  let signedCert := convertBinaryStringToString (field transRecord2 104 64)
  let lastTransDebitOp := convertBinaryStringToString (field transRecord2 192 8)
  [[0x44], can, [0x09], [TRPVec.getLastD 0], toBcd (transAmount transRecord1 transRecord2),
    convertHexStringToString (dateTimeFormat_yyyymmddhhmmss lastDebitTime), List.replicate 7 0x00,
    signedCert, counter, TRPVec, toBcd (purseField transRecord2 168), lastCreditTransTRP,
    lastTransHeader, lastTransDebitOp, toBcd (purseField transRecord1 171), badDebtCounter,
    toBcd (purseField transRecord2 16), transStatus, List.replicate 13 0xFF,
    List.replicate 3 0x00, List.replicate 8 0xFF, List.replicate 13 0x00, mac1,
    List.replicate 4 0x00, List.replicate 3 0x20]

/-- The record that `LCSCReader::processTrans` hands to `writeLCSCTrans`; `none` if it reads behind
the payload.  `lastDebitTime_` is empty until a deduction has been sent. -/
def processTrans (eps : ℤ) (lastDebitTime : Option Moment) (now : Moment) (payload : List UInt8) :
    Option (List UInt8) := do
  let transRecord1 := vectorUint8ToBinaryString (← assign payload 45 30)
  let transRecord2 := vectorUint8ToBinaryString (← assign payload 77 30)
  let TRPVec ← assign payload 109 4
  let lastDebitTime := (lastDebitTime.getD now).toDateTime
  return (transPieces eps lastDebitTime transRecord1 transRecord2 TRPVec).flatten

/-- `FnPadLeftSpace` -/
def padLeftSpace (width : ℕ) (str : List UInt8) : List UInt8 :=
  if str.length > width then str else List.replicate (width - str.length) 0x20 ++ str

/-- The header that `LCSCReader::writeLCSCTrans` puts in front of the first record of a file. -/
def settlementHeader (cpId fileName : List UInt8) (now : DateTime) : List UInt8 :=
  [0x48] ++ cpId ++ convertHexStringToString (dateTimeFormat_yyyymmddhhmmss now) ++
    padLeftSpace 40 fileName ++ List.replicate 67 0x20

/-! ## What the record has to hold -/

/-- The purse fields of a payload. -/
structure Purse where
  before : ℕ
  after : ℕ
  autoLoad : ℕ
  transStatus : ℕ
  deriving DecidableEq, Repr

/-- The first and the second transaction record of a payload, bit by bit. -/
def firstBits (payload : List UInt8) : List ℕ := vectorUint8ToBinaryString (field payload 45 30)

def secondBits (payload : List UInt8) : List ℕ := vectorUint8ToBinaryString (field payload 77 30)

def purseOf (payload : List UInt8) : Purse where
  before := bitsValue (field (firstBits payload) 171 24)
  after := bitsValue (field (secondBits payload) 168 24)
  autoLoad := bitsValue (field (secondBits payload) 16 24)
  transStatus := bitsValue (field (secondBits payload) 2 5)

/-- What the transaction has taken from the purse. -/
def Purse.amount (purse : Purse) : ℤ :=
  if purse.transStatus = 5 then (purse.before : ℤ) - purse.after + purse.autoLoad
  else (purse.before : ℤ) - purse.after

/-- The binary coded decimals of a field denote a value. -/
def Denotes (record : List UInt8) (offset : ℕ) (value : ℤ) : Prop :=
  ∃ number : ℕ, bcdValue (field record offset 3) = some number ∧ (number : ℤ) = value

/-- A record of 120 bytes, with the amounts and what is copied from the payload in their places. -/
structure RecordRight (payload record : List UInt8) : Prop where
  length : record.length = 120
  amount : Denotes record 11 (purseOf payload).amount
  after : Denotes record 48 (purseOf payload).after
  before : Denotes record 64 (purseOf payload).before
  autoLoad : Denotes record 68 (purseOf payload).autoLoad
  can : vectorUint8ToBinaryString (field record 1 8) = field (firstBits payload) 10 64
  trpBack : field record 10 1 = field payload 112 1
  signedCert : field record 28 8 = field payload 90 8
  counter : field record 36 8 = field payload 82 8
  trp : field record 44 4 = field payload 109 4
  lastCreditTransTRP :
    vectorUint8ToBinaryString (field record 51 4) = field (firstBits payload) 138 32

/-- All four amounts have at most six decimals, and the balance does not rise. -/
structure Purse.Fits (purse : Purse) : Prop where
  before : purse.before < 10 ^ 6
  after : purse.after < 10 ^ 6
  autoLoad : purse.autoLoad < 10 ^ 6
  amount : 0 ≤ purse.amount ∧ purse.amount < 10 ^ 6

/-! ## Bits of the payload -/

variable {payload : List UInt8}

theorem length_firstBits (hlong : 113 ≤ payload.length) : (firstBits payload).length = 240 := by
  rw [firstBits, length_vectorUint8ToBinaryString, length_field (by omega)]

theorem length_secondBits (hlong : 113 ≤ payload.length) : (secondBits payload).length = 240 := by
  rw [secondBits, length_vectorUint8ToBinaryString, length_field (by omega)]

theorem mem_of_mem_field {α : Type*} {data : List α} {offset count : ℕ} {item : α}
    (hmem : item ∈ field data offset count) : item ∈ data :=
  List.mem_of_mem_drop (List.mem_of_mem_take hmem)

/-- A purse field is read as the number of its bits. -/
theorem toNat_purseField {vec : List UInt8} {offset : ℕ}
    (hfits : offset + 24 ≤ (vectorUint8ToBinaryString vec).length) :
    (purseField (vectorUint8ToBinaryString vec) offset).toNat =
      bitsValue (field (vectorUint8ToBinaryString vec) offset 24) :=
  toNat_convertStringToDecimal_bits (length_field hfits) fun _ hbit =>
    lt_of_mem_vectorUint8ToBinaryString (mem_of_mem_field hbit)

/-- The status byte is `05` exactly if its five bits denote five. -/
theorem transStatus_iff {bits : List ℕ} (hlength : bits.length = 5)
    (hbits : ∀ bit ∈ bits, bit < 2) :
    hexText (convertBinaryStringToString ([0, 0, 0] ++ bits)) = ['0', '5'] ↔
      bitsValue bits = 5 := by
  match bits, hlength with
  | [a, b, c, d, e], _ =>
      simp only [List.forall_mem_cons, List.not_mem_nil, false_implies, implies_true,
        and_true] at hbits
      obtain ⟨ha, hb, hc, hd, he⟩ := hbits
      have htable : ∀ a b c d e : Fin 2,
          hexText (convertBinaryStringToString ([0, 0, 0] ++ [a.val, b.val, c.val, d.val, e.val])) =
              ['0', '5'] ↔ bitsValue [a.val, b.val, c.val, d.val, e.val] = 5 := by
        decide +kernel
      exact htable ⟨a, ha⟩ ⟨b, hb⟩ ⟨c, hc⟩ ⟨d, hd⟩ ⟨e, he⟩

/-! ## The amounts -/

theorem toNat_before (hlong : 113 ≤ payload.length) :
    (purseField (firstBits payload) 171).toNat = (purseOf payload).before :=
  toNat_purseField (by rw [← firstBits, length_firstBits hlong]; decide)

theorem toNat_after (hlong : 113 ≤ payload.length) :
    (purseField (secondBits payload) 168).toNat = (purseOf payload).after :=
  toNat_purseField (by rw [← secondBits, length_secondBits hlong]; decide)

theorem toNat_autoLoad (hlong : 113 ≤ payload.length) :
    (purseField (secondBits payload) 16).toNat = (purseOf payload).autoLoad :=
  toNat_purseField (by rw [← secondBits, length_secondBits hlong]; decide)

/-- As long as the balance does not rise the transaction amount does not wrap around. -/
theorem toNat_transAmount (hlong : 113 ≤ payload.length) (hfits : (purseOf payload).Fits) :
    ((transAmount (firstBits payload) (secondBits payload)).toNat : ℤ) =
      (purseOf payload).amount := by
  have hbits := length_secondBits hlong
  have hfive : (field (secondBits payload) 2 5).length = 5 := length_field (by omega)
  have hstatus := transStatus_iff hfive fun bit hbit =>
    lt_of_mem_vectorUint8ToBinaryString (mem_of_mem_field hbit)
  obtain ⟨hbefore, hafter, hautoLoad, hnonneg, hlt⟩ := hfits
  unfold Purse.amount at hnonneg hlt ⊢
  unfold transAmount
  dsimp only
  have hcond : (purseOf payload).transStatus = bitsValue (field (secondBits payload) 2 5) := rfl
  simp only [hstatus, hcond] at hnonneg hlt ⊢
  split_ifs at hnonneg hlt ⊢ with hautoLoads
  · rw [UInt32.toNat_add, UInt32.toNat_sub, toNat_before hlong, toNat_after hlong,
      toNat_autoLoad hlong]
    omega
  · rw [UInt32.toNat_sub, toNat_before hlong, toNat_after hlong]
    omega

theorem toBcd_eq {amount : UInt32} (hlt : amount.toNat < 10 ^ 6) :
    toBcd amount = bcdBytes 3 amount.toNat :=
  convertHexStringToString_padLeft0_Uint32 hlt

/-! ## The layout -/

/-- The lengths of the pieces of a record. -/
def recordLayout : List ℕ :=
  [1, 8, 1, 1, 3, 7, 7, 8, 8, 4, 3, 4, 8, 1, 3, 1, 3, 1, 13, 3, 8, 13, 4, 4, 3]

/-- The pieces that `processTrans` makes of a payload. -/
def piecesOf (eps : ℤ) (time : Moment) (payload : List UInt8) : List (List UInt8) :=
  transPieces eps time.toDateTime (firstBits payload) (secondBits payload) (field payload 109 4)

theorem processTrans_eq (hlong : 113 ≤ payload.length) (eps : ℤ) (lastDebitTime : Option Moment)
    (now : Moment) :
    processTrans eps lastDebitTime now payload =
      some (piecesOf eps (lastDebitTime.getD now) payload).flatten := by
  have hassign {offset count : ℕ} (hfits : offset + count ≤ 113) :
      assign payload offset count = some (field payload offset count) :=
    if_pos (Nat.le_trans hfits hlong)
  unfold processTrans
  rw [hassign (by decide), hassign (by decide), hassign (by decide)]
  rfl

theorem length_amount {amount : UInt32} (hlt : amount.toNat < 10 ^ 6) :
    (toBcd amount).length = 3 := by
  rw [toBcd_eq hlt, length_bcdBytes]

/-- The amounts that are written for a purse that fits. -/
theorem transAmount_lt (hlong : 113 ≤ payload.length) (hfits : (purseOf payload).Fits) :
    (transAmount (firstBits payload) (secondBits payload)).toNat < 10 ^ 6 := by
  have hamount := toNat_transAmount hlong hfits
  have hlt := hfits.amount.2
  omega

theorem layout_piecesOf (hlong : 113 ≤ payload.length) (hfits : (purseOf payload).Fits) (eps : ℤ)
    (time : Moment) : (piecesOf eps time payload).map List.length = recordLayout := by
  have hfirst := length_firstBits hlong
  have hsecond := length_secondBits hlong
  have hpiece {bits : List ℕ} (k offset : ℕ) (hbits : bits.length = 240)
      (hin : offset + 8 * k ≤ 240) :
      (convertBinaryStringToString (field bits offset (8 * k))).length = k :=
    length_convertBinaryStringToString (length_field (by omega))
  have hstatus :
      (convertBinaryStringToString ([0, 0, 0] ++ field (secondBits payload) 2 5)).length = 1 := by
    apply length_convertBinaryStringToString
    rw [List.length_append, length_field (by omega)]
    rfl
  have hmac : (if eps = 3 then List.replicate 4 0
      else convertBinaryStringToString (field (firstBits payload) 208 32)).length = 4 := by
    split
    · rfl
    · exact hpiece 4 208 hfirst (by decide)
  have htrp : (field payload 109 4).length = 4 := length_field (by omega)
  have hbefore := toNat_before hlong ▸ hfits.before
  have hafter := toNat_after hlong ▸ hfits.after
  have hautoLoad := toNat_autoLoad hlong ▸ hfits.autoLoad
  unfold piecesOf transPieces recordLayout
  simp only [List.map_cons, List.map_nil, List.length_replicate, List.length_singleton,
    length_amount (transAmount_lt hlong hfits), length_amount hbefore, length_amount hafter,
    length_amount hautoLoad, time.length_bytes, hstatus, hmac, htrp]
  rw [hpiece 8 10 hfirst (by decide), hpiece 8 40 hsecond (by decide),
    hpiece 8 104 hsecond (by decide), hpiece 4 138 hfirst (by decide),
    hpiece 8 74 hfirst (by decide), hpiece 1 192 hsecond (by decide),
    hpiece 1 195 hfirst (by decide)]

/-- A field that starts and ends with a byte of the second record. -/
theorem secondBytes (offset count : ℕ) (hfits : offset + count ≤ 30) :
    convertBinaryStringToString (field (secondBits payload) (8 * offset) (8 * count)) =
      field payload (77 + offset) count := by
  rw [secondBits, field_vectorUint8ToBinaryString,
    convertBinaryStringToString_vectorUint8ToBinaryString, field_field payload hfits]

theorem bits_field {bits : List ℕ} {offset count : ℕ} (hbits : ∀ bit ∈ bits, bit < 2)
    (hlength : (field bits offset count).length % 8 = 0) :
    vectorUint8ToBinaryString (convertBinaryStringToString (field bits offset count)) =
      field bits offset count :=
  vectorUint8ToBinaryString_convertBinaryStringToString hlength fun bit hbit =>
    hbits bit (mem_of_mem_field hbit)

/-- Six decimals in three bytes denote the amount. -/
theorem denotes_of_eq {record : List UInt8} {offset : ℕ} {amount : UInt32} {value : ℤ}
    (hfield : field record offset 3 = toBcd amount) (hlt : amount.toNat < 10 ^ 6)
    (hvalue : (amount.toNat : ℤ) = value) : Denotes record offset value := by
  refine ⟨amount.toNat, ?_, hvalue⟩
  rw [hfield, toBcd_eq hlt, bcdValue_bcdBytes_of_lt hlt]

/-- Three bytes have no room for more. -/
theorem Denotes.lt {record : List UInt8} {offset : ℕ} {value : ℤ}
    (hdenotes : Denotes record offset value) : 0 ≤ value ∧ value < 10 ^ 6 := by
  obtain ⟨number, hnumber, rfl⟩ := hdenotes
  have hlength : (field record offset 3).length ≤ 3 := by
    rw [field, List.length_take]
    omega
  have hlt : number < 10 ^ 6 := by
    calc number < 100 ^ (field record offset 3).length := bcdValue_lt hnumber
      _ ≤ 100 ^ 3 := Nat.pow_le_pow_right (by decide) hlength
  exact ⟨Int.natCast_nonneg number, by exact_mod_cast hlt⟩

theorem getLastD_field (hlong : 113 ≤ payload.length) :
    [(field payload 109 4).getLastD 0] = field payload 112 1 := by
  have hlength : (field payload 109 4).length = 4 := length_field (by omega)
  have hlast : field (field payload 109 4) 3 1 = field payload (109 + 3) 1 :=
    field_field payload (by decide)
  rw [← hlast]
  match field payload 109 4, hlength with
  | [_, _, _, _], _ => rfl

theorem recordRight_of_fits (hlong : 113 ≤ payload.length) (hfits : (purseOf payload).Fits)
    (eps : ℤ) (time : Moment) : RecordRight payload (piecesOf eps time payload).flatten := by
  have hlayout := layout_piecesOf hlong hfits eps time
  have hfield (i offset count : ℕ) {piece : List UInt8}
      (hpiece : (piecesOf eps time payload)[i]? = some piece)
      (hoffset : (recordLayout.take i).sum = offset) (hcount : piece.length = count) :
      field (piecesOf eps time payload).flatten offset count = piece := by
    rw [← hoffset, ← hcount]
    exact field_flatten hlayout hpiece
  have hbefore := toNat_before hlong
  have hafter := toNat_after hlong
  have hautoLoad := toNat_autoLoad hlong
  have hfirst := length_firstBits hlong
  have hsecond := length_secondBits hlong
  have hbits : ∀ bit ∈ firstBits payload, bit < 2 := fun _ =>
    lt_of_mem_vectorUint8ToBinaryString
  have hpiece (k : ℕ) {bits : List ℕ} {offset : ℕ} (hin : offset + 8 * k ≤ bits.length) :
      (convertBinaryStringToString (field bits offset (8 * k))).length = k :=
    length_convertBinaryStringToString (length_field hin)
  have hwidth {amount : UInt32} (hlt : amount.toNat < 10 ^ 6) : (toBcd amount).length = 3 :=
    length_amount hlt
  constructor
  · exact length_flatten_of_layout hlayout
  · exact denotes_of_eq (hfield 4 11 3 rfl rfl (hwidth (transAmount_lt hlong hfits)))
      (transAmount_lt hlong hfits) (toNat_transAmount hlong hfits)
  · have hlt := hafter ▸ hfits.after
    exact denotes_of_eq (hfield 10 48 3 rfl rfl (hwidth hlt)) hlt (by rw [hafter])
  · have hlt := hbefore ▸ hfits.before
    exact denotes_of_eq (hfield 14 64 3 rfl rfl (hwidth hlt)) hlt (by rw [hbefore])
  · have hlt := hautoLoad ▸ hfits.autoLoad
    exact denotes_of_eq (hfield 16 68 3 rfl rfl (hwidth hlt)) hlt (by rw [hautoLoad])
  · rw [hfield 1 1 8 rfl rfl (hpiece 8 (by omega))]
    exact bits_field hbits (by rw [length_field (by omega)])
  · rw [hfield 3 10 1 rfl rfl rfl]
    exact getLastD_field hlong
  · rw [hfield 7 28 8 rfl rfl (hpiece 8 (by omega))]
    exact secondBytes 13 8 (by decide)
  · rw [hfield 8 36 8 rfl rfl (hpiece 8 (by omega))]
    exact secondBytes 5 8 (by decide)
  · exact hfield 9 44 4 rfl rfl (length_field (by omega))
  · rw [hfield 11 51 4 rfl rfl (hpiece 4 (by omega))]
    exact bits_field hbits (by rw [length_field (by omega)])

theorem fits_of_recordRight {record : List UInt8} (hright : RecordRight payload record) :
    (purseOf payload).Fits where
  before := Int.ofNat_lt.mp hright.before.lt.2
  after := Int.ofNat_lt.mp hright.after.lt.2
  autoLoad := Int.ofNat_lt.mp hright.autoLoad.lt.2
  amount := hright.amount.lt

theorem length_settlementHeader {cpId fileName : List UInt8} (hcpId : cpId.length = 5)
    (hfileName : fileName.length ≤ 40) (now : Moment) :
    (settlementHeader cpId fileName now.toDateTime).length = recordLayout.sum := by
  have hname : (padLeftSpace 40 fileName).length = 40 := by
    rw [padLeftSpace, if_neg (Nat.not_lt.mpr hfileName), List.length_append, List.length_replicate]
    omega
  unfold settlementHeader
  simp only [List.length_append, List.length_singleton, List.length_replicate, hcpId, hname,
    now.length_bytes]
  rfl

/-- The record is right exactly if the amounts fit, and then it is as long as the header. -/
theorem processTrans_iff (hlong : 113 ≤ payload.length) (eps : ℤ) (lastDebitTime : Option Moment)
    (now : Moment) :
    (∃ record, processTrans eps lastDebitTime now payload = some record ∧
      (RecordRight payload record ↔ (purseOf payload).Fits)) ∧
    ∀ cpId fileName : List UInt8, cpId.length = 5 → fileName.length ≤ 40 →
      (settlementHeader cpId fileName now.toDateTime).length = 120 := by
  constructor
  · refine ⟨_, processTrans_eq hlong eps lastDebitTime now, fits_of_recordRight, ?_⟩
    intro hfits
    exact recordRight_of_fits hlong hfits eps _
  · intro cpId fileName hcpId hfileName
    exact length_settlementHeader hcpId hfileName now

/-- A payload with a balance before, which starts three bits before a byte, and one after. -/
def deductPayload (before after : List UInt8) : List UInt8 :=
  List.replicate 45 0 ++ (List.replicate 21 0 ++ before ++ List.replicate 5 0) ++ [0, 0] ++
    (List.replicate 21 0 ++ after ++ List.replicate 6 0) ++ [0, 0, 1, 2, 3, 4]

/-- Two dollars are taken from ten. -/
theorem processTrans_twoDollars :
    let payload := deductPayload [0x00, 0x00, 0x7D, 0x00] [0x00, 0x03, 0x20]
    (purseOf payload).amount = 200 ∧
      ∃ record, processTrans 2 none morning payload = some record ∧ RecordRight payload record := by
  intro payload
  have hlong : 113 ≤ payload.length := by decide
  have hpurse : purseOf payload = ⟨1000, 800, 0, 0⟩ := by decide +kernel
  have hfits : (purseOf payload).Fits := by
    rw [hpurse]
    constructor <;> decide
  obtain ⟨record, hrecord, hiff⟩ := (processTrans_iff hlong 2 none morning).1
  exact ⟨by rw [hpurse]; decide, record, hrecord, hiff.mpr hfits⟩

/-- Of seven digits nothing is written, and a balance that rises from ten dollars to eleven takes
five bytes. -/
theorem not_recordRight :
    (∃ record,
      processTrans 2 none morning (deductPayload [0x02, 0x5A, 0xD0, 0xE0] [0x12, 0xD6, 0x23]) =
        some record ∧
      ¬ RecordRight (deductPayload [0x02, 0x5A, 0xD0, 0xE0] [0x12, 0xD6, 0x23]) record) ∧
    ∃ record,
      processTrans 2 none morning (deductPayload [0x00, 0x00, 0x7D, 0x00] [0x00, 0x04, 0x4C]) =
        some record ∧
      ¬ RecordRight (deductPayload [0x00, 0x00, 0x7D, 0x00] [0x00, 0x04, 0x4C]) record := by
  have hwrong {payload : List UInt8} {n : ℕ} (hn : n ≠ 120)
      (hlength : (processTrans 2 none morning payload).map List.length = some n) :
      ∃ record, processTrans 2 none morning payload = some record ∧
        ¬ RecordRight payload record := by
    obtain ⟨record, hrecord, rfl⟩ := Option.map_eq_some_iff.mp hlength
    exact ⟨record, hrecord, fun hright => hn hright.length⟩
  constructor
  · exact hwrong (n := 114) (by decide) (by decide +kernel)
  · exact hwrong (n := 122) (by decide) (by decide +kernel)

end LinuxPBS.Lcsc
