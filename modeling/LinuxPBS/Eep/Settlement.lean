import LinuxPBS.Library.Record
import LinuxPBS.CommonBinary
import LinuxPBS.CommonVector
import LinuxPBS.Eep.Frame

/-!
# The settlement records of the EEP

`processDSRCFeTx` and `processDSRCBeTx` write a transaction as a record of single
bytes, with its dates, labels and amounts as decimals, two to a byte;
`writeDSRCFeOrBeTxToCollFile` appends the record to its collection file and puts a
header of the same length in front of the first one.

The field of the BEP amount is filled from the payment fee, the leading decimal of a
label is not reduced to one digit, and `std::setw(5)` pads a car park id but does not
cut it.  `settlementRight_iff` says when records and headers are right.
-/

namespace LinuxPBS.Eep.Settlement

open Common Digits Record

/-! ## Decimals -/

/-- `(high << 4) | low` -/
def bcdByte (high low : ℕ) : UInt8 := UInt8.ofNat (high <<< 4 ||| low)

/-- The lambda `toBCD` -/
def toBCD (value : ℕ) : List UInt8 := [bcdByte (value / 10) (value % 10)]

/-- A year or a data length -/
def bcd2 (value : ℕ) : List UInt8 :=
  [bcdByte (value / 1000) (value / 100 % 10), bcdByte (value / 10 % 10) (value % 10)]

/-- A label or a counter -/
def bcd4 (value : ℕ) : List UInt8 :=
  [bcdByte (value / 10000000) (value / 1000000 % 10),
    bcdByte (value / 100000 % 10) (value / 10000 % 10),
    bcdByte (value / 1000 % 10) (value / 100 % 10), bcdByte (value / 10 % 10) (value % 10)]

/-- An amount, with a zero in front -/
def amountBcd (value : ℕ) : List UInt8 :=
  [0x00, bcdByte (value / 1000000000) (value / 100000000 % 10),
    bcdByte (value / 10000000 % 10) (value / 1000000 % 10),
    bcdByte (value / 100000 % 10) (value / 10000 % 10),
    bcdByte (value / 1000 % 10) (value / 100 % 10), bcdByte (value / 10 % 10) (value % 10)]

/-- What is written for the BEP amount: the six last decimals of a value. -/
def bepAmountBcd (value : ℕ) : List UInt8 :=
  [0x00, 0x00, 0x00, bcdByte (value / 100000 % 10) (value / 10000 % 10),
    bcdByte (value / 1000 % 10) (value / 100 % 10), bcdByte (value / 10 % 10) (value % 10)]

/-! ## The records -/

/-- The members of `EEPClient::transactionData` that a record holds. -/
structure TransactionData where
  deductCommandSerialNum : UInt16
  protocolVer : UInt8
  resultDeduction : UInt8
  subSystemLabel : UInt32
  obuLabel : UInt64
  vechicleNumber : List UInt8
  transactionRoute : UInt8
  frontendPaymentViolation : UInt8
  backendPaymentViolation : UInt8
  transactionType : UInt8
  parkingStartDay : UInt8
  parkingStartMonth : UInt8
  parkingStartYear : UInt16
  parkingStartSecond : UInt8
  parkingStartMinute : UInt8
  parkingStartHour : UInt8
  parkingEndDay : UInt8
  parkingEndMonth : UInt8
  parkingEndYear : UInt16
  parkingEndSecond : UInt8
  parkingEndMinute : UInt8
  parkingEndHour : UInt8
  paymentFee : UInt32
  fepTime : UInt64
  trp : UInt32
  indicationLastAutoLoad : UInt8
  can : List UInt8
  lastCreditTransactionHeader : UInt64
  lastCreditTransactionTRP : UInt32
  purseBalanceBeforeTransaction : UInt32
  badDebtCounter : UInt8
  transactionStatus : UInt8
  debitOption : UInt8
  autoLoadAmount : UInt32
  counterData : UInt64
  signedCertificate : UInt64
  purseBalanceAfterTransaction : UInt32
  lastTransactionDebitOptionbyte : UInt8
  previousTransactionHeader : UInt64
  previousTRP : UInt32
  previousPurseBalance : UInt32
  previousCounterData : UInt64
  previousTransactionSignedCertificate : UInt64
  previousPurseStatus : UInt8
  bepPaymentFeeAmount : UInt16
  bepTimeOfReport : List UInt8
  chargeReportCounter : UInt32
  bepKeyVersion : UInt8
  bepCertificate : List UInt8
  deriving Inhabited

/-- A vector as it is, filled up with spaces on the right. -/
def padded (width : ℕ) (data : List UInt8) : List UInt8 :=
  if data.isEmpty then List.replicate width 0x20
  else if data.length < width then data ++ List.replicate (width - data.length) 0x20
  else data

/-- `VEHICLE_NUM_LEN` bytes, with spaces for the zeros. -/
def vehicleNumber (txData : TransactionData) : List UInt8 :=
  padded 13 (txData.vechicleNumber.map fun byte => if byte = 0x00 then 0x20 else byte)

/-- The nine bytes of a date. -/
def datePieces (year : UInt16) (month day hour minute second : UInt8) : List (List UInt8) :=
  [bcd2 year.toNat, toBCD month.toNat, toBCD day.toNat, toBCD hour.toNat, toBCD minute.toNat,
    toBCD second.toNat, [0x00, 0x00]]

/-- The start of both records, in the order in which the bytes are pushed. -/
def headPieces (header : MessageHeader) (txData : TransactionData) : List (List UInt8) :=
  [[0x44], [header.destinationID], [header.sourceID], [header.dataTypeCode]] ++
    datePieces header.year header.month header.day header.hour header.minute header.second ++
    [beBytes 2 header.seqNo.toNat, bcd2 header.dataLen.toNat,
      beBytes 2 txData.deductCommandSerialNum.toNat, [txData.protocolVer],
      [txData.resultDeduction], bcd4 txData.subSystemLabel.toNat, beBytes 5 txData.obuLabel.toNat,
      vehicleNumber txData, [txData.transactionRoute]]

/-- The times of the parking and its fee. -/
def parkingPieces (txData : TransactionData) : List (List UInt8) :=
  datePieces txData.parkingStartYear txData.parkingStartMonth txData.parkingStartDay
      txData.parkingStartHour txData.parkingStartMinute txData.parkingStartSecond ++
    datePieces txData.parkingEndYear txData.parkingEndMonth txData.parkingEndDay
      txData.parkingEndHour txData.parkingEndMinute txData.parkingEndSecond ++
    [amountBcd txData.paymentFee.toNat]

/-- What both records have in common, but for the kind of the violation. -/
def startPieces (header : MessageHeader) (txData : TransactionData) (violation : UInt8) :
    List (List UInt8) :=
  headPieces header txData ++ [[violation], [txData.transactionType]] ++ parkingPieces txData

def frontendPieces (header : MessageHeader) (txData : TransactionData) : List (List UInt8) :=
  startPieces header txData txData.frontendPaymentViolation ++
    [beBytes 7 txData.fepTime.toNat, [0x00, 0x00], beBytes 4 txData.trp.toNat,
      [txData.indicationLastAutoLoad], padded 8 txData.can,
      beBytes 8 txData.lastCreditTransactionHeader.toNat,
      beBytes 4 txData.lastCreditTransactionTRP.toNat,
      amountBcd txData.purseBalanceBeforeTransaction.toNat, [txData.badDebtCounter],
      [txData.transactionStatus], [txData.debitOption], amountBcd txData.autoLoadAmount.toNat,
      beBytes 8 txData.counterData.toNat, beBytes 8 txData.signedCertificate.toNat,
      amountBcd txData.purseBalanceAfterTransaction.toNat,
      [txData.lastTransactionDebitOptionbyte], beBytes 8 txData.previousTransactionHeader.toNat,
      beBytes 4 txData.previousTRP.toNat, amountBcd txData.previousPurseBalance.toNat,
      beBytes 8 txData.previousCounterData.toNat,
      beBytes 8 txData.previousTransactionSignedCertificate.toNat, [txData.previousPurseStatus],
      List.replicate 31 0x20]

/-- `EEPClient::processDSRCFeTx` -/
def processDSRCFeTx (header : MessageHeader) (txData : TransactionData) : List UInt8 :=
  (frontendPieces header txData).flatten

/-- The report time right-aligned in `BEPTIME_LEN` zeros. -/
def bepTime (txData : TransactionData) : List UInt8 :=
  List.replicate (9 - txData.bepTimeOfReport.length) 0x00 ++ txData.bepTimeOfReport

def backendPieces (header : MessageHeader) (txData : TransactionData) : List (List UInt8) :=
  startPieces header txData txData.backendPaymentViolation ++
    -- the source names the BEP amount here and takes the payment fee
    [bepAmountBcd txData.paymentFee.toNat, bepTime txData, bcd4 txData.chargeReportCounter.toNat,
      [txData.bepKeyVersion], padded 280 txData.bepCertificate, List.replicate 42 0x20]

/-- `EEPClient::processDSRCBeTx`; `none` if the report time is copied from before its buffer on. -/
def processDSRCBeTx (header : MessageHeader) (txData : TransactionData) : Option (List UInt8) :=
  if txData.bepTimeOfReport.length ≤ 9 then some (backendPieces header txData).flatten else none

/-! ## The collection file -/

/-- `std::setw(width) << std::setfill('0')`; a longer text is not cut. -/
def setw (width : ℕ) (text : List UInt8) : List UInt8 :=
  List.replicate (width - text.length) 0x30 ++ text

def bytesOf (text : List Char) : List UInt8 := text.map fun c => UInt8.ofNat c.toNat

/-- A number as `operator<<` prints it. -/
def printed (value : ℤ) : List UInt8 :=
  (if value < 0 then [0x2D] else []) ++ bytesOf (Nat.toDigits 10 value.natAbs)

/-- `FnGetDateTimeFormclockyyyymmdd` -/
def dateTimeFormat_yyyymmdd (time : DateTime) : List Char :=
  Nat.toDigits 10 time.year ++ twoDigits time.month ++ twoDigits time.day

/-- What a client puts into its file names. -/
structure Site where
  cpoId : List UInt8
  carparkId : List UInt8
  iStationID : ℤ

/-- The times at which a call of `writeDSRCFeOrBeTxToCollFile` reads the clock. -/
structure Readings where
  /-- for the date in the file name -/
  date : Moment
  /-- for `FnGetDateTimeFormclockhh` -/
  hour : Moment
  /-- for the header record -/
  now : Moment
  millisecond : ℕ

/-- `settleFileName` -/
def settleFileName (isFrontendTx : Bool) (site : Site) (clock : Readings) : List UInt8 :=
  let start := bytesOf "EEP_".toList ++ site.cpoId.take 16 ++ bytesOf "_".toList ++
    setw 5 site.carparkId
  if isFrontendTx then
    start ++ bytesOf "_FE_".toList ++ bytesOf (dateTimeFormat_yyyymmdd clock.date.toDateTime) ++
      bytesOf "_".toList ++ setw 2 (printed site.iStationID) ++
      bytesOf (twoDigits clock.hour.hour) ++ bytesOf ".dsr".toList
  else
    start ++ bytesOf "_BE_".toList ++ setw 2 (printed site.iStationID) ++ bytesOf "_".toList ++
      bytesOf (dateTimeFormat_yyyymmddhhmmss clock.date.toDateTime) ++ bytesOf ".dsr".toList

/-- The lambda `padded` of the header: left-aligned, and a longer name is not cut. -/
def paddedName (width : ℕ) (fname : List UInt8) : List UInt8 :=
  fname ++ List.replicate (width - fname.length) 0x20

/-- `rfuLen`, in `size_t` -/
def rfuLen (isFrontendTx : Bool) (fname : List UInt8) : ℕ :=
  if isFrontendTx then 145
  else (349 - UInt64.ofNat (if fname.length > 48 then fname.length - 48 else 0)).toNat

/-- The header record without its filling. -/
def headerStart (isFrontendTx : Bool) (site : Site) (clock : Readings) : List UInt8 :=
  let fname := settleFileName isFrontendTx site clock
  let now := clock.now
  [0x48] ++ setw 5 site.carparkId ++ bcd2 now.year ++ toBCD now.month ++ toBCD now.day ++
    toBCD now.hour ++ toBCD now.minute ++ toBCD now.second ++
    [bcdByte (clock.millisecond / 100 % 10) (clock.millisecond / 10 % 10),
      bcdByte (clock.millisecond % 10) 0] ++
    if isFrontendTx then paddedName 48 fname
    else if fname.length > 48 then paddedName fname.length fname
    else paddedName 48 fname

/-- The header record; `none` if `insert` throws since the filling is longer than a vector gets. -/
def headerRecord (isFrontendTx : Bool) (site : Site) (clock : Readings) : Option (List UInt8) :=
  let start := headerStart isFrontendTx site clock
  let rfu := rfuLen isFrontendTx (settleFileName isFrontendTx site clock)
  if start.length + rfu < 2 ^ 63 then some (start ++ List.replicate rfu 0x20) else none

/-- `EEPClient::writeDSRCFeOrBeTxToCollFile`, on the content of the file that the name denotes. -/
def writeDSRCFeOrBeTxToCollFile (isFrontendTx : Bool) (data : List UInt8) (site : Site)
    (clock : Readings) : Option (List UInt8) → List UInt8
  | none =>
    match headerRecord isFrontendTx site clock with
    | some header => header ++ data
    -- the file is open when the exception comes
    | none => []
  | some file => file ++ data

/-! ## What records and headers have to be -/

/-- A field of binary coded decimals and the value that it is to denote. -/
structure Decimal where
  offset : ℕ
  count : ℕ
  value : ℕ
  deriving DecidableEq, Repr

def Decimal.Denoted (record : List UInt8) (decimal : Decimal) : Prop :=
  bcdValue (field record decimal.offset decimal.count) = some decimal.value

/-- The value has at most two digits a byte. -/
def Decimal.Fits (decimal : Decimal) : Prop := decimal.value < 100 ^ decimal.count

instance (decimal : Decimal) : Decidable decimal.Fits :=
  inferInstanceAs (Decidable (decimal.value < 100 ^ decimal.count))

def dateDecimals (offset : ℕ) (year : UInt16) (month day hour minute second : UInt8) :
    List Decimal :=
  [⟨offset, 2, year.toNat⟩, ⟨offset + 2, 1, month.toNat⟩, ⟨offset + 3, 1, day.toNat⟩,
    ⟨offset + 4, 1, hour.toNat⟩, ⟨offset + 5, 1, minute.toNat⟩, ⟨offset + 6, 1, second.toNat⟩]

/-- The decimals that both records hold. -/
def commonDecimals (header : MessageHeader) (txData : TransactionData) : List Decimal :=
  dateDecimals 4 header.year header.month header.day header.hour header.minute header.second ++
    [⟨15, 2, header.dataLen.toNat⟩, ⟨21, 4, txData.subSystemLabel.toNat⟩] ++
    dateDecimals 46 txData.parkingStartYear txData.parkingStartMonth txData.parkingStartDay
      txData.parkingStartHour txData.parkingStartMinute txData.parkingStartSecond ++
    dateDecimals 55 txData.parkingEndYear txData.parkingEndMonth txData.parkingEndDay
      txData.parkingEndHour txData.parkingEndMinute txData.parkingEndSecond ++
    [⟨64, 6, txData.paymentFee.toNat⟩]

def frontendDecimals (header : MessageHeader) (txData : TransactionData) : List Decimal :=
  commonDecimals header txData ++
    [⟨104, 6, txData.purseBalanceBeforeTransaction.toNat⟩, ⟨113, 6, txData.autoLoadAmount.toNat⟩,
      ⟨135, 6, txData.purseBalanceAfterTransaction.toNat⟩,
      ⟨154, 6, txData.previousPurseBalance.toNat⟩]

def backendDecimals (header : MessageHeader) (txData : TransactionData) : List Decimal :=
  commonDecimals header txData ++
    [⟨70, 6, txData.bepPaymentFeeAmount.toNat⟩, ⟨85, 4, txData.chargeReportCounter.toNat⟩]

/-- A record has its length, denotes the values of its decimals, and starts a file behind a header
of the same length. -/
structure RecordRight (isFrontendTx : Bool) (site : Site) (clock : Readings) (size : ℕ)
    (decimals : List Decimal) (record : List UInt8) : Prop where
  length : record.length = size
  decimals : ∀ decimal ∈ decimals, decimal.Denoted record
  header : ∃ header : List UInt8, header.length = size ∧
    writeDSRCFeOrBeTxToCollFile isFrontendTx record site clock none = header ++ record

/-- Both records are right. -/
structure SettlementRight (header : MessageHeader) (txData : TransactionData) (site : Site)
    (clock : Readings) : Prop where
  frontend : RecordRight true site clock 208 (frontendDecimals header txData)
    (processDSRCFeTx header txData)
  backend : ∃ record, processDSRCBeTx header txData = some record ∧
    RecordRight false site clock 412 (backendDecimals header txData) record

/-- The years have four digits, and no vector is longer than its field. -/
structure Widths (header : MessageHeader) (txData : TransactionData) : Prop where
  year : header.year.toNat ≤ 9999
  startYear : txData.parkingStartYear.toNat ≤ 9999
  endYear : txData.parkingEndYear.toNat ≤ 9999
  vehicle : txData.vechicleNumber.length ≤ 13
  can : txData.can.length ≤ 8
  report : txData.bepTimeOfReport.length ≤ 9
  certificate : txData.bepCertificate.length ≤ 280

/-- The decimals have room, the BEP amount is what the payment fee leaves of it, and neither the
car park id nor the name of the frontend file is longer than its place. -/
structure Sound (header : MessageHeader) (txData : TransactionData) (site : Site) : Prop where
  decimals : ∀ decimal ∈ frontendDecimals header txData ++ backendDecimals header txData,
    decimal.Fits
  bepAmount : txData.bepPaymentFeeAmount.toNat = txData.paymentFee.toNat % 10 ^ 6
  carparkId : site.carparkId.length ≤ 5
  fileName : min 16 site.cpoId.length + max 2 (printed site.iStationID).length ≤ 19

/-! ## Lengths -/

theorem length_padded {width : ℕ} {data : List UInt8} (hfits : data.length ≤ width) :
    (padded width data).length = width := by
  unfold padded
  split
  · exact List.length_replicate
  · split
    · rw [List.length_append, List.length_replicate]
      omega
    · omega

theorem length_vehicleNumber {txData : TransactionData}
    (hfits : txData.vechicleNumber.length ≤ 13) : (vehicleNumber txData).length = 13 :=
  length_padded (by rwa [List.length_map])

theorem length_bepTime {txData : TransactionData} (hfits : txData.bepTimeOfReport.length ≤ 9) :
    (bepTime txData).length = 9 := by
  rw [bepTime, List.length_append, List.length_replicate]
  omega

@[simp] theorem length_setw (width : ℕ) (text : List UInt8) :
    (setw width text).length = max width text.length := by
  rw [setw, List.length_append, List.length_replicate]
  omega

@[simp] theorem length_paddedName (width : ℕ) (fname : List UInt8) :
    (paddedName width fname).length = max width fname.length := by
  rw [paddedName, List.length_append, List.length_replicate]
  omega

@[simp] theorem length_bytesOf (text : List Char) : (bytesOf text).length = text.length :=
  List.length_map _

theorem length_twoDigits {n : ℕ} (hlt : n < 100) : (twoDigits n).length = 2 := by
  rw [twoDigits_eq hlt, List.length_map, length_fixedDigits]

theorem length_year (time : Moment) : (Nat.toDigits 10 time.year).length = 4 := by
  obtain ⟨hyear, hyears⟩ := time.year_mem
  rw [toDigits_eq_fixedDigits (k := 4) (by decide) hyear hyears, List.length_map,
    length_fixedDigits]

theorem length_yyyymmdd (time : Moment) :
    (dateTimeFormat_yyyymmdd time.toDateTime).length = 8 := by
  rw [dateTimeFormat_yyyymmdd, List.length_append, List.length_append, length_year,
    length_twoDigits time.month_lt, length_twoDigits time.day_lt]

theorem length_yyyymmddhhmmss (time : Moment) :
    (dateTimeFormat_yyyymmddhhmmss time.toDateTime).length = 14 := by
  unfold dateTimeFormat_yyyymmddhhmmss
  simp only [List.length_append, length_year, length_twoDigits time.month_lt,
    length_twoDigits time.day_lt, length_twoDigits time.hour_lt, length_twoDigits time.minute_lt,
    length_twoDigits time.second_lt]

/-! ## Pieces of decimals -/

theorem bcdByte_eq (high : ℕ) {low : ℕ} (hlow : low < 10) :
    bcdByte high low = UInt8.ofNat (16 * high + low) := by
  have hor := Nat.shiftLeft_add_eq_or_of_lt (show low < 2 ^ 4 by omega) high
  rw [bcdByte, ← hor, Nat.shiftLeft_eq, Nat.mul_comm]

theorem digit_lt (n : ℕ) : n % 10 < 10 := Nat.mod_lt n (by decide)

theorem toBCD_eq {value : ℕ} (hlt : value < 100 ^ 1) : toBCD value = bcdBytes 1 value := by
  have htop : value / 10 % 10 = value / 10 := Nat.mod_eq_of_lt (by omega)
  simp only [toBCD, bcdByte_eq _ (digit_lt _), bcdBytes, fixedDigits,
    List.nil_append, List.cons_append, packed, htop]

theorem bcd2_eq {value : ℕ} (hlt : value < 100 ^ 2) : bcd2 value = bcdBytes 2 value := by
  have htop : value / 1000 % 10 = value / 1000 := Nat.mod_eq_of_lt (by omega)
  simp only [bcd2, bcdByte_eq _ (digit_lt _), bcdBytes, Nat.reduceMul, fixedDigits,
    List.nil_append, List.cons_append, packed, Nat.div_div_eq_div_mul, htop]

theorem bcd4_eq {value : ℕ} (hlt : value < 100 ^ 4) : bcd4 value = bcdBytes 4 value := by
  have htop : value / 10000000 % 10 = value / 10000000 := Nat.mod_eq_of_lt (by omega)
  simp only [bcd4, bcdByte_eq _ (digit_lt _), bcdBytes, Nat.reduceMul, fixedDigits,
    List.nil_append, List.cons_append, packed, Nat.div_div_eq_div_mul, htop]

/-- An amount of 32 bits has ten decimals at most, so that it always has room. -/
theorem amountBcd_eq (amount : UInt32) : amountBcd amount.toNat = bcdBytes 6 amount.toNat := by
  have hlt : amount.toNat < 2 ^ 32 := amount.toNat_lt
  have hzero : amount.toNat / 10000000000 = 0 := Nat.div_eq_of_lt (by omega)
  have htop : amount.toNat / 1000000000 % 10 = amount.toNat / 1000000000 :=
    Nat.mod_eq_of_lt (by omega)
  simp only [amountBcd, bcdByte_eq _ (digit_lt _), bcdBytes, Nat.reduceMul, fixedDigits,
    List.nil_append, List.cons_append, packed, Nat.div_div_eq_div_mul, htop, hzero]
  rfl

/-- What is written for the BEP amount are the six last decimals. -/
theorem bepAmountBcd_eq (value : ℕ) : bepAmountBcd value = bcdBytes 6 (value % 10 ^ 6) := by
  have hlow : fixedDigits 10 6 (value % 10 ^ 6) = fixedDigits 10 6 value :=
    fixedDigits_mod 10 6 value
  have hhigh : fixedDigits 10 12 (value % 10 ^ 6) =
      List.replicate 6 0 ++ fixedDigits 10 6 (value % 10 ^ 6) :=
    fixedDigits_add_of_lt (b := 10) (k := 6) (by decide) (Nat.mod_lt value (by decide)) 6
  rw [bcdBytes, hhigh, hlow]
  simp only [bepAmountBcd, bcdByte_eq _ (digit_lt _), fixedDigits, List.nil_append,
    List.cons_append, Nat.div_div_eq_div_mul]
  rfl

/-! ## The fields of the records -/

variable {header : MessageHeader} {txData : TransactionData}

/-- The lengths of what both records start with. -/
def startLayout : List ℕ :=
  [1, 1, 1, 1, 2, 1, 1, 1, 1, 1, 2, 2, 2, 2, 1, 1, 4, 5, 13, 1, 1, 1,
    2, 1, 1, 1, 1, 1, 2, 2, 1, 1, 1, 1, 1, 2, 6]

def frontendLayout : List ℕ :=
  startLayout ++ [7, 2, 4, 1, 8, 8, 4, 6, 1, 1, 1, 6, 8, 8, 6, 1, 8, 4, 6, 8, 8, 1, 31]

def backendLayout : List ℕ := startLayout ++ [6, 9, 4, 1, 280, 42]

theorem layout_startPieces (hvehicle : txData.vechicleNumber.length ≤ 13) (violation : UInt8) :
    (startPieces header txData violation).map List.length = startLayout := by
  unfold startPieces headPieces parkingPieces datePieces
  simp only [List.cons_append, List.nil_append, List.map_cons, List.map_nil, length_beBytes,
    length_vehicleNumber hvehicle]
  rfl

theorem layout_frontendPieces (hwidths : Widths header txData) :
    (frontendPieces header txData).map List.length = frontendLayout := by
  rw [frontendPieces, List.map_append, layout_startPieces hwidths.vehicle]
  simp only [List.map_cons, List.map_nil, length_beBytes, length_padded hwidths.can,
    List.length_replicate]
  rfl

theorem layout_backendPieces (hwidths : Widths header txData) :
    (backendPieces header txData).map List.length = backendLayout := by
  rw [backendPieces, List.map_append, layout_startPieces hwidths.vehicle]
  simp only [List.map_cons, List.map_nil, length_padded hwidths.certificate,
    length_bepTime hwidths.report, List.length_replicate]
  rfl

/-- Decimals behind the pieces in front of them denote their value as soon as it has room. -/
theorem denoted_of_piece {pieces : List (List UInt8)} {layout : List ℕ}
    (hlayout : pieces.map List.length = layout) (i : ℕ) {piece : List UInt8}
    {offset count value : ℕ} (hpiece : pieces[i]? = some piece)
    (hoffset : (layout.take i).sum = offset)
    (hbcd : value < 100 ^ count → piece = bcdBytes count value) :
    Decimal.Fits ⟨offset, count, value⟩ →
      Decimal.Denoted pieces.flatten ⟨offset, count, value⟩ := by
  intro hfits
  obtain rfl := hbcd hfits
  have hfield := field_flatten hlayout hpiece
  rw [length_bcdBytes, hoffset] at hfield
  unfold Decimal.Denoted
  rw [hfield, bcdValue_bcdBytes_of_lt hfits]

theorem Decimal.Denoted.fits {record : List UInt8} {decimal : Decimal}
    (hdenoted : decimal.Denoted record) : decimal.Fits := by
  have hlength : (field record decimal.offset decimal.count).length ≤ decimal.count := by
    rw [field, List.length_take]
    omega
  calc decimal.value
      < 100 ^ (field record decimal.offset decimal.count).length := bcdValue_lt hdenoted
    _ ≤ 100 ^ decimal.count := Nat.pow_le_pow_right (by decide) hlength

/-- The decimals that both records hold stand among the pieces that they start with. -/
theorem denoted_common {violation : UInt8} {rest : List (List UInt8)} {restLayout : List ℕ}
    (hlayout : (startPieces header txData violation ++ rest).map List.length =
      startLayout ++ restLayout) :
    ∀ decimal ∈ commonDecimals header txData, decimal.Fits →
      decimal.Denoted (startPieces header txData violation ++ rest).flatten := by
  have hat (i : ℕ) {piece : List UInt8} {offset count value : ℕ}
      (hpiece : (startPieces header txData violation ++ rest)[i]? = some piece)
      (hoffset : i ≤ startLayout.length ∧ (startLayout.take i).sum = offset)
      (hbcd : value < 100 ^ count → piece = bcdBytes count value) :=
    denoted_of_piece hlayout i hpiece
      ((congrArg List.sum (List.take_append_of_le_length hoffset.1)).trans hoffset.2) hbcd
  unfold commonDecimals dateDecimals
  simp only [List.cons_append, List.nil_append, List.forall_mem_cons]
  refine ⟨hat 4 rfl (by decide) bcd2_eq, hat 5 rfl (by decide) toBCD_eq,
    hat 6 rfl (by decide) toBCD_eq, hat 7 rfl (by decide) toBCD_eq,
    hat 8 rfl (by decide) toBCD_eq, hat 9 rfl (by decide) toBCD_eq,
    hat 12 rfl (by decide) bcd2_eq, hat 16 rfl (by decide) bcd4_eq,
    hat 22 rfl (by decide) bcd2_eq, hat 23 rfl (by decide) toBCD_eq,
    hat 24 rfl (by decide) toBCD_eq, hat 25 rfl (by decide) toBCD_eq,
    hat 26 rfl (by decide) toBCD_eq, hat 27 rfl (by decide) toBCD_eq,
    hat 29 rfl (by decide) bcd2_eq, hat 30 rfl (by decide) toBCD_eq,
    hat 31 rfl (by decide) toBCD_eq, hat 32 rfl (by decide) toBCD_eq,
    hat 33 rfl (by decide) toBCD_eq, hat 34 rfl (by decide) toBCD_eq,
    hat 36 rfl (by decide) fun _ => amountBcd_eq _, ?_⟩
  intro decimal hnone
  exact absurd hnone List.not_mem_nil

/-- The frontend record has its length, and its decimals denote what has room. -/
theorem frontend_record (hwidths : Widths header txData) :
    (processDSRCFeTx header txData).length = 208 ∧
      ∀ decimal ∈ frontendDecimals header txData, decimal.Fits →
        decimal.Denoted (processDSRCFeTx header txData) := by
  have hlayout := layout_frontendPieces hwidths
  constructor
  · exact length_flatten_of_layout hlayout
  · have hat := denoted_of_piece hlayout
    unfold frontendDecimals
    rw [List.forall_mem_append]
    refine ⟨denoted_common hlayout, ?_⟩
    simp only [List.forall_mem_cons]
    refine ⟨hat 44 rfl (by decide) fun _ => amountBcd_eq _,
      hat 48 rfl (by decide) fun _ => amountBcd_eq _,
      hat 51 rfl (by decide) fun _ => amountBcd_eq _,
      hat 55 rfl (by decide) fun _ => amountBcd_eq _, ?_⟩
    intro decimal hnone
    exact absurd hnone List.not_mem_nil

/-- The backend record has its length, its decimals denote what has room, and the field of the BEP
amount denotes the end of the payment fee. -/
theorem backend_record (hwidths : Widths header txData) :
    (backendPieces header txData).flatten.length = 412 ∧
      (∀ decimal ∈ commonDecimals header txData ++ [⟨85, 4, txData.chargeReportCounter.toNat⟩],
        decimal.Fits → decimal.Denoted (backendPieces header txData).flatten) ∧
      Decimal.Denoted (backendPieces header txData).flatten
        ⟨70, 6, txData.paymentFee.toNat % 10 ^ 6⟩ := by
  have hlayout := layout_backendPieces hwidths
  refine ⟨length_flatten_of_layout hlayout, ?_, ?_⟩
  · rw [List.forall_mem_append]
    refine ⟨denoted_common hlayout, ?_⟩
    intro decimal hmem
    obtain rfl := List.mem_singleton.mp hmem
    exact denoted_of_piece hlayout 39 rfl (by decide) bcd4_eq
  · apply denoted_of_piece hlayout 37 rfl (by decide) fun _ => bepAmountBcd_eq _
    exact (Nat.mod_lt _ (by decide)).trans (show 10 ^ 6 < 100 ^ 6 by decide)

/-- Only the payment fee decides what the field of the BEP amount denotes. -/
theorem bepAmount_iff (hwidths : Widths header txData) :
    Decimal.Denoted (backendPieces header txData).flatten
        ⟨70, 6, txData.bepPaymentFeeAmount.toNat⟩ ↔
      txData.bepPaymentFeeAmount.toNat = txData.paymentFee.toNat % 10 ^ 6 := by
  have hfield := (backend_record hwidths).2.2
  unfold Decimal.Denoted at hfield ⊢
  rw [hfield, Option.some_inj]
  exact eq_comm

/-! ## The headers -/

variable {site : Site} {clock : Readings}

theorem length_settleFileName_frontend :
    (settleFileName true site clock).length =
      24 + min 16 site.cpoId.length + max 5 site.carparkId.length +
        max 2 (printed site.iStationID).length := by
  have hstart : (bytesOf "EEP_".toList).length = 4 ∧ (bytesOf "_".toList).length = 1 := ⟨rfl, rfl⟩
  have hend : (bytesOf "_FE_".toList).length = 4 ∧ (bytesOf ".dsr".toList).length = 4 := ⟨rfl, rfl⟩
  have hdate : (bytesOf (dateTimeFormat_yyyymmdd clock.date.toDateTime)).length = 8 := by
    rw [length_bytesOf, length_yyyymmdd]
  have hhour : (bytesOf (twoDigits clock.hour.hour)).length = 2 := by
    rw [length_bytesOf, length_twoDigits clock.hour.hour_lt]
  unfold settleFileName
  simp only [if_true, List.length_append, length_setw, hstart, hend, hdate, hhour,
    List.length_take]
  omega

theorem length_settleFileName_backend :
    (settleFileName false site clock).length =
      28 + min 16 site.cpoId.length + max 5 site.carparkId.length +
        max 2 (printed site.iStationID).length := by
  have hstart : (bytesOf "EEP_".toList).length = 4 ∧ (bytesOf "_".toList).length = 1 := ⟨rfl, rfl⟩
  have hend : (bytesOf "_BE_".toList).length = 4 ∧ (bytesOf ".dsr".toList).length = 4 := ⟨rfl, rfl⟩
  have hdate : (bytesOf (dateTimeFormat_yyyymmddhhmmss clock.date.toDateTime)).length = 14 := by
    rw [length_bytesOf, length_yyyymmddhhmmss]
  unfold settleFileName
  simp only [Bool.false_eq_true, if_false, List.length_append, length_setw, hstart, hend, hdate,
    List.length_take]
  omega

/-- The header without its filling: the car park id and the file name take their places and more
if they are longer. -/
theorem length_headerStart (isFrontendTx : Bool) :
    (headerStart isFrontendTx site clock).length =
      10 + max 5 site.carparkId.length +
        max 48 (settleFileName isFrontendTx site clock).length := by
  have hname : (if isFrontendTx then paddedName 48 (settleFileName isFrontendTx site clock)
      else if (settleFileName isFrontendTx site clock).length > 48 then
        paddedName (settleFileName isFrontendTx site clock).length
          (settleFileName isFrontendTx site clock)
      else paddedName 48 (settleFileName isFrontendTx site clock)).length =
      max 48 (settleFileName isFrontendTx site clock).length := by
    split_ifs
    · exact length_paddedName 48 _
    · rw [length_paddedName]
      omega
    · exact length_paddedName 48 _
  unfold headerStart
  simp only [List.length_append, hname, length_setw, bcd2, toBCD, List.length_cons, List.length_nil]
  omega

/-- A file that starts with a header and a record starts with the header that was written. -/
theorem header_iff {isFrontendTx : Bool} {record : List UInt8} {size : ℕ} (hpos : 0 < size) :
    (∃ header : List UInt8, header.length = size ∧
      writeDSRCFeOrBeTxToCollFile isFrontendTx record site clock none = header ++ record) ↔
    ∃ header, headerRecord isFrontendTx site clock = some header ∧ header.length = size := by
  unfold writeDSRCFeOrBeTxToCollFile
  constructor
  · rintro ⟨header, hlength, hfile⟩
    cases hwritten : headerRecord isFrontendTx site clock with
    | none =>
        rw [hwritten] at hfile
        obtain ⟨rfl, -⟩ := List.append_eq_nil_iff.mp hfile.symm
        exact absurd hlength hpos.ne
    | some written =>
        rw [hwritten] at hfile
        exact ⟨written, rfl, by rwa [List.append_cancel_right hfile]⟩
  · rintro ⟨header, hwritten, hlength⟩
    exact ⟨header, hlength, by rw [hwritten]⟩

theorem frontendHeader_iff :
    (∃ header, headerRecord true site clock = some header ∧ header.length = 208) ↔
      site.carparkId.length ≤ 5 ∧
        min 16 site.cpoId.length + max 2 (printed site.iStationID).length ≤ 19 := by
  have hname : (settleFileName true site clock).length = _ := length_settleFileName_frontend
  have hstart : (headerStart true site clock).length = _ := length_headerStart true
  have hrfu : rfuLen true (settleFileName true site clock) = 145 := rfl
  unfold headerRecord
  simp only [hrfu]
  constructor
  · rintro ⟨header, hheader, hlength⟩
    obtain ⟨-, hsome⟩ := Option.ite_none_right_eq_some.mp hheader
    obtain rfl := Option.some_inj.mp hsome
    rw [List.length_append, List.length_replicate] at hlength
    omega
  · rintro ⟨hcarpark, hfits⟩
    refine ⟨_, if_pos (by omega), ?_⟩
    rw [List.length_append, List.length_replicate]
    omega

/-- The filling of the backend header gives way to a long name. -/
theorem backendHeader (hcarpark : site.carparkId.length ≤ 5)
    (hfits : min 16 site.cpoId.length + max 2 (printed site.iStationID).length ≤ 19) :
    ∃ header, headerRecord false site clock = some header ∧ header.length = 412 := by
  have hname : (settleFileName false site clock).length = _ := length_settleFileName_backend
  have hstart : (headerStart false site clock).length = _ := length_headerStart false
  have hrfu : rfuLen false (settleFileName false site clock) =
      349 - ((settleFileName false site clock).length - 48) := by
    have hsmall : (settleFileName false site clock).length - 48 < 349 := by omega
    unfold rfuLen
    rw [if_neg (by decide), UInt64.toNat_sub, UInt64.toNat_ofNat']
    change (2 ^ 64 - _ + 349) % 2 ^ 64 = _
    split <;> omega
  unfold headerRecord
  simp only [hrfu]
  refine ⟨_, if_pos (by omega), ?_⟩
  rw [List.length_append, List.length_replicate]
  omega

/-- Records and headers are right exactly if the values have room, the BEP amount is what is written
for it, and neither the car park id nor the file name is too long for its place. -/
theorem settlementRight_iff (hwidths : Widths header txData) (site : Site) (clock : Readings) :
    SettlementRight header txData site clock ↔ Sound header txData site := by
  obtain ⟨hfrontend, hfrontends⟩ := frontend_record hwidths
  obtain ⟨hbackend, hbackends, -⟩ := backend_record hwidths
  have hprocess : processDSRCBeTx header txData = some (backendPieces header txData).flatten :=
    if_pos hwidths.report
  constructor
  · rintro ⟨hright, record, hrecord, hbackendRight⟩
    obtain rfl := Option.some_inj.mp (hprocess.symm.trans hrecord)
    obtain ⟨hcarpark, hname⟩ := frontendHeader_iff.mp ((header_iff (by decide)).mp hright.header)
    refine ⟨?_, ?_, hcarpark, hname⟩
    · intro decimal hmem
      rcases List.mem_append.mp hmem with hmem | hmem
      · exact (hright.decimals decimal hmem).fits
      · exact (hbackendRight.decimals decimal hmem).fits
    · apply (bepAmount_iff hwidths).mp
      exact hbackendRight.decimals _ (List.mem_append_right _ List.mem_cons_self)
  · intro hsound
    constructor
    · refine ⟨hfrontend, ?_, (header_iff (by decide)).mpr ?_⟩
      swap
      · exact frontendHeader_iff.mpr ⟨hsound.carparkId, hsound.fileName⟩
      intro decimal hmem
      exact hfrontends decimal hmem (hsound.decimals decimal (List.mem_append_left _ hmem))
    · refine ⟨_, hprocess, hbackend, ?_, (header_iff (by decide)).mpr ?_⟩
      · intro decimal hmem
        have hfits := hsound.decimals decimal (List.mem_append_right _ hmem)
        simp only [backendDecimals, List.mem_append, List.mem_cons, List.not_mem_nil,
          or_false] at hmem
        rcases hmem with hcommon | rfl | rfl
        · exact hbackends decimal (List.mem_append_left _ hcommon) hfits
        · exact (bepAmount_iff hwidths).mpr hsound.bepAmount
        · exact hbackends _ (List.mem_append_right _ List.mem_cons_self) hfits
      · exact backendHeader hsound.carparkId hsound.fileName

def readings : Readings := ⟨morning, morning, morning, 250⟩

def siteOf (carparkId : String) : Site :=
  ⟨bytesOf "CPO".toList, bytesOf carparkId.toList, 1⟩

def reportHeader : MessageHeader :=
  { destinationID := 33, sourceID := 97, dataTypeCode := MessageCode.transactionData.toUInt8
    rsv := 0, day := 1, month := 9, year := 2026, rsv1 := 0, second := 0, minute := 30, hour := 8
    seqNo := 7, dataLen := 512 }

/-- A backend deduction: the fee of the car park and the amount that the backend has taken. -/
def deduction (paymentFee : UInt32) (bepPaymentFeeAmount : UInt16) : TransactionData :=
  { (default : TransactionData) with
    resultDeduction := 0x02
    subSystemLabel := 12345678
    parkingStartYear := 2026, parkingStartMonth := 9, parkingStartDay := 1
    parkingEndYear := 2026, parkingEndMonth := 9, parkingEndDay := 1, parkingEndHour := 8
    paymentFee, bepPaymentFeeAmount
    chargeReportCounter := 42 }

/-- The fee is what the backend has taken. -/
theorem settlementRight_wholeFee :
    SettlementRight reportHeader (deduction 250 250) (siteOf "00001") readings := by
  apply (settlementRight_iff ⟨by decide, by decide, by decide, by decide, by decide, by decide,
    by decide⟩ (siteOf "00001") readings).mpr
  exact ⟨by decide, by decide, by decide, by decide⟩

/-- The backend has taken two dollars of a fee of two dollars fifty, and the record says two dollars
fifty; of a car park with six digits the header is a byte longer than the record. -/
theorem not_settlementRight :
    ¬ SettlementRight reportHeader (deduction 250 200) (siteOf "00001") readings ∧
      ¬ SettlementRight reportHeader (deduction 250 250) (siteOf "100001") readings := by
  constructor
  · rintro ⟨-, record, hrecord, hright⟩
    have hwritten : bcdValue (field record 70 6) = some 250 := by
      obtain rfl := Option.some_inj.mp hrecord
      decide +kernel
    have hamount : bcdValue (field record 70 6) = some 200 :=
      hright.decimals ⟨70, 6, 200⟩ (List.mem_append_right _ List.mem_cons_self)
    exact absurd (hwritten.symm.trans hamount) (by decide)
  · rintro ⟨hright, -⟩
    obtain ⟨header, hlength, hheader⟩ := (header_iff (by decide)).mp hright.header
    have hlonger : (headerRecord true (siteOf "100001") readings).map List.length = some 209 := by
      decide +kernel
    rw [hlength, Option.map_some, hheader] at hlonger
    exact absurd hlonger (by decide)

end LinuxPBS.Eep.Settlement
