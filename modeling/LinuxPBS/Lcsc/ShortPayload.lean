import LinuxPBS.Lcsc.Client
import LinuxPBS.Lcsc.Settlement

/-!
# Short responses of the card reader

`handleReceivedCmd` rejects an empty payload and `handleCmdResponse` takes it from
there: each success case reads its fields at fixed offsets.  Where it does so with
iterators or `operator[]` a short payload is read behind its end.  Where it uses
`FnGetVectorCharToHexString`, which checks, the field is empty and the success is
reported all the same; for an upload the empty version counts as the final one.

```text
GET_STATUS    58   GET_CARD_ID   17   CARD_DEDUCT  113   GET_TIME       5
AUTH_LOGIN1   33   CARD_BALANCE  20   CARD_RECORD  113   BL, CIL, CFG   3
```

`robust_iff`: a response is handled as it should be exactly if it is not a success
or has the bytes that a success of its kind has.
-/

namespace LinuxPBS.Lcsc.Checked

open Common Digits Record

/-! ## Reading a payload -/

/-- How the handling of a response may go wrong. -/
inductive Fault
  /-- a read behind the end of the payload, the outcome of which is undefined -/
  | outOfBounds
  | exception
  deriving DecidableEq, Repr

/-- `operator[]` -/
def byteAt (payload : List UInt8) (index : ℕ) : Except Fault UInt8 :=
  match payload[index]? with
  | some byte => .ok byte
  | none => .error .outOfBounds

/-- `assign` from two iterators -/
def range (payload : List UInt8) (offset count : ℕ) : Except Fault (List UInt8) :=
  match assign payload offset count with
  | some bytes => .ok bytes
  | none => .error .outOfBounds

/-- `FnGetVectorCharToHexString`, which catches its own exceptions -/
def getVectorCharToHexString (payload : List UInt8) (startPos length : ℕ) : List Char :=
  if startPos ≥ payload.length then []
  else if startPos + length > payload.length then []
  else hexText (field payload startPos length)

/-- A string of raw bytes. -/
def rawString (bytes : List UInt8) : List Char := bytes.map fun byte => Char.ofNat byte.toNat

/-- `std::stoul(seed, nullptr, 16)` -/
def stoul (seed : List Char) : Except Fault ℕ :=
  match stoulHex (String.ofList seed) with
  | some value => .ok value
  | none => .error .exception

/-! ## Handling it -/

/-- What `handleCmdResponse` makes of a response: the text it returns, as its status and the
fields behind that, the settlement record and the commands it enqueues. -/
structure Produced where
  msgRsp : Option (CscEvents × List (String × List Char)) := none
  settlement : Option (List UInt8) := none
  cardFlush : Option UInt32 := none
  login2 : Option (List UInt8) := none
  deriving DecidableEq, Repr

/-- The members that `processTrans` uses, the time, and `FnConvertDateTime` in the time zone. -/
structure Settings where
  eps : ℤ
  lastDebitTime : Option Moment
  now : Moment
  convertDateTime : UInt32 → List Char

/-- The settlement record, see `Lcsc.processTrans`. -/
def processTrans (settings : Settings) (payload : List UInt8) : Except Fault (List UInt8) :=
  match Lcsc.processTrans settings.eps settings.lastDebitTime settings.now payload with
  | some settlement => .ok settlement
  | none => .error .outOfBounds

/-- `GET_STATUS` -/
def getStatus (payload : List UInt8) : Except Fault Produced := do
  let serialNum ← range payload 1 32
  let readerMode ← byteAt payload 33
  return {
    msgRsp := some (.sGetStatusOK,
      [("serialNum", rawString serialNum), ("readerMode", Nat.toDigits 10 readerMode.toNat),
        ("bl1Version", getVectorCharToHexString payload 37 2),
        ("bl2Version", getVectorCharToHexString payload 39 2),
        ("bl3Version", getVectorCharToHexString payload 41 2),
        ("bl4Version", getVectorCharToHexString payload 43 2),
        ("cil1Version", getVectorCharToHexString payload 45 2),
        ("cil2Version", getVectorCharToHexString payload 47 2),
        ("cil3Version", getVectorCharToHexString payload 49 2),
        ("cil4Version", getVectorCharToHexString payload 51 2),
        ("cfgVersion", getVectorCharToHexString payload 53 2),
        ("firmwareVersion", getVectorCharToHexString payload 55 3)]) }

/-- `AUTH_LOGIN1` -/
def login1 (payload : List UInt8) : Except Fault Produced := do
  let readerChallenge ← range payload 17 16
  return {
    msgRsp := some (.sLogin1Success, [("readerChallenge", hexText readerChallenge)])
    login2 := some readerChallenge }

/-- `GET_CARD_ID` -/
def getCardId (payload : List UInt8) : Except Fault Produced :=
  .ok {
    msgRsp := some (.sGetIDSuccess,
      [("CSN", getVectorCharToHexString payload 1 8),
        ("CAN", getVectorCharToHexString payload 9 8)]) }

/-- `CARD_BALANCE` -/
def cardBalance (payload : List UInt8) : Except Fault Produced := do
  let high ← byteAt payload 17
  let middle ← byteAt payload 18
  let low ← byteAt payload 19
  let balance := high.toNat * 2 ^ 16 + middle.toNat * 2 ^ 8 + low.toNat
  return {
    msgRsp := some (.sGetBlcSuccess,
      [("CSN", getVectorCharToHexString payload 1 8),
        ("CAN", getVectorCharToHexString payload 9 8),
        ("cardBalance", Nat.toDigits 10 balance)]) }

/-- `CARD_DEDUCT`; an exception of the seed is caught where it arises. -/
def cardDeduct (settings : Settings) (payload : List UInt8) : Except Fault Produced := do
  let seed := getVectorCharToHexString payload 1 4
  let cardSerialNum ← range payload 13 32
  let transRecord1 := vectorUint8ToBinaryString (← range payload 45 30)
  let transRecord2 := vectorUint8ToBinaryString (← range payload 77 30)
  let settlement ← processTrans settings payload
  return {
    msgRsp := some (.sGetDeductSuccess,
      [("seed", seed), ("CAN", getVectorCharToHexString payload 5 8),
        ("CSN", rawString cardSerialNum),
        ("BalanceBeforeTrans", Nat.toDigits 10 (purseField transRecord1 171).toNat),
        ("BalanceAfterTrans", Nat.toDigits 10 (purseField transRecord2 168).toNat)])
    settlement := some settlement
    cardFlush := match stoul seed with
      | .ok value => some (UInt32.ofNat value)
      | .error _ => none }

/-- `CARD_RECORD` -/
def cardRecord (settings : Settings) (payload : List UInt8) : Except Fault Produced := do
  let settlement ← processTrans settings payload
  return {
    msgRsp := some (.sGetCardRecord, [("seed", getVectorCharToHexString payload 1 4)])
    settlement := some settlement }

/-- `GET_TIME` -/
def getTime (settings : Settings) (payload : List UInt8) : Except Fault Produced := do
  let first ← byteAt payload 1
  let second ← byteAt payload 2
  let third ← byteAt payload 3
  let fourth ← byteAt payload 4
  let epochSeconds :=
    ((first.toNat * 2 ^ 8 + second.toNat) * 2 ^ 8 + third.toNat) * 2 ^ 8 + fourth.toNat
  let readerTime := settings.convertDateTime (UInt32.ofNat epochSeconds)
  return { msgRsp := some (.sGetTimeSuccess, [("readerTime", readerTime)]) }

/-- `BL_UPLOAD`, `CIL_UPLOAD` and `CFG_UPLOAD`; `"0000"` is the version of all chunks but the
last. -/
def upload (status : CscEvents) (payload : List UInt8) : Except Fault Produced :=
  let version := getVectorCharToHexString payload 1 2
  .ok { msgRsp := if version = ['0', '0', '0', '0'] then none
          else some (status, [("version", version)]) }

/-- The case `0x00` of a response. -/
def success (settings : Settings) (payload : List UInt8) : Cmd → Except Fault Produced
  | .getStatusCmd => getStatus payload
  | .login1 => login1 payload
  | .login2 => .ok { msgRsp := some (.sLoginSuccess, []) }
  | .logout => .ok { msgRsp := some (.sLogoutSuccess, []) }
  | .getCardId => getCardId payload
  | .cardBalance => cardBalance payload
  | .cardDeduct => cardDeduct settings payload
  | .cardRecord => cardRecord settings payload
  | .cardFlush => .ok { msgRsp := some (.sCardFlushed, []) }
  | .getTime => getTime settings payload
  | .setTime => .ok { msgRsp := some (.sSetTimeSuccess, []) }
  | .uploadBlFile => upload .sBLUploadSuccess payload
  | .uploadCilFile => upload .sCILUploadSuccess payload
  | .uploadCfgFile => upload .sCFGUploadSuccess payload

/-- A poll repeats itself unless it succeeds, and is ignored after a stop. -/
def isPoll : Cmd → Bool
  | .getCardId | .cardBalance => true
  | _ => false

/-- `LCSCReader::handleCmdResponse` -/
def handleCmdResponse (settings : Settings) (cmd : Cmd) (continueReadFlag : Bool)
    (payload : List UInt8) : Except Fault Produced := do
  if isPoll cmd && !continueReadFlag then return {}
  let result ← byteAt payload 0
  if result = 0x00 then success settings payload cmd
  else if isPoll cmd then return {}
  else return { msgRsp := (resultStatus cmd result).map fun status => (status, []) }

/-! ## What it should do -/

/-- The bytes that a success has. -/
def requiredBytes : Cmd → ℕ
  | .getStatusCmd => 58
  | .login1 => 33
  | .getCardId => 17
  | .cardBalance => 20
  | .cardDeduct | .cardRecord => 113
  | .getTime => 5
  | .uploadBlFile | .uploadCilFile | .uploadCfgFile => 3
  | .login2 | .logout | .cardFlush | .setTime => 1

/-- The statuses of success. -/
def isSuccess : CscEvents → Bool
  | .sGetStatusOK | .sLoginSuccess | .sLogoutSuccess | .sGetIDSuccess | .sGetBlcSuccess
  | .sGetTimeSuccess | .sGetDeductSuccess | .sGetCardRecord | .sCardFlushed | .sSetTimeSuccess
  | .sLogin1Success | .sBLUploadSuccess | .sCILUploadSuccess | .sCFGUploadSuccess => true
  | _ => false

/-- A success, a record and a flush come from a payload that has all their bytes. -/
structure Backed (cmd : Cmd) (payload : List UInt8) (produced : Produced) : Prop where
  msgRsp : ∀ response ∈ produced.msgRsp, isSuccess response.1 = true →
    requiredBytes cmd ≤ payload.length
  settlement : produced.settlement ≠ none → requiredBytes cmd ≤ payload.length
  cardFlush : produced.cardFlush ≠ none → requiredBytes cmd ≤ payload.length

/-- No read behind the payload, no exception, and nothing that the payload does not back. -/
def Robust (settings : Settings) (cmd : Cmd) (continueReadFlag : Bool) (payload : List UInt8) :
    Prop :=
  ∃ produced, handleCmdResponse settings cmd continueReadFlag payload = .ok produced ∧
    Backed cmd payload produced

/-- A success that is looked at; a poll is not after a stop. -/
def Succeeds (cmd : Cmd) (continueReadFlag : Bool) (payload : List UInt8) : Prop :=
  payload.head? = some 0x00 ∧ (isPoll cmd = true → continueReadFlag = true)

/-! ## Reads in bounds -/

variable {settings : Settings} {cmd : Cmd} {continueReadFlag : Bool} {payload : List UInt8}

theorem byteAt_ok {index : ℕ} (hlong : index < payload.length) :
    byteAt payload index = .ok payload[index] := by
  rw [byteAt, List.getElem?_eq_getElem hlong]

theorem range_ok {offset count : ℕ} (hlong : offset + count ≤ payload.length) :
    range payload offset count = .ok (field payload offset count) := by
  rw [range, assign, if_pos hlong]

theorem processTrans_ok (settings : Settings) (hlong : 113 ≤ payload.length) :
    ∃ settlement, processTrans settings payload = .ok settlement := by
  have heq := processTrans_eq hlong settings.eps settings.lastDebitTime settings.now
  unfold processTrans
  rw [heq]
  exact ⟨_, rfl⟩

/-- With all its bytes a success is handled without a fault. -/
theorem success_ok (settings : Settings) (hlong : requiredBytes cmd ≤ payload.length) :
    ∃ produced, success settings payload cmd = .ok produced := by
  cases cmd with
  | getStatusCmd =>
      have hlong : 58 ≤ payload.length := hlong
      unfold success getStatus
      rw [range_ok (by omega), byteAt_ok (by omega)]
      exact ⟨_, rfl⟩
  | login1 =>
      unfold success login1
      rw [range_ok hlong]
      exact ⟨_, rfl⟩
  | cardBalance =>
      have hlong : 20 ≤ payload.length := hlong
      unfold success cardBalance
      rw [byteAt_ok (by omega), byteAt_ok (by omega), byteAt_ok (by omega)]
      exact ⟨_, rfl⟩
  | cardDeduct =>
      have hlong : 113 ≤ payload.length := hlong
      obtain ⟨settlement, hsettlement⟩ := processTrans_ok settings hlong
      unfold success cardDeduct
      rw [range_ok (by omega), range_ok (by omega), range_ok (by omega), hsettlement]
      exact ⟨_, rfl⟩
  | cardRecord =>
      obtain ⟨settlement, hsettlement⟩ := processTrans_ok settings hlong
      unfold success cardRecord
      rw [hsettlement]
      exact ⟨_, rfl⟩
  | getTime =>
      have hlong : 5 ≤ payload.length := hlong
      unfold success getTime
      rw [byteAt_ok (by omega), byteAt_ok (by omega), byteAt_ok (by omega), byteAt_ok (by omega)]
      exact ⟨_, rfl⟩
  | _ => exact ⟨_, rfl⟩

/-! ## What a success claims -/

/-- The status of a text is one of success. -/
def Claims (produced : Produced) : Prop := ∃ response ∈ produced.msgRsp, isSuccess response.1 = true

theorem bind_eq_ok {α β : Type} {first : Except Fault α} {next : α → Except Fault β} {result : β}
    (hresult : (first >>= next) = .ok result) :
    ∃ value, first = .ok value ∧ next value = .ok result := by
  cases first with
  | error fault => cases hresult
  | ok value => exact ⟨value, rfl, hresult⟩

/-- The status of a success is the one of the result `0x00`. -/
theorem status_success {produced : Produced} (hchunk : isChunkedCommand cmd = false)
    (hproduced : success settings payload cmd = .ok produced) :
    produced.msgRsp.map Prod.fst =
      match cmd with
      | .getCardId => some .sGetIDSuccess
      | .cardBalance => some .sGetBlcSuccess
      | _ => resultStatus cmd 0x00 := by
  cases cmd with
  | getStatusCmd =>
      obtain ⟨_, -, hproduced⟩ := bind_eq_ok hproduced
      obtain ⟨_, -, hproduced⟩ := bind_eq_ok hproduced
      cases hproduced
      rfl
  | login1 | cardRecord =>
      obtain ⟨_, -, hproduced⟩ := bind_eq_ok hproduced
      cases hproduced
      rfl
  | cardBalance =>
      obtain ⟨_, -, hproduced⟩ := bind_eq_ok hproduced
      obtain ⟨_, -, hproduced⟩ := bind_eq_ok hproduced
      obtain ⟨_, -, hproduced⟩ := bind_eq_ok hproduced
      cases hproduced
      rfl
  | cardDeduct | getTime =>
      obtain ⟨_, -, hproduced⟩ := bind_eq_ok hproduced
      obtain ⟨_, -, hproduced⟩ := bind_eq_ok hproduced
      obtain ⟨_, -, hproduced⟩ := bind_eq_ok hproduced
      obtain ⟨_, -, hproduced⟩ := bind_eq_ok hproduced
      cases hproduced
      rfl
  | uploadBlFile | uploadCilFile | uploadCfgFile => exact absurd hchunk (by decide)
  | getCardId | login2 | logout | cardFlush | setTime =>
      cases hproduced
      rfl

/-- An empty version is not the one that is waited for. -/
theorem upload_claims {status : CscEvents} {produced : Produced} (hstatus : isSuccess status = true)
    (hshort : payload.length < 3) (hproduced : upload status payload = .ok produced) :
    Claims produced := by
  have hversion : getVectorCharToHexString payload 1 2 = [] := by
    unfold getVectorCharToHexString
    split_ifs with hstart
    · rfl
    · rfl
  unfold upload at hproduced
  rw [hversion] at hproduced
  cases hproduced
  exact ⟨_, rfl, hstatus⟩

/-- A success that is handled without a fault says so, unless a chunk is not the last one. -/
theorem success_claims {produced : Produced}
    (hproduced : success settings payload cmd = .ok produced) :
    Claims produced ∨ requiredBytes cmd ≤ payload.length := by
  cases hchunk : isChunkedCommand cmd with
  | false =>
      left
      have hstatus := status_success hchunk hproduced
      have hsuccess : ∃ status, produced.msgRsp.map Prod.fst = some status ∧
          isSuccess status = true := by
        rw [hstatus]
        cases cmd <;> exact ⟨_, rfl, rfl⟩
      obtain ⟨status, hmap, hsuccess⟩ := hsuccess
      obtain ⟨response, hresponse, rfl⟩ := Option.map_eq_some_iff.mp hmap
      exact ⟨response, hresponse, hsuccess⟩
  | true =>
      rcases Nat.lt_or_ge payload.length 3 with hshort | hlong
      · left
        cases cmd with
        | uploadBlFile | uploadCilFile | uploadCfgFile => exact upload_claims rfl hshort hproduced
        | _ => exact absurd hchunk (by decide)
      · right
        cases cmd with
        | uploadBlFile | uploadCilFile | uploadCfgFile => exact hlong
        | _ => exact absurd hchunk (by decide)

/-- No other result has a status of success. -/
theorem not_isSuccess_resultStatus {result : UInt8} (hresult : result ≠ 0x00) {status : CscEvents}
    (hstatus : resultStatus cmd result = some status) : isSuccess status = false := by
  have hall : ∀ n < 256, UInt8.ofNat n ≠ 0x00 →
      (resultStatus cmd (UInt8.ofNat n)).all (fun status => !isSuccess status) = true := by
    cases cmd <;> decide +kernel
  have hfailed := hall result.toNat result.toNat_lt
  rw [UInt8.ofNat_toNat, hstatus] at hfailed
  simpa using hfailed hresult

/-! ## Which responses are handled as they should be -/

theorem handleCmdResponse_succeeds (settings : Settings)
    (hsucceeds : Succeeds cmd continueReadFlag payload) :
    handleCmdResponse settings cmd continueReadFlag payload = success settings payload cmd := by
  obtain ⟨hhead, hpoll⟩ := hsucceeds
  have hlistened : (isPoll cmd && !continueReadFlag) = false := by
    cases hcmd : isPoll cmd with
    | false => rfl
    | true => rw [hpoll hcmd]; rfl
  have hresult : byteAt payload 0 = .ok 0x00 := by
    rw [byteAt, ← List.head?_eq_getElem?, hhead]
  unfold handleCmdResponse
  rw [hlistened, hresult]
  rfl

/-- What a result other than success produces. -/
theorem handleCmdResponse_failure (settings : Settings) (continueReadFlag : Bool) {result : UInt8}
    (hresult : result ≠ 0x00) (rest : List UInt8) :
    handleCmdResponse settings cmd continueReadFlag (result :: rest) =
      .ok { msgRsp := if isPoll cmd then none
              else (resultStatus cmd result).map fun status => (status, []) } := by
  have hbyte : byteAt (result :: rest) 0 = .ok result := rfl
  unfold handleCmdResponse
  cases hpoll : isPoll cmd with
  | true =>
      cases continueReadFlag with
      | false => rfl
      | true =>
          rw [hbyte]
          show (if result = 0x00 then _ else _) = _
          rw [if_neg hresult]
          rfl
  | false =>
      rw [hbyte]
      show (if result = 0x00 then _ else _) = _
      rw [if_neg hresult]
      rfl

/-- A response that is no success, or is not looked at, is handled without a fault and claims
nothing. -/
theorem handleCmdResponse_other (settings : Settings) (hpayload : payload ≠ [])
    (hother : ¬ Succeeds cmd continueReadFlag payload) :
    ∃ produced, handleCmdResponse settings cmd continueReadFlag payload = .ok produced ∧
      ¬ Claims produced ∧ produced.settlement = none ∧ produced.cardFlush = none := by
  obtain ⟨result, rest, rfl⟩ := List.exists_cons_of_ne_nil hpayload
  by_cases hresult : result = 0x00
  · subst hresult
    have hstopped : isPoll cmd = true ∧ continueReadFlag = false := by
      by_contra hlistened
      refine hother ⟨rfl, fun hpoll => ?_⟩
      cases continueReadFlag with
      | true => rfl
      | false => exact absurd ⟨hpoll, rfl⟩ hlistened
    obtain ⟨hpoll, rfl⟩ := hstopped
    refine ⟨{}, ?_, ?_, rfl, rfl⟩
    · unfold handleCmdResponse
      rw [hpoll]
      rfl
    · rintro ⟨response, hresponse, -⟩
      cases hresponse
  · refine ⟨_, handleCmdResponse_failure settings continueReadFlag hresult rest, ?_, rfl, rfl⟩
    rintro ⟨response, hresponse, hsuccess⟩
    dsimp only at hresponse
    split at hresponse
    · cases hresponse
    · obtain ⟨status, hstatus, rfl⟩ := Option.map_eq_some_iff.mp hresponse
      rw [not_isSuccess_resultStatus hresult hstatus] at hsuccess
      exact Bool.false_ne_true hsuccess

/-- A response that has passed the checks is not empty. -/
theorem payload_ne_nil {frame : List UInt8} {msg : CscPacket}
    (hcheck : checkResponse cmd frame = .ok msg) : msg.payload ≠ [] := by
  unfold checkResponse at hcheck
  split at hcheck
  · cases hcheck
  · split_ifs at hcheck with hcode htype hempty
    cases hcheck
    exact hempty

/-- A response is handled as it should be exactly if it has the bytes of its kind, or is not a
success that is looked at. -/
theorem robust_iff (settings : Settings) (continueReadFlag : Bool) {frame : List UInt8}
    {msg : CscPacket} (hcheck : checkResponse cmd frame = .ok msg) :
    Robust settings cmd continueReadFlag msg.payload ↔
      (Succeeds cmd continueReadFlag msg.payload → requiredBytes cmd ≤ msg.payload.length) := by
  constructor
  · rintro ⟨produced, hproduced, hbacked⟩ hsucceeds
    rw [handleCmdResponse_succeeds settings hsucceeds] at hproduced
    rcases success_claims hproduced with ⟨response, hresponse, hsuccess⟩ | hlong
    · exact hbacked.msgRsp response hresponse hsuccess
    · exact hlong
  · intro hlong
    by_cases hsucceeds : Succeeds cmd continueReadFlag msg.payload
    · obtain ⟨produced, hproduced⟩ := success_ok settings (hlong hsucceeds)
      refine ⟨produced, (handleCmdResponse_succeeds settings hsucceeds).trans hproduced, ?_⟩
      have hall := hlong hsucceeds
      exact ⟨fun _ _ _ => hall, fun _ => hall, fun _ => hall⟩
    · obtain ⟨produced, hproduced, hclaims, hsettlement, hflush⟩ :=
        handleCmdResponse_other settings (payload_ne_nil hcheck) hsucceeds
      refine ⟨produced, hproduced, ⟨fun response hresponse hsuccess => ?_, ?_, ?_⟩⟩
      · exact absurd ⟨response, hresponse, hsuccess⟩ hclaims
      · exact fun hsome => absurd hsettlement hsome
      · exact fun hsome => absurd hflush hsome

/-! ## The client -/

theorem version_iff (payload : List UInt8) :
    getVectorCharToHexString payload 1 2 = ['0', '0', '0', '0'] ↔ awaitsMore payload = true := by
  have htable : ∀ d : Fin 16, d.val.digitChar = '0' ↔ d.val = 0 := by decide
  have hdigit {d : ℕ} (hd : d < 16) : d.digitChar = '0' ↔ d = 0 := htable ⟨d, hd⟩
  unfold getVectorCharToHexString awaitsMore
  match payload with
  | [] => simp
  | [_] => simp
  | [_, _] => simp
  | result :: high :: low :: rest =>
      have hhigh : high.toNat < 256 := high.toNat_lt
      have hlow : low.toNat < 256 := low.toNat_lt
      have hfield : field (result :: high :: low :: rest) 1 2 = [high, low] := rfl
      have htext : hexText [high, low] =
          [(high.toNat / 16).digitChar, (high.toNat % 16).digitChar,
            (low.toNat / 16).digitChar, (low.toNat % 16).digitChar] := hexText_eq [high, low]
      have htake : ((result :: high :: low :: rest).drop 1).take 2 = [high, low] := rfl
      rw [if_neg (by simp), if_neg (by simp), hfield, htext, htake, decide_eq_true_iff]
      simp only [List.cons.injEq, and_true]
      rw [hdigit (by omega), hdigit (by omega), hdigit (by omega), hdigit (by omega),
        ← UInt8.toNat_inj, ← UInt8.toNat_inj]
      simp only [UInt8.toNat_zero]
      omega

theorem status_upload {status : CscEvents} {produced : Produced}
    (hproduced : upload status payload = .ok produced) :
    produced.msgRsp.map Prod.fst = if awaitsMore payload then none else some status := by
  unfold upload at hproduced
  cases hproduced
  simp only [version_iff]
  split <;> rfl

/-- Where no read goes wrong, the client raises the event that is produced here. -/
theorem status_handleCmdResponse {c : Client} {produced : Produced} (hpayload : payload ≠ [])
    (hproduced : handleCmdResponse settings c.currentCmd c.continueReadFlag payload =
      .ok produced) :
    (c.handleCmdResponse payload).2 = produced.msgRsp.map Prod.fst := by
  obtain ⟨result, rest, rfl⟩ := List.exists_cons_of_ne_nil hpayload
  unfold Client.handleCmdResponse Client.handlePollResponse Client.handleChunkResponse
  by_cases hresult : result = 0x00
  · subst hresult
    cases hcmd : c.currentCmd with
    | getCardId | cardBalance =>
        cases hflag : c.continueReadFlag with
        | false =>
            rw [hcmd, hflag] at hproduced
            cases hproduced
            rfl
        | true =>
            rw [hcmd, hflag, handleCmdResponse_succeeds settings ⟨rfl, fun _ => rfl⟩] at hproduced
            rw [status_success rfl hproduced]
            rfl
    | uploadBlFile | uploadCilFile | uploadCfgFile =>
        have hplain (h : isPoll c.currentCmd = true) : c.continueReadFlag = true := by
          rw [hcmd] at h
          exact absurd h Bool.false_ne_true
        rw [handleCmdResponse_succeeds settings ⟨rfl, hplain⟩, hcmd] at hproduced
        rw [status_upload hproduced]
        simp only [List.headD_cons, if_true]
        split <;> rfl
    | _ =>
        have hplain (h : isPoll c.currentCmd = true) : c.continueReadFlag = true := by
          rw [hcmd] at h
          exact absurd h Bool.false_ne_true
        rw [handleCmdResponse_succeeds settings ⟨rfl, hplain⟩, hcmd] at hproduced
        rw [status_success rfl hproduced]
        rfl
  · rw [handleCmdResponse_failure settings c.continueReadFlag hresult] at hproduced
    cases hproduced
    have hsame (status : Option CscEvents) :
        (status.map fun status => (status, ([] : List (String × List Char)))).map Prod.fst =
          status := by
      cases status <;> rfl
    cases hcmd : c.currentCmd with
    | getCardId | cardBalance =>
        simp only [isPoll, List.headD_cons, hresult, if_false, if_true, Option.map_none]
        split <;> rfl
    | _ =>
        simp only [isPoll, List.headD_cons, hresult, if_false, Bool.false_eq_true, hsame]

/-- A response frame with its CRC. -/
def responseFrame (type : UInt8) (payload : List UInt8) : List UInt8 :=
  let packet : CscPacket :=
    { attn := attentionCode, code := true, type, len := UInt16.ofNat (payload.length + 6), payload }
  packet.serializeWithoutCrc ++ bytesOf (crc16Ccitt packet.serializeWithoutCrc)

/-- An exit with no deduction so far. -/
def firstMorning : Settings :=
  { eps := 2, lastDebitTime := none, now := morning, convertDateTime := fun _ => [] }

/-- The answer to a poll with the numbers of the card. -/
theorem robust_cardId :
    ∃ msg, checkResponse .getCardId (responseFrame 0x20 (List.replicate 17 0x00)) = .ok msg ∧
      Robust firstMorning .getCardId true msg.payload := by
  have hcheck : checkResponse .getCardId (responseFrame 0x20 (List.replicate 17 0x00)) =
      .ok (CscPacket.deserialize (responseFrame 0x20 (List.replicate 17 0x00))) := by
    decide +kernel
  exact ⟨_, hcheck, (robust_iff firstMorning true hcheck).mpr fun _ => by decide +kernel⟩

/-- A deduction that is confirmed with a single byte is read behind its end, and an answer to a
poll and one to an upload are successes without the bytes for them. -/
theorem not_robust :
    (∃ msg, checkResponse .cardDeduct (responseFrame 0x22 [0x00]) = .ok msg ∧
      handleCmdResponse firstMorning .cardDeduct true msg.payload = .error .outOfBounds ∧
      ¬ Robust firstMorning .cardDeduct true msg.payload) ∧
    (∃ msg, checkResponse .getCardId (responseFrame 0x20 [0x00]) = .ok msg ∧
      handleCmdResponse firstMorning .getCardId true msg.payload =
        .ok { msgRsp := some (.sGetIDSuccess, [("CSN", []), ("CAN", [])]) } ∧
      ¬ Robust firstMorning .getCardId true msg.payload) ∧
    ∃ msg, checkResponse .uploadBlFile (responseFrame 0x30 [0x00]) = .ok msg ∧
      handleCmdResponse firstMorning .uploadBlFile true msg.payload =
        .ok { msgRsp := some (.sBLUploadSuccess, [("version", [])]) } ∧
      ¬ Robust firstMorning .uploadBlFile true msg.payload := by
  have hone (type : UInt8) (cmd : Cmd) (htype : (type, cmd) ∈
      [(0x22, Cmd.cardDeduct), (0x20, .getCardId), (0x30, .uploadBlFile)]) :
      checkResponse cmd (responseFrame type [0x00]) =
        .ok (CscPacket.deserialize (responseFrame type [0x00])) ∧
      (CscPacket.deserialize (responseFrame type [0x00])).payload = [0x00] := by
    simp only [List.mem_cons, Prod.mk.injEq, List.not_mem_nil, or_false] at htype
    rcases htype with ⟨rfl, rfl⟩ | ⟨rfl, rfl⟩ | ⟨rfl, rfl⟩ <;> exact ⟨by decide +kernel, by decide⟩
  refine ⟨?_, ?_, ?_⟩
  · obtain ⟨hcheck, hpayload⟩ := hone 0x22 .cardDeduct (by decide)
    have hfault : handleCmdResponse firstMorning .cardDeduct true [0x00] =
        .error .outOfBounds := rfl
    refine ⟨_, hcheck, by rw [hpayload, hfault], ?_⟩
    rintro ⟨produced, hproduced, -⟩
    rw [hpayload, hfault] at hproduced
    cases hproduced
  · obtain ⟨hcheck, hpayload⟩ := hone 0x20 .getCardId (by decide)
    refine ⟨_, hcheck, by rw [hpayload]; rfl, ?_⟩
    rintro ⟨produced, hproduced, hbacked⟩
    rw [hpayload] at hproduced hbacked
    cases hproduced
    exact absurd (hbacked.msgRsp _ rfl rfl) (by decide)
  · obtain ⟨hcheck, hpayload⟩ := hone 0x30 .uploadBlFile (by decide)
    refine ⟨_, hcheck, by rw [hpayload]; rfl, ?_⟩
    rintro ⟨produced, hproduced, hbacked⟩
    rw [hpayload] at hproduced hbacked
    cases hproduced
    exact absurd (hbacked.msgRsp _ rfl rfl) (by decide)

end LinuxPBS.Lcsc.Checked
