import LinuxPBS.Common
import LinuxPBS.Eep.OneOutcome

/-!
# The transaction data of an EEP deduction

`FnSendDeductReq` numbers the deductions, and the EEP repeats the number and the
label of the on-board unit in its TRANSACTION_DATA.

```text
DEDUCT_REQUEST    0: serial number (2)   12: OBU label (5)   20: charge (2)   24: times
TRANSACTION_DATA  0: serial number (2)   16: OBU label (5)   ...              340 bytes
```

`isResponseNotificationComplete` looks at the message code alone, while the path for
responses turns down a sequence number that is not expected.  So an outstanding
`DEDUCT_REQ_CMD` is completed by whatever transaction data are read next.
-/

namespace LinuxPBS.Eep

open Machine LinuxPBS.Bytes

/-! ## The requests -/

/-- The bytes of a 16-bit number, the lower one first. -/
def lowHigh (value : UInt16) : Vector UInt8 2 :=
  #v[UInt8.ofNat value.toNat, UInt8.ofNat (value.toNat / 256)]

/-- The `DeductData` of `FnSendDeductReq`. -/
def deductData (serialNum : UInt16) (obuLabelArr : Vector UInt8 5) (feeArr : Vector UInt8 2)
    (entry exit : Common.DateTime) : CommandData :=
  .deductData (lowHigh serialNum) (.replicate 10 0x00) obuLabelArr (.replicate 3 0x00) feeArr
    (.replicate 2 0x00) (UInt8.ofNat entry.day) (UInt8.ofNat entry.month)
    (lowHigh (UInt16.ofNat entry.year)) 0x00 (UInt8.ofNat entry.second) (UInt8.ofNat entry.minute)
    (UInt8.ofNat entry.hour) (UInt8.ofNat exit.day) (UInt8.ofNat exit.month)
    (lowHigh (UInt16.ofNat exit.year)) 0x00 (UInt8.ofNat exit.second) (UInt8.ofNat exit.minute)
    (UInt8.ofNat exit.hour)

/-- The client and its counter of the deductions. -/
structure DeductClient where
  client : Client
  deductCmdSerialNo : UInt16 := 0

namespace DeductClient

/-- `EEPClient::allocateDeductCmdSerialNo` -/
def allocateDeductCmdSerialNo (s : DeductClient) : UInt16 × DeductClient :=
  (s.deductCmdSerialNo, { s with deductCmdSerialNo := s.deductCmdSerialNo + 1 })

/-- `EEPClient::FnSendDeductReq` -/
def fnSendDeductReq (s : DeductClient) (obuLabel fee entryTime exitTime : String) : DeductClient :=
  match Common.convertHexStringToByteArray obuLabel 5, Common.decimalStringToTwoBytes fee true,
      Common.parseDateTimeString entryTime, Common.parseDateTimeString exitTime with
  | some obuLabelArr, some feeArr, some entry, some exit =>
      let (serialNum, s) := s.allocateDeductCmdSerialNo
      let reqData := deductData serialNum obuLabelArr feeArr entry exit
      { s with client := s.client.step (.enqueue .deductReqCmd 1 (some reqData)) }
  | _, _, _, _ => { s with client := s.client.step (.reject .deductReqCmd) }

end DeductClient

/-- A deduction is asked for, or something else happens to the client. -/
inductive Call
  | fnSendDeductReq (obuLabel fee entryTime exitTime : String)
  | input (input : Input)
  deriving DecidableEq, Repr

/-- One call or input. -/
def DeductClient.step (s : DeductClient) : Call → DeductClient
  | .fnSendDeductReq obuLabel fee entryTime exitTime =>
      s.fnSendDeductReq obuLabel fee entryTime exitTime
  | .input input => { s with client := s.client.step input }

/-! ## Whose transaction data -/

/-- The fields of `transactionData` that tell the deduction. -/
structure TransactionData where
  deductCommandSerialNum : UInt16
  obuLabel : ℕ
  deriving DecidableEq, Repr

/-- `FnReadUint40BE` -/
def readUint40BE (buffer : List UInt8) (offset : ℕ) : ℕ :=
  ofLeBytes ((buffer.drop offset).take 5).reverse

/-- The `TRANSACTION_DATA` of `handleParsedNotificationMessage`; a short body is not read. -/
def transactionData (body : List UInt8) : Option TransactionData :=
  if body.length < 340 then none
  else some
    { deductCommandSerialNum := readUint16 body 0
      obuLabel := readUint40BE body 16 }

namespace Client

/-- `EEPClient::getDeductSerialFromCurrentRequest` -/
def getDeductSerialFromCurrentRequest (c : Client) : UInt16 :=
  match c.currentCmdRequested.type, c.currentCmdRequested.data with
  | .deductReqCmd, some (.deductData serialNum _ _ _ _ _ _ _ _ _ _ _ _ _ _ _ _ _ _ _) =>
      UInt16.ofNat (ofLeBytes serialNum.toList)
  | _, _ => 0

/-- The label in the current request. -/
def currentObuLabel (c : Client) : ℕ :=
  match c.currentCmdRequested.data with
  | some (.deductData _ _ obuLabel _ _ _ _ _ _ _ _ _ _ _ _ _ _ _ _ _) =>
      readUint40BE obuLabel.toList 0
  | _ => 0

/-- The body is the transaction data of the current request. -/
def IsOwn (c : Client) (body : List UInt8) : Prop :=
  transactionData body = some ⟨c.getDeductSerialFromCurrentRequest, c.currentObuLabel⟩

instance (c : Client) (body : List UInt8) : Decidable (c.IsOwn body) :=
  inferInstanceAs (Decidable (_ = _))

/-- The current request is a `DEDUCT_REQ_CMD` without an outcome. -/
def DeductOutstanding (c : Client) : Prop :=
  c.currentCmdRequested.type = .deductReqCmd ∧ Outstanding c.log c.currentCmdRequested

instance (c : Client) : Decidable c.DeductOutstanding := by
  unfold DeductOutstanding Outstanding
  infer_instance

end Client

namespace DeductClient

/-- The body of the TRANSACTION_DATA that a handler brings. -/
def bringsTransactionData (config : ClientConfig) : Handler → Option (List UInt8)
  | .received data =>
      match receivedMessage config data with
      | .inl (header, body) =>
          if header.dataTypeCode = MessageCode.transactionData.toUInt8 then some body else none
      | .inr _ => none
  | _ => none

/-- The body of the TRANSACTION_DATA that a step reads. -/
def readsTransactionData (s : DeductClient) (call : Call) : Option (List UInt8) :=
  if call = .input .run then s.client.posted.head?.bind (bringsTransactionData s.client.config)
  else none

/-- While a deduction is outstanding, transaction data complete it exactly if they are its
own; others leave it outstanding, with the response timer as it is. -/
def CompletedByOwn (s : DeductClient) (call : Call) : Prop :=
  ∀ body ∈ s.readsTransactionData call, s.client.DeductOutstanding →
    ((s.step call).client.Over ↔ s.client.IsOwn body) ∧
      (¬s.client.IsOwn body → (s.step call).client.DeductOutstanding ∧
        (s.step call).client.currentCmdRequested = s.client.currentCmdRequested ∧
        (s.step call).client.armed .response = s.client.armed .response)

/-- While a deduction is outstanding, the EEP sends no transaction data but its own. -/
def ReadsOwn (s : DeductClient) (call : Call) : Prop :=
  ∀ body ∈ s.readsTransactionData call, s.client.DeductOutstanding → s.client.IsOwn body

instance (s : DeductClient) (call : Call) : Decidable (s.CompletedByOwn call) := by
  unfold CompletedByOwn Client.Over
  infer_instance

instance (s : DeductClient) (call : Call) : Decidable (s.ReadsOwn call) := by
  unfold ReadsOwn
  infer_instance

/-! ## What the client does with them -/

/-- Transaction data answer no `DEDUCT_REQ_CMD`: they are a notification. -/
theorem not_matched_of_transactionData {cmd : Command} (hcmd : cmd.type = .deductReqCmd)
    (body : List UInt8) :
    isResponseMatchedDataTypeCode cmd MessageCode.transactionData.toUInt8 body = false := by
  unfold isResponseMatchedDataTypeCode
  rw [hcmd]
  rfl

/-- The handler that brings transaction data. -/
theorem received_of_bringsTransactionData {config : ClientConfig} {handler : Handler}
    {body : List UInt8} (hbrings : body ∈ bringsTransactionData config handler) :
    ∃ data header, handler = .received data ∧
      receivedMessage config data = .inl (header, body) ∧
      header.dataTypeCode = MessageCode.transactionData.toUInt8 := by
  cases handler with
  | received data =>
      simp only [bringsTransactionData] at hbrings
      cases hmessage : receivedMessage config data with
      | inr reasonCode =>
          rw [hmessage] at hbrings
          cases hbrings
      | inl message =>
          rw [hmessage] at hbrings
          dsimp only at hbrings
          split_ifs at hbrings with hcode
          · obtain rfl := Option.some.inj hbrings
            exact ⟨data, message.1, rfl, hmessage, hcode⟩
          · cases hbrings
  | _ => cases hbrings

/-- Whatever they say, transaction data complete the deduction that is waited for. -/
theorem over_of_readsTransactionData {s : DeductClient} {call : Call} {body : List UInt8}
    (hreads : body ∈ s.readsTransactionData call)
    (hdeduct : s.client.currentCmdRequested.type = .deductReqCmd) : (s.step call).client.Over := by
  unfold readsTransactionData at hreads
  split_ifs at hreads with hcall
  · subst hcall
    obtain ⟨handler, hhead, hbrings⟩ := Option.bind_eq_some_iff.mp hreads
    obtain ⟨data, header, rfl, hreceived, hcode⟩ := received_of_bringsTransactionData hbrings
    obtain ⟨rest, hposted⟩ := List.head?_eq_some_iff.mp hhead
    have hstep : (s.step (.input .run)).client =
        { s.client with posted := rest }.handleReceivedData data := by
      simp only [DeductClient.step, Client.step, hposted, Client.runHandler]
    have hnotified : isNotificationReceived MessageCode.transactionData.toUInt8 := rfl
    have hcompletes : isResponseNotificationComplete s.client.currentCmdRequested
        MessageCode.transactionData.toUInt8 := by
      unfold isResponseNotificationComplete
      rw [hdeduct]
      rfl
    rw [hstep]
    unfold Client.handleReceivedData
    simp only [hreceived, Client.note, hcode, not_matched_of_transactionData hdeduct, hnotified,
      if_true, Bool.false_eq_true, if_false, Client.handleNotification, hcompletes]
    -- the newest entry is the acknowledgement, the completion is below it
    exact List.mem_cons_self
  · cases hreads

/-- A step does with transaction data what it should exactly if they are its own. -/
theorem completedByOwn_iff (s : DeductClient) (call : Call) :
    s.CompletedByOwn call ↔ s.ReadsOwn call := by
  constructor
  · intro hcompleted body hreads hdeduct
    exact (hcompleted body hreads hdeduct).1.mp (over_of_readsTransactionData hreads hdeduct.1)
  · intro hown body hreads hdeduct
    have hover := over_of_readsTransactionData hreads hdeduct.1
    exact ⟨⟨fun _ => hown body hreads hdeduct, fun _ => hover⟩,
      fun hforeign => absurd (hown body hreads hdeduct) hforeign⟩

/-- An hour of parking. -/
def deductOf (obuLabel : String) : Call :=
  .fnSendDeductReq obuLabel "150" "2024-05-03 07:00:00" "2024-05-03 08:00:00"

/-- The thread takes so many handlers. -/
def takes (count : ℕ) : List Call := List.replicate count (.input .run)

/-- A deduction is written and acknowledged. -/
def deductAcknowledged (seqNo : UInt16) : List Call :=
  .input (.writeDone true) :: takes 4 ++
    [.input (.readDone (Client.eepFrame Client.atEight.now .ack seqNo [0x82, 0, 0, 0]))] ++ takes 4

/-- Two deductions are asked for, and the first has no answer in time: its transaction data
come when the second has been acknowledged. -/
def lateTransactionData : List Call :=
  Client.answeredStart.map .input ++ [deductOf "1220024193", deductOf "1220024194"] ++ takes 8 ++
    deductAcknowledged 1 ++ [.input (.expire .response)] ++ takes 8 ++ deductAcknowledged 2 ++
    [.input (.readDone (Client.eepFrame Client.atEight.now .transactionData 9
      ([0, 0] ++ List.replicate 14 0 ++ [0x12, 0x20, 0x02, 0x41, 0x93] ++ List.replicate 319 0)))]

end DeductClient

end LinuxPBS.Eep
