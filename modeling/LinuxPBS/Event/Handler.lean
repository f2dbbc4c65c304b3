import LinuxPBS.Event.Manager
import LinuxPBS.Upt.Command

/-!
# The table of the events

A device raises an event under a name and with some data.  `EventHandler` looks the name up,
takes the data out if they are of the type the table gives, and hands `operation` an event of its
own; `handleEventOnIo` then calls the handler for it, and looks at the type of the data again.

`dispatch_route` says that the two agree: an event that passes the table is never refused
behind it.
-/

namespace LinuxPBS.Event

/-- The data of an `Event<T>` -/
inductive Payload
  | int (value : ℤ)
  | bool (value : Bool)
  | string (text : String)
  | other
  deriving DecidableEq, Repr

/-- What a device raises. -/
structure DeviceEvent where
  eventName : String
  payload : Payload
  deriving DecidableEq, Repr

/-- `EventPayloadType` -/
inductive PayloadType
  | int
  | bool
  | string
  deriving DecidableEq, Repr

/-- `OperationEventType` -/
inductive OperationEventType
  | antennaFail
  | antennaPower
  | antennaIUCome
  | lcscReaderStatus
  | lcscReaderLogin
  | lcscReaderLogout
  | lcscReaderGetCardID
  | lcscReaderGetCardBalance
  | lcscReaderGetCardDeduct
  | lcscReaderGetCardRecord
  | lcscReaderGetCardFlush
  | lcscReaderGetTime
  | lcscReaderSetTime
  | lcscReaderUploadCFGFile
  | lcscReaderUploadCILFile
  | lcscReaderUploadBLFile
  | dioEvent
  | ksmReaderInit
  | ksmReaderGetStatus
  | ksmReaderEjectToFront
  | ksmReaderCardAllowed
  | ksmReaderCardProhibited
  | ksmReaderCardOnIc
  | ksmReaderIcPowerOn
  | ksmReaderWarmReset
  | ksmReaderSelectFile1
  | ksmReaderSelectFile2
  | ksmReaderReadCardInfo
  | ksmReaderReadCardBalance
  | ksmReaderIcPowerOff
  | ksmReaderCardIn
  | ksmReaderCardOut
  | ksmReaderCardTakeAway
  | ksmReaderCardInfo
  | lprReceive
  | uptCardDetect
  | uptPaymentAuto
  | uptDeviceSettlement
  | uptRetrieveLastSettlement
  | uptDeviceLogon
  | uptDeviceStatus
  | uptDeviceTimeSync
  | uptDeviceTMS
  | uptDeviceReset
  | uptCommandCancel
  | printerStatus
  | barcodeReceived
  | eepClientResponse
  | eepClientConnectionState
  | chuReceived
  | chuClientConnectionState
  deriving DecidableEq, Repr

/-- `OperationEventData` -/
inductive OperationEventData
  | monostate
  | int (value : ℤ)
  | bool (value : Bool)
  | string (text : String)
  deriving DecidableEq, Repr

structure OperationEvent where
  type : OperationEventType
  data : OperationEventData
  deriving DecidableEq, Repr

/-! ## `EventHandler` -/

structure EventRoute where
  operationType : OperationEventType
  payloadType : PayloadType
  deriving DecidableEq, Repr

def eventRoutes : List (String × EventRoute) :=
  [("Evt_AntennaFail", ⟨.antennaFail, .int⟩),
    ("Evt_AntennaPower", ⟨.antennaPower, .bool⟩),
    ("Evt_AntennaIUCome", ⟨.antennaIUCome, .string⟩),
    ("Evt_LcscReaderStatus", ⟨.lcscReaderStatus, .string⟩),
    ("Evt_LcscReaderLogin", ⟨.lcscReaderLogin, .string⟩),
    ("Evt_handleLcscReaderLogout", ⟨.lcscReaderLogout, .string⟩),
    ("Evt_handleLcscReaderGetCardID", ⟨.lcscReaderGetCardID, .string⟩),
    ("Evt_handleLcscReaderGetCardBalance", ⟨.lcscReaderGetCardBalance, .string⟩),
    ("Evt_handleLcscReaderGetCardDeduct", ⟨.lcscReaderGetCardDeduct, .string⟩),
    ("Evt_handleLcscReaderGetCardRecord", ⟨.lcscReaderGetCardRecord, .string⟩),
    ("Evt_handleLcscReaderGetCardFlush", ⟨.lcscReaderGetCardFlush, .string⟩),
    ("Evt_handleLcscReaderGetTime", ⟨.lcscReaderGetTime, .string⟩),
    ("Evt_handleLcscReaderSetTime", ⟨.lcscReaderSetTime, .string⟩),
    ("Evt_handleLcscReaderUploadCFGFile", ⟨.lcscReaderUploadCFGFile, .string⟩),
    ("Evt_handleLcscReaderUploadCILFile", ⟨.lcscReaderUploadCILFile, .string⟩),
    ("Evt_handleLcscReaderUploadBLFile", ⟨.lcscReaderUploadBLFile, .string⟩),
    ("Evt_handleDIOEvent", ⟨.dioEvent, .int⟩),
    ("Evt_handleKSMReaderInit", ⟨.ksmReaderInit, .bool⟩),
    ("Evt_handleKSMReaderGetStatus", ⟨.ksmReaderGetStatus, .bool⟩),
    ("Evt_handleKSMReaderEjectToFront", ⟨.ksmReaderEjectToFront, .bool⟩),
    ("Evt_handleKSMReaderCardAllowed", ⟨.ksmReaderCardAllowed, .bool⟩),
    ("Evt_handleKSMReaderCardProhibited", ⟨.ksmReaderCardProhibited, .bool⟩),
    ("Evt_handleKSMReaderCardOnIc", ⟨.ksmReaderCardOnIc, .bool⟩),
    ("Evt_handleKSMReaderIcPowerOn", ⟨.ksmReaderIcPowerOn, .bool⟩),
    ("Evt_handleKSMReaderWarmReset", ⟨.ksmReaderWarmReset, .bool⟩),
    ("Evt_handleKSMReaderSelectFile1", ⟨.ksmReaderSelectFile1, .bool⟩),
    ("Evt_handleKSMReaderSelectFile2", ⟨.ksmReaderSelectFile2, .bool⟩),
    ("Evt_handleKSMReaderReadCardInfo", ⟨.ksmReaderReadCardInfo, .bool⟩),
    ("Evt_handleKSMReaderReadCardBalance", ⟨.ksmReaderReadCardBalance, .bool⟩),
    ("Evt_handleKSMReaderIcPowerOff", ⟨.ksmReaderIcPowerOff, .bool⟩),
    ("Evt_handleKSMReaderCardIn", ⟨.ksmReaderCardIn, .bool⟩),
    ("Evt_handleKSMReaderCardOut", ⟨.ksmReaderCardOut, .bool⟩),
    ("Evt_handleKSMReaderCardTakeAway", ⟨.ksmReaderCardTakeAway, .bool⟩),
    ("Evt_handleKSMReaderCardInfo", ⟨.ksmReaderCardInfo, .bool⟩),
    ("Evt_handleLPRReceive", ⟨.lprReceive, .string⟩),
    ("Evt_handleUPTCardDetect", ⟨.uptCardDetect, .string⟩),
    ("Evt_handleUPTPaymentAuto", ⟨.uptPaymentAuto, .string⟩),
    ("Evt_handleUPTDeviceSettlement", ⟨.uptDeviceSettlement, .string⟩),
    ("Evt_handleUPTRetrieveLastSettlement", ⟨.uptRetrieveLastSettlement, .string⟩),
    ("Evt_handleUPTDeviceLogon", ⟨.uptDeviceLogon, .string⟩),
    ("Evt_handleUPTDeviceStatus", ⟨.uptDeviceStatus, .string⟩),
    ("Evt_handleUPTDeviceTimeSync", ⟨.uptDeviceTimeSync, .string⟩),
    ("Evt_handleUPTDeviceTMS", ⟨.uptDeviceTMS, .string⟩),
    ("Evt_handleUPTDeviceReset", ⟨.uptDeviceReset, .string⟩),
    ("Evt_handleUPTCommandCancel", ⟨.uptCommandCancel, .string⟩),
    ("Evt_handlePrinterStatus", ⟨.printerStatus, .int⟩),
    ("Evt_handleBarcodeReceived", ⟨.barcodeReceived, .string⟩),
    ("Evt_handleEEPClientResponse", ⟨.eepClientResponse, .string⟩),
    ("Evt_handleEEPClientConnectionState", ⟨.eepClientConnectionState, .bool⟩),
    ("Evt_handleCHUReceived", ⟨.chuReceived, .string⟩),
    ("Evt_handleCHUClientConnectionState", ⟨.chuClientConnectionState, .string⟩)]

/-- `forwardEvent`: the `dynamic_cast` of `forwardTypedEvent`, and the copy of the data -/
def forwardEvent (route : EventRoute) (payload : Payload) : Option OperationEvent :=
  match route.payloadType, payload with
  | .int, .int value => some ⟨route.operationType, .int value⟩
  | .bool, .bool value => some ⟨route.operationType, .bool value⟩
  | .string, .string text => some ⟨route.operationType, .string text⟩
  | _, _ => none

/-- `FnHandleEvents`, up to the call of `FnOnEvent` -/
def route (event : DeviceEvent) : Option OperationEvent :=
  (eventRoutes.lookup event.eventName).bind fun route => forwardEvent route event.payload

/-! ## `handleEventOnIo` -/

inductive KsmFailureAction
  | enableError
  | cardReadError
  deriving DecidableEq, Repr

/-- The handler that is called. -/
inductive Call
  | antennaFail (errorCode : ℤ)
  | antennaPower (poweredOn : Bool)
  | antennaIUCome (iuNo : String)
  | processLCSC (eventData : String)
  /-- nothing but the log -/
  | lcscLogOnly
  | dioEvent (eventValue : ℤ)
  | ksmReaderInit (success : Bool)
  | ksmResult (success : Bool) (description : String) (failureAction : KsmFailureAction)
  | ksmCardIn
  /-- `FnKSMReaderStartGetStatus` -/
  | ksmCardOut
  | ksmCardTakeAway
  | ksmCardInfo
  | lprReceive (eventData : String)
  | processUPT (command : Upt.UptCmd) (eventData : String)
  | printerStatus (status : ℤ)
  | processBarcodeData (barcodeData : String)
  | processEEP (eventData : String)
  | eepConnectionState (connected : Bool)
  | processCHU (eventData : String)
  | chuConnectionState (status : String)
  deriving DecidableEq, Repr

namespace OperationEvent

/-- `getOperationEventData<int>`, and the handler -/
def withInt (event : OperationEvent) (handler : ℤ → Call) : Option Call :=
  match event.data with
  | .int value => some (handler value)
  | _ => none

def withBool (event : OperationEvent) (handler : Bool → Call) : Option Call :=
  match event.data with
  | .bool value => some (handler value)
  | _ => none

def withString (event : OperationEvent) (handler : String → Call) : Option Call :=
  match event.data with
  | .string text => some (handler text)
  | _ => none

/-- `handleKsmResultOnIo` for a command of the KSM reader -/
def ksmResult (event : OperationEvent) (description : String) (failureAction : KsmFailureAction) :
    Option Call :=
  event.withBool fun success => .ksmResult success description failureAction

/-- `handleEventOnIo`; data of the wrong type are logged and dropped. -/
def dispatch (event : OperationEvent) : Option Call :=
  match event.type with
  | .antennaFail => event.withInt .antennaFail
  | .antennaPower => event.withBool .antennaPower
  | .antennaIUCome => event.withString .antennaIUCome
  | .lcscReaderStatus | .lcscReaderGetCardID | .lcscReaderGetCardBalance
  | .lcscReaderGetCardDeduct | .lcscReaderGetCardRecord | .lcscReaderGetCardFlush =>
      event.withString .processLCSC
  | .lcscReaderLogin | .lcscReaderLogout | .lcscReaderGetTime | .lcscReaderSetTime
  | .lcscReaderUploadCFGFile | .lcscReaderUploadCILFile | .lcscReaderUploadBLFile =>
      event.withString fun _ => .lcscLogOnly
  | .dioEvent => event.withInt .dioEvent
  | .ksmReaderInit => event.withBool .ksmReaderInit
  | .ksmReaderGetStatus => event.ksmResult "KSM Reader Get Status" .enableError
  | .ksmReaderEjectToFront => event.ksmResult "KSM Reader Eject To Front" .enableError
  | .ksmReaderCardAllowed => event.ksmResult "KSM Reader Card Allowed" .enableError
  | .ksmReaderCardProhibited => event.ksmResult "KSM Reader Card Prohibited" .enableError
  | .ksmReaderCardOnIc => event.ksmResult "KSM Reader Card On Ic" .cardReadError
  | .ksmReaderIcPowerOn => event.ksmResult "KSM Reader Ic Power On" .cardReadError
  | .ksmReaderWarmReset => event.ksmResult "KSM Reader Warm Reset" .cardReadError
  | .ksmReaderSelectFile1 => event.ksmResult "KSM Reader Select File 1" .cardReadError
  | .ksmReaderSelectFile2 => event.ksmResult "KSM Reader Select File 2" .cardReadError
  | .ksmReaderReadCardInfo => event.ksmResult "KSM Reader Read Card Info" .cardReadError
  | .ksmReaderReadCardBalance => event.ksmResult "KSM Reader Read Card Balance" .cardReadError
  | .ksmReaderIcPowerOff => event.ksmResult "KSM Reader Ic Power Off" .cardReadError
  | .ksmReaderCardIn => event.withBool fun _ => .ksmCardIn
  | .ksmReaderCardOut => event.withBool fun _ => .ksmCardOut
  | .ksmReaderCardTakeAway => event.withBool fun _ => .ksmCardTakeAway
  | .ksmReaderCardInfo => event.withBool fun _ => .ksmCardInfo
  | .lprReceive => event.withString .lprReceive
  | .uptCardDetect => event.withString (.processUPT .cardDetectRequest)
  | .uptPaymentAuto => event.withString (.processUPT .paymentModeAutoRequest)
  | .uptDeviceSettlement => event.withString (.processUPT .deviceSettlementRequest)
  | .uptRetrieveLastSettlement =>
      event.withString (.processUPT .deviceRetrieveLastSettlementRequest)
  | .uptDeviceLogon => event.withString (.processUPT .deviceLogonRequest)
  | .uptDeviceStatus => event.withString (.processUPT .deviceStatusRequest)
  | .uptDeviceTimeSync => event.withString (.processUPT .deviceTimeSyncRequest)
  | .uptDeviceTMS => event.withString (.processUPT .deviceTmsRequest)
  | .uptDeviceReset => event.withString (.processUPT .deviceResetRequest)
  | .uptCommandCancel => event.withString (.processUPT .cancelCommandRequest)
  | .printerStatus => event.withInt .printerStatus
  | .barcodeReceived => event.withString .processBarcodeData
  | .eepClientResponse => event.withString .processEEP
  | .eepClientConnectionState => event.withBool .eepConnectionState
  | .chuReceived => event.withString .processCHU
  | .chuClientConnectionState => event.withString .chuConnectionState

end OperationEvent

/-! ## The table and the handlers agree -/

/-- The type of the data a handler takes -/
def OperationEventType.expects : OperationEventType → PayloadType
  | .antennaFail | .dioEvent | .printerStatus => .int
  | .antennaPower | .eepClientConnectionState | .ksmReaderInit | .ksmReaderGetStatus
  | .ksmReaderEjectToFront | .ksmReaderCardAllowed | .ksmReaderCardProhibited
  | .ksmReaderCardOnIc | .ksmReaderIcPowerOn | .ksmReaderWarmReset | .ksmReaderSelectFile1
  | .ksmReaderSelectFile2 | .ksmReaderReadCardInfo | .ksmReaderReadCardBalance
  | .ksmReaderIcPowerOff | .ksmReaderCardIn | .ksmReaderCardOut | .ksmReaderCardTakeAway
  | .ksmReaderCardInfo => .bool
  | _ => .string

theorem dispatch_int {type : OperationEventType} (htype : type.expects = .int) (value : ℤ) :
    (OperationEvent.dispatch ⟨type, .int value⟩).isSome = true := by
  cases type <;> first | rfl | cases htype

theorem dispatch_bool {type : OperationEventType} (htype : type.expects = .bool) (value : Bool) :
    (OperationEvent.dispatch ⟨type, .bool value⟩).isSome = true := by
  cases type <;> first | rfl | cases htype

theorem dispatch_string {type : OperationEventType} (htype : type.expects = .string)
    (text : String) : (OperationEvent.dispatch ⟨type, .string text⟩).isSome = true := by
  cases type <;> first | rfl | cases htype

theorem expects_of_mem {entry : String × EventRoute} (hmem : entry ∈ eventRoutes) :
    entry.2.operationType.expects = entry.2.payloadType := by
  have hall : ∀ entry ∈ eventRoutes, entry.2.operationType.expects = entry.2.payloadType := by
    decide
  exact hall entry hmem

/-- Whatever passes the table gets to a handler. -/
theorem dispatch_route {event : DeviceEvent} {out : OperationEvent}
    (hroute : route event = some out) : out.dispatch.isSome = true := by
  obtain ⟨name, payload⟩ := event
  unfold route at hroute
  obtain ⟨found, hlookup, hforward⟩ := Option.bind_eq_some_iff.mp hroute
  obtain ⟨front, rest, hsplit, -⟩ := List.lookup_eq_some_iff.mp hlookup
  have hmem : (name, found) ∈ eventRoutes :=
    hsplit ▸ List.mem_append_right front List.mem_cons_self
  have hexpects := expects_of_mem hmem
  obtain ⟨type, kind⟩ := found
  dsimp only at hexpects hforward
  subst hexpects
  unfold forwardEvent at hforward
  dsimp only at hforward
  split at hforward
  next value htype =>
    cases hforward
    exact dispatch_int htype value
  next value htype =>
    cases hforward
    exact dispatch_bool htype value
  next text htype =>
    cases hforward
    exact dispatch_string htype text
  next => cases hforward

end LinuxPBS.Event
