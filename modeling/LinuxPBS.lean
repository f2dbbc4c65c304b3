import LinuxPBS.Antenna.RoundTrip
import LinuxPBS.Db.Odbc
import LinuxPBS.Db.Trans
import LinuxPBS.Db.InsertTrans
import LinuxPBS.Db.MoveOffline
import LinuxPBS.Db.OfflineOnline
import LinuxPBS.Library.Loop
import LinuxPBS.Tariff.CeTime
import LinuxPBS.Tariff.Table
import LinuxPBS.Tariff.CalFee
import LinuxPBS.Tariff.Turn
import LinuxPBS.Tariff.Termination
import LinuxPBS.Tariff.DailyCap
import LinuxPBS.Tariff.Amounts
import LinuxPBS.Tariff.BlockCharges
import LinuxPBS.Tariff.ZonePair
import LinuxPBS.Tariff.Monotone
import LinuxPBS.Common
import LinuxPBS.Library.Handler
import LinuxPBS.Operation.Station
import LinuxPBS.Operation.Barrier
import LinuxPBS.Operation.Save
import LinuxPBS.Operation.Fee
import LinuxPBS.Operation.Vehicle
import LinuxPBS.Operation.Devices
import LinuxPBS.Operation.Events
import LinuxPBS.Antenna.Confirm
import LinuxPBS.Db.HouseKeeping
import LinuxPBS.Db.Reload
import LinuxPBS.Operation.Redeem
import LinuxPBS.Operation.Lane
import LinuxPBS.Operation.Walk
import LinuxPBS.Operation.WalkDevices
import LinuxPBS.Operation.PaidAmount
import LinuxPBS.Operation.Closing
import LinuxPBS.Operation.LateAnswer
import LinuxPBS.Operation.TariffError
import LinuxPBS.CommonVector
import LinuxPBS.Upt.Framing
import LinuxPBS.Upt.Message
import LinuxPBS.Upt.RoundTrip
import LinuxPBS.Upt.Command
import LinuxPBS.Eep.Frame
import LinuxPBS.Eep.RoundTrip
import LinuxPBS.Eep.Client
import LinuxPBS.Eep.Chunks
import LinuxPBS.Db.Season
import LinuxPBS.Upt.Payment
import LinuxPBS.Operation.UptPayment
import LinuxPBS.Antenna.Exchange
import LinuxPBS.Eep.OneOutcome
import LinuxPBS.Upt.Client
import LinuxPBS.Upt.Writing
import LinuxPBS.Upt.Moves
import LinuxPBS.Upt.WireSound
import LinuxPBS.Upt.OneEvent
import LinuxPBS.Ksm.Frame
import LinuxPBS.Lcsc.Packet
import LinuxPBS.Lcsc.Command
import LinuxPBS.Lcsc.RoundTrip
import LinuxPBS.Lcsc.Client
import LinuxPBS.Lcsc.Orderly
import LinuxPBS.Lcsc.Between
import LinuxPBS.Lcsc.Deductions
import LinuxPBS.Lcsc.Uploads
import LinuxPBS.Eep.Deduction
import LinuxPBS.Eep.Transport
import LinuxPBS.Operation.Underway
import LinuxPBS.Library.Binary32
import LinuxPBS.Operation.Admission
import LinuxPBS.Operation.Cents
import LinuxPBS.Db.Movement
import LinuxPBS.Operation.Remembered
import LinuxPBS.Chu.Framing
import LinuxPBS.Db.Broadcast
import LinuxPBS.Db.EepPayments
import LinuxPBS.Db.Plates
import LinuxPBS.Operation.ChuAnswer
import LinuxPBS.Operation.EepPayments
import LinuxPBS.Operation.EntryLookup
import LinuxPBS.Operation.MemberRecord
import LinuxPBS.Operation.Tickets
import LinuxPBS.Operation.Unresolved
import LinuxPBS.Tariff.Accesses
import LinuxPBS.Tariff.ShortSteps
import LinuxPBS.Tariff.TypePeriods
import LinuxPBS.Tcp.AppTcpClient
import LinuxPBS.Tcp.InOrder
import LinuxPBS.Antenna.Buffer
import LinuxPBS.Db.BadRows
import LinuxPBS.Db.SeasonDownload
import LinuxPBS.Db.TariffIndex
import LinuxPBS.Db.XTariff
import LinuxPBS.Eep.ShortBody
import LinuxPBS.Operation.ChuText
import LinuxPBS.Operation.XTariff
import LinuxPBS.Upt.Accepts
import LinuxPBS.Upt.Sequence
import LinuxPBS.Upt.Settlement
import LinuxPBS.CommonBinary
import LinuxPBS.Eep.Settlement
import LinuxPBS.Ksm.Answers
import LinuxPBS.Lcsc.Settlement
import LinuxPBS.Lcsc.ShortPayload
import LinuxPBS.Operation.ManualOpen
import LinuxPBS.Operation.ObuLabel
import LinuxPBS.Lcsc.Moves
import LinuxPBS.Lcsc.OneCleanup
import LinuxPBS.Lcsc.Polls
import LinuxPBS.Dio.Loops
import LinuxPBS.Library.Crc
import LinuxPBS.Library.Gregorian
import LinuxPBS.Library.Timestamp
import LinuxPBS.Lpr.Frames
import LinuxPBS.Operation.SeasonFee
import LinuxPBS.Tariff.Calendar
import LinuxPBS.Upt.Crc32
import LinuxPBS.Barcode.Keyboard
import LinuxPBS.Barcode.Reader
import LinuxPBS.Chu.Connection
import LinuxPBS.Db.Downloads
import LinuxPBS.Dio.Alarm
import LinuxPBS.Eep.Transfer
import LinuxPBS.Event.Delivery
import LinuxPBS.Upt.Progress
