import LinuxPBS.Db.MoveOffline
import LinuxPBS.Library.Machine
import Mathlib.Data.List.Infix

/-!
# Entries learned from broadcasts

The PMS broadcasts every `Entry OK` and `Exit OK` of the car park.  A station writes
them to its local table `Entry_Trans`, the table in which an entry station also keeps
the entries it could not save centrally:

```text
BroadcastSaveTrans, Entry OK   DELETE … WHERE iu_tk_No = '…', then INSERT
BroadcastSaveTrans, Exit OK    UPDATE … SET Status = 3 WHERE iu_tk_no = '…'
SaveExit                       the same UPDATE for the vehicle of the exit
insertentrytrans, no central   INSERT
moveOfflineTransToCentral      uploads every row of the table
```

No statement asks where a row comes from, and neither does the upload.
`broadcasts_spare_own_iff` says which packets, exits and uploads respect the origin of
the rows all the same, in a run of any length.
-/

namespace LinuxPBS.Db

variable {κ : Type*}

/-! ## Two more statements -/

/-- The row an `INSERT` makes in a table whose columns have defaults. -/
def insertedRowOver [DecidableEq κ] (defaults : κ → SqlValue) (columns : Insert κ) (column : κ) :
    SqlValue :=
  match columns.lookup column with
  | some literal => .text literal.value
  | none => defaults column

namespace LocalTable

/-- `UPDATE … SET … WHERE` -/
def update (table : LocalTable κ) (matching : (κ → SqlValue) → Bool)
    (change : (κ → SqlValue) → κ → SqlValue) : LocalTable κ where
  rows := table.rows.map fun row =>
    if matching row.values then { row with values := change row.values } else row
  nextId := table.nextId
  id_lt row hrow := by
    obtain ⟨old, hold, rfl⟩ := List.mem_map.mp hrow
    have hlt := table.id_lt old hold
    split <;> exact hlt
  nodup := by
    have hids : LocalRow.id ∘ (fun row : LocalRow κ => if matching row.values then
        { row with values := change row.values } else row) = LocalRow.id := by
      funext row
      rw [Function.comp_apply]
      split <;> rfl
    rw [List.map_map, hids]
    exact table.nodup

/-- A row stays as it is in an `UPDATE` exactly if it does not match or has the new
values already. -/
theorem mem_update_iff {table : LocalTable κ} {matching : (κ → SqlValue) → Bool}
    {change : (κ → SqlValue) → κ → SqlValue} {row : LocalRow κ} (hrow : row ∈ table.rows) :
    row ∈ (table.update matching change).rows ↔
      (matching row.values = true → change row.values = row.values) := by
  constructor
  · intro hafter hmatching
    obtain ⟨old, hold, heq⟩ := List.mem_map.mp hafter
    have hid : old.id = row.id := by
      rw [← heq]
      split <;> rfl
    -- the keys are distinct, so it is the same row that was changed
    obtain rfl := eq_of_id_eq hold hrow hid
    rw [if_pos hmatching] at heq
    exact congrArg LocalRow.values heq
  · intro hsame
    refine List.mem_map.mpr ⟨row, hrow, ?_⟩
    split
    · rename_i hmatching
      rw [hsame hmatching]
    · rfl

end LocalTable

/-! ## `insertbroadcasttrans` and `UpdateLocalEntry` -/

/-- The defaults of `Entry_Trans` in `createLocalDB_linuxpbs.sql`. -/
def entryDefaults : EntryColumn → SqlValue
  | .stationId | .transType | .tkSerialNo | .status | .cardType => .text "0"
  | .paidAmt | .parkingFee | .gstAmt => .text "0.00"
  | .entryTime | .iuTkNo | .cardNo | .lpn | .entryLpnSid | .vcc => .null

/-- The `INSERT INTO Entry_Trans` of `insertbroadcasttrans`. -/
def broadcastInsert (sid dateTime iuNo iType cardNo paidAmt : String) : Insert EntryColumn :=
  [(.stationId, .quoted sid),
    (.entryTime, .quoted dateTime),
    (.iuTkNo, .quoted iuNo),
    (.transType, .quoted iType),
    (.cardNo, .quoted cardNo),
    (.paidAmt, .quoted paidAmt)]

/-- The condition `iu_tk_no = '…'`. -/
def isVehicle (types : ColumnTypes EntryColumn) (iuNo : String) (values : EntryColumn → SqlValue) :
    Bool :=
  types.isEqual values .iuTkNo iuNo

/-- The outcomes of the statements a broadcast leads to. -/
structure BroadcastAnswers where
  delete : SqlOutcome
  insert : SqlOutcome
  update : SqlOutcome
  deriving DecidableEq, Repr

/-- `insertbroadcasttrans`; nobody looks at the result of the `DELETE`. -/
def insertbroadcasttrans (types : ColumnTypes EntryColumn) (answers : BroadcastAnswers)
    (dateTime sid iuNo cardNo paidAmt iType : String) (table : LocalTable EntryColumn) :
    LocalTable EntryColumn × DBError :=
  let deleted := answers.delete.apply (fun table => table.delete (isVehicle types iuNo)) table
  let row := insertedRowOver entryDefaults (broadcastInsert sid dateTime iuNo iType cardNo paidAmt)
  (answers.insert.apply (fun table => table.insert row) deleted,
    if answers.insert.code ≠ 0 then .iLocalFail else .iDBSuccess)

/-- `SET Status = 3` -/
def closedEntry (values : EntryColumn → SqlValue) : EntryColumn → SqlValue :=
  Function.update values .status (.text "3")

/-- `UpdateLocalEntry` -/
def updateLocalEntry (types : ColumnTypes EntryColumn) (update : SqlOutcome) (iuTkNo : String)
    (table : LocalTable EntryColumn) : LocalTable EntryColumn × DBError :=
  (update.apply (fun table => table.update (isVehicle types iuTkNo) closedEntry) table,
    if update.code ≠ 0 then .iLocalFail else .iDBSuccess)

/-! ## The packet -/

/-- `ParseData::Field` -/
def field (fields : List String) (number : ℕ) : String := fields.getD number ""

/-- `find` of a text returns something else than `npos`. -/
def finds (text part : String) : Bool := decide (part.toList <:+: text.toList)

/-- `splitUdpCsv` -/
def splitUdpCsv (text : String) : List String := (text.toList.splitOn ',').map String.ofList

/-- The case `BroadcastSaveTrans` of `processPmsUdpPacketOnIo`. -/
def broadcastSaveTrans (types : ColumnTypes EntryColumn) (zoneEntries dateTime : String)
    (answers : BroadcastAnswers) (fields : List String) (table : LocalTable EntryColumn) :
    LocalTable EntryColumn :=
  let fieldData := field fields 3
  if finds fieldData "Entry OK" then
    let stationId := "," ++ field fields 1 ++ ","
    if finds zoneEntries stationId then
      match splitUdpCsv fieldData with
      | [] => table
      | iuNo :: _ =>
          (insertbroadcasttrans types answers dateTime (field fields 1) iuNo "" "0.00" "1" table).1
    else table
  else if finds fieldData "Exit OK" then
    match splitUdpCsv fieldData with
    | [] => table
    | iuNo :: _ => (updateLocalEntry types answers.update iuNo table).1
  else table

/-- An `Entry OK` of a station of the zone. -/
def EntryBroadcast (zoneEntries : String) (fields : List String) : Prop :=
  finds (field fields 3) "Entry OK" = true ∧
    finds zoneEntries ("," ++ field fields 1 ++ ",") = true

/-- An `Exit OK`, of any station. -/
def ExitBroadcast (fields : List String) : Prop :=
  finds (field fields 3) "Entry OK" = false ∧ finds (field fields 3) "Exit OK" = true

instance (zoneEntries : String) (fields : List String) :
    Decidable (EntryBroadcast zoneEntries fields) := inferInstanceAs (Decidable (_ ∧ _))

instance (fields : List String) : Decidable (ExitBroadcast fields) :=
  inferInstanceAs (Decidable (_ ∧ _))

theorem EntryBroadcast.not_exit {zoneEntries : String} {fields : List String}
    (hentry : EntryBroadcast zoneEntries fields) : ¬ExitBroadcast fields :=
  fun hexit => absurd hentry.1 (by simp [hexit.1])

/-- The IU a packet names. -/
def vehicleOf (fields : List String) : String := (splitUdpCsv (field fields 3)).headD ""

/-- There is always a first field. -/
theorem splitUdpCsv_cons (text : String) : ∃ first rest, splitUdpCsv text = first :: rest := by
  have hne : splitUdpCsv text ≠ [] := by
    unfold splitUdpCsv
    rw [Ne, List.map_eq_nil_iff]
    exact List.splitOn_ne_nil ',' text.toList
  exact List.exists_cons_of_ne_nil hne

/-- A packet leads to one of the two functions or to nothing. -/
theorem broadcastSaveTrans_eq (types : ColumnTypes EntryColumn) (zoneEntries dateTime : String)
    (answers : BroadcastAnswers) (fields : List String) (table : LocalTable EntryColumn) :
    broadcastSaveTrans types zoneEntries dateTime answers fields table =
      if EntryBroadcast zoneEntries fields then
        (insertbroadcasttrans types answers dateTime (field fields 1) (vehicleOf fields) "" "0.00"
          "1" table).1
      else if ExitBroadcast fields then
        (updateLocalEntry types answers.update (vehicleOf fields) table).1
      else table := by
  obtain ⟨iuNo, rest, hsplit⟩ := splitUdpCsv_cons (field fields 3)
  simp only [broadcastSaveTrans, vehicleOf, hsplit, List.headD_cons]
  by_cases hfinds : finds (field fields 3) "Entry OK" = true
  · have hexit : ¬ExitBroadcast fields := fun hexit => absurd hexit.1 (by simp [hfinds])
    by_cases hzone : finds zoneEntries ("," ++ field fields 1 ++ ",") = true
    · simp [EntryBroadcast, hfinds, hzone]
    · simp [EntryBroadcast, hfinds, hzone, hexit]
  · simp [EntryBroadcast, ExitBroadcast, hfinds]

end LinuxPBS.Db
