import LinuxPBS.Db.Broadcast
import LinuxPBS.Library.Machine
import LinuxPBS.Operation.Fee
import Mathlib.Data.List.Sort
import Mathlib.Data.String.Basic

/-!
# Looking up an entry locally

When the central database gives no open movement, `FetchEntryinfo` asks the local table
`Entry_Trans`, which an exit station fills from the broadcasts of the zone:

```text
Entry OK             delete the rows of the vehicle, insert one with status 0
Exit OK              status 3 for the rows of the vehicle
SaveExit             status 3 for the rows of the vehicle
UpdateExit           nothing: the call of UpdateLocalEntry is commented out
FetchEntryinfo       the latest row of the vehicle with status 0
```

What the table should say is `openEntry`, the latest entry of the vehicle in the history
of what the station has heard and done, unless an exit followed.  `Agrees` is the
invariant that the two are the same, and `lookup_finds` the consequence: it holds as long
as no statement that is needed fails and no exit is saved by `UpdateExit` for a vehicle
with an open row.  `lookup_finds_noon` is one such run, `not_lookup_finds` one in which
`UpdateExit` leaves the row open.
-/

namespace LinuxPBS.Operation

open CxxText Db

/-! ## The query -/

/-- The return code of `FetchEntryinfo`. -/
def fetchEntryinfoCode (answer : EntryAnswer) : ℤ :=
  match answer.central with
  | some (some row) => if (takeEntryRow row {}).isSome then 0 else -1
  | _ =>
      match answer.localdb with
      | none => -1
      | some none => 3
      | some (some row) => if (takeEntryRow row {}).isSome then 0 else -1

/-- What the local database does with `Entry_Trans`: its column types, the text of the
column `Owe_Amt`, which no statement writes, and `ORDER BY entry_time DESC`. -/
structure EntryQuery where
  types : ColumnTypes EntryColumn
  oweAmt : String
  before : SqlValue → SqlValue → Prop
  byTimeDesc : List (LocalRow EntryColumn) → List (LocalRow EntryColumn)
  perm : ∀ rows, (byTimeDesc rows).Perm rows
  sorted : ∀ rows, (byTimeDesc rows).Pairwise fun first second =>
    ¬before (first.values .entryTime) (second.values .entryTime)

namespace EntryQuery

variable (query : EntryQuery)

/-- `WHERE Status = 0 AND iu_tk_no = '…'` -/
def isOpen (iuNo : String) (values : EntryColumn → SqlValue) : Bool :=
  query.types.isEqual values .status "0" && isVehicle query.types iuNo values

/-- The open rows of a vehicle. -/
def openRows (table : LocalTable EntryColumn) (iuNo : String) : List (LocalRow EntryColumn) :=
  table.rows.filter fun row => query.isOpen iuNo row.values

/-- A selected row. -/
def entryRowOf (values : EntryColumn → SqlValue) : EntryRow where
  entryTime := query.types.getDataItem values .entryTime
  transType := query.types.getDataItem values .transType
  oweAmt := query.oweAmt
  entryStation := query.types.getDataItem values .stationId

/-- The first row of the answer to the local `SELECT`. -/
def select (table : LocalTable EntryColumn) (iuNo : String) : Option EntryRow :=
  (query.byTimeDesc (query.openRows table iuNo)).head?.map fun row => query.entryRowOf row.values

end EntryQuery

/-! ## The history -/

/-- What a station has heard of the vehicles of the zone, and its own exits. -/
inductive Heard
  | entry (iuNo entryTime sid : String)
  | exit (iuNo : String)
  deriving DecidableEq

/-- An entry as a broadcast reports it. -/
structure HeardEntry where
  iuNo : String
  entryTime : String
  sid : String
  deriving DecidableEq

namespace EntryQuery

variable (query : EntryQuery)

/-- The two texts are the same number for the column `iu_tk_no`. -/
def SameVehicle (stored iuNo : String) : Prop := query.types.equal .iuTkNo stored iuNo = true

instance (stored iuNo : String) : Decidable (query.SameVehicle stored iuNo) :=
  inferInstanceAs (Decidable (_ = _))

/-- The latest entry of a vehicle that no exit has followed; the history begins with what
was heard last. -/
def openEntry (iuNo : String) : List Heard → Option HeardEntry
  | [] => none
  | .entry stored entryTime sid :: rest =>
      if query.SameVehicle stored iuNo then some ⟨stored, entryTime, sid⟩
      else openEntry iuNo rest
  | .exit stored :: rest =>
      if query.SameVehicle stored iuNo then none else openEntry iuNo rest

/-- The row of an entry as `insertbroadcasttrans` stores it. -/
def heardRow (entry : HeardEntry) : EntryColumn → SqlValue :=
  insertedRowOver entryDefaults
    (broadcastInsert entry.sid entry.entryTime entry.iuNo "1" "" "0.00")

end EntryQuery

/-! ## Steps -/

/-- The local table of an exit station, with the history. -/
structure Replica where
  table : LocalTable EntryColumn
  heard : List Heard

/-- Before anything was heard. -/
def Replica.start : Replica := ⟨.empty, []⟩

/-- What changes the table or the history at an exit station. -/
inductive ReplicaEvent
  | broadcast (zoneEntries dateTime : String) (answers : BroadcastAnswers) (fields : List String)
  /-- `SaveExit` with the number `tExit.sIUNo` -/
  | saveExit (update : SqlOutcome) (iuNo : String)
  /-- `UpdateExit` with the number `tExit1.sIUNo` -/
  | updateExit (iuNo : String)

namespace Replica

variable (query : EntryQuery)

/-- One event. -/
def step (replica : Replica) : ReplicaEvent → Replica
  | .broadcast zoneEntries dateTime answers fields =>
      { table := broadcastSaveTrans query.types zoneEntries dateTime answers fields replica.table
        heard :=
          if EntryBroadcast zoneEntries fields then
            .entry (vehicleOf fields) dateTime (field fields 1) :: replica.heard
          else if ExitBroadcast fields then .exit (vehicleOf fields) :: replica.heard
          else replica.heard }
  | .saveExit update iuNo =>
      if iuNo = "" then replica
      else
        { table := (updateLocalEntry query.types update iuNo replica.table).1
          heard := .exit iuNo :: replica.heard }
  | .updateExit iuNo =>
      if iuNo = "" then replica else { replica with heard := .exit iuNo :: replica.heard }

/-- The table shows every vehicle as the history has it: no open row, or the row of the
latest entry and only earlier ones. -/
def AgreesOn (rows : List (LocalRow EntryColumn)) : Option HeardEntry → Prop
  | none => rows = []
  | some entry => ∃ row ∈ rows, row.values = EntryQuery.heardRow entry ∧
      ∀ other ∈ rows, other = row ∨
        query.before (other.values .entryTime) (row.values .entryTime)

/-- The open rows of every vehicle are what the history says. -/
def Agrees (replica : Replica) : Prop :=
  ∀ iuNo, AgreesOn query (query.openRows replica.table iuNo) (query.openEntry iuNo replica.heard)

/-- Every statement that is needed is executed: an entry is inserted, and the rows it
replaces are deleted or earlier; an exit closes the open rows, if there are any. -/
def Applied (replica : Replica) : ReplicaEvent → Prop
  | .broadcast zoneEntries dateTime answers fields =>
      (EntryBroadcast zoneEntries fields →
          answers.insert.Executed ∧
            (answers.delete.Executed ∨
              ∀ row ∈ query.openRows replica.table (vehicleOf fields),
                query.before (row.values .entryTime) (.text dateTime))) ∧
        (ExitBroadcast fields →
          answers.update.Executed ∨ query.openRows replica.table (vehicleOf fields) = [])
  | .saveExit update iuNo =>
      iuNo = "" ∨ update.Executed ∨ query.openRows replica.table iuNo = []
  | .updateExit iuNo => iuNo = "" ∨ query.openRows replica.table iuNo = []

end Replica

/-! ## The columns of the table -/

/-- What the proofs ask of the column types: `iu_tk_no` compares numbers of vehicles, and
the integers `0` and `3` are themselves. -/
structure PlainColumns (query : EntryQuery) : Prop where
  vehicle : Equivalence query.SameVehicle
  opened : query.types.equal .status "0" "0" = true
  closed : query.types.equal .status "3" "0" = false

namespace EntryQuery

variable {query : EntryQuery} {table : LocalTable EntryColumn} {iuNo other : String}
  {values : EntryColumn → SqlValue}

theorem isVehicle_iff :
    isVehicle query.types iuNo values = true ↔
      ∃ stored, values .iuTkNo = .text stored ∧ query.SameVehicle stored iuNo := by
  unfold isVehicle ColumnTypes.isEqual SameVehicle
  cases values .iuTkNo with
  | null => simp
  | text stored => simp

/-- Two numbers of one vehicle select the same rows, -/
theorem isVehicle_congr (hplain : PlainColumns query) (hsame : query.SameVehicle iuNo other) :
    isVehicle query.types iuNo values = isVehicle query.types other values := by
  rw [Bool.eq_iff_iff, isVehicle_iff, isVehicle_iff]
  constructor
  · rintro ⟨stored, htext, hstored⟩
    exact ⟨stored, htext, hplain.vehicle.trans hstored hsame⟩
  · rintro ⟨stored, htext, hstored⟩
    exact ⟨stored, htext, hplain.vehicle.trans hstored (hplain.vehicle.symm hsame)⟩

/-- and numbers of different ones no common row. -/
theorem isVehicle_of_other (hplain : PlainColumns query) (hother : ¬query.SameVehicle iuNo other)
    (hvehicle : isVehicle query.types iuNo values = true) :
    isVehicle query.types other values = false := by
  obtain ⟨stored, htext, hstored⟩ := isVehicle_iff.mp hvehicle
  by_contra hfound
  obtain ⟨stored', htext', hstored'⟩ := isVehicle_iff.mp (Bool.not_eq_false _ ▸ hfound)
  obtain rfl : stored = stored' := SqlValue.text.inj (htext.symm.trans htext')
  exact hother (hplain.vehicle.trans (hplain.vehicle.symm hstored) hstored')

theorem openRows_congr (hplain : PlainColumns query) (hsame : query.SameVehicle iuNo other) :
    query.openRows table iuNo = query.openRows table other := by
  unfold openRows isOpen
  simp only [isVehicle_congr hplain hsame]

/-- An `INSERT` adds its row to the open ones of its vehicle. -/
theorem openRows_insert :
    query.openRows (table.insert values) iuNo = query.openRows table iuNo ++
      if query.isOpen iuNo values then [⟨table.nextId, values⟩] else [] := by
  unfold openRows LocalTable.insert
  rw [List.filter_append, List.filter_singleton, Bool.cond_eq_ite]

/-- The `DELETE` of an entry takes the open rows of its vehicle, -/
theorem openRows_delete (hplain : PlainColumns query) :
    query.openRows (table.delete (isVehicle query.types iuNo)) other =
      if query.SameVehicle iuNo other then [] else query.openRows table other := by
  unfold openRows LocalTable.delete
  simp only [List.filter_filter]
  split
  · rename_i hsame
    refine List.filter_eq_nil_iff.mpr fun row _ => ?_
    unfold isOpen
    rw [isVehicle_congr hplain hsame]
    cases isVehicle query.types other row.values <;> simp
  · rename_i hother
    refine List.filter_congr fun row _ => ?_
    unfold isOpen
    cases hvehicle : isVehicle query.types iuNo row.values with
    | true => simp [isVehicle_of_other hplain hother hvehicle]
    | false => simp

/-- Where the changed elements are not selected, neither before nor after, the selected
ones stay. -/
theorem filter_map_of_fixed {α : Type*} {change : α → α} {selected : α → Bool} {rows : List α}
    (hsame : ∀ row, selected (change row) = selected row)
    (hfixed : ∀ row, selected row = true → change row = row) :
    (rows.map change).filter selected = rows.filter selected := by
  induction rows with
  | nil => rfl
  | cons row rest ih =>
      rw [List.map_cons, List.filter_cons, List.filter_cons, ih, hsame]
      split
      · rename_i hselected
        rw [hfixed row hselected]
      · rfl

/-- and so does the `UPDATE` of an exit. -/
theorem openRows_update (hplain : PlainColumns query) :
    query.openRows (table.update (isVehicle query.types iuNo) closedEntry) other =
      if query.SameVehicle iuNo other then [] else query.openRows table other := by
  have hclosed (values : EntryColumn → SqlValue) :
      query.isOpen other (closedEntry values) = false := by
    simp [isOpen, ColumnTypes.isEqual, closedEntry, hplain.closed]
  unfold openRows LocalTable.update
  split
  · rename_i hsame
    rw [List.filter_eq_nil_iff]
    intro row hrow
    obtain ⟨old, -, rfl⟩ := List.mem_map.mp hrow
    split
    · simp [hclosed old.values]
    · rename_i hvehicle
      unfold isOpen
      rw [← isVehicle_congr hplain hsame]
      simp [hvehicle]
  · rename_i hother
    have hopen (values : EntryColumn → SqlValue)
        (hvehicle : isVehicle query.types iuNo values = true) :
        query.isOpen other values = false := by
      simp [isOpen, isVehicle_of_other hplain hother hvehicle]
    refine filter_map_of_fixed (fun row => ?_) (fun row hrow => ?_)
    · split
      · rename_i hvehicle
        rw [hopen row.values hvehicle]
        exact hclosed row.values
      · rfl
    · refine if_neg fun hvehicle => ?_
      rw [hopen row.values hvehicle] at hrow
      exact absurd hrow (by decide)

/-- The row of an entry is an open row of its vehicle. -/
theorem isOpen_heardRow (hplain : PlainColumns query) (entry : HeardEntry) :
    query.isOpen iuNo (heardRow entry) = decide (query.SameVehicle entry.iuNo iuNo) := by
  have hstatus : heardRow entry .status = .text "0" := rfl
  have hvehicle : heardRow entry .iuTkNo = .text entry.iuNo := rfl
  rw [Bool.eq_iff_iff]
  unfold isOpen isVehicle ColumnTypes.isEqual SameVehicle
  simp only [hstatus, hvehicle, hplain.opened, Bool.true_and]
  exact decide_eq_true_iff.symm

end EntryQuery

/-! ## The table agrees with the history -/

namespace Replica

variable {query : EntryQuery} {replica : Replica}

/-- An entry of the vehicle, after rows that are all earlier. -/
theorem agreesOn_entry {rows : List (LocalRow EntryColumn)} {row : LocalRow EntryColumn}
    {entry : HeardEntry} (hrow : row.values = EntryQuery.heardRow entry)
    (hearlier : ∀ other ∈ rows,
      query.before (other.values .entryTime) (row.values .entryTime)) :
    AgreesOn query (rows ++ [row]) (some entry) := by
  refine ⟨row, List.mem_append_right _ (List.mem_singleton.mpr rfl), hrow, fun other hother => ?_⟩
  rcases List.mem_append.mp hother with hold | hnew
  · exact Or.inr (hearlier other hold)
  · exact Or.inl (List.mem_singleton.mp hnew)

/-- An `UPDATE` that is executed, or has nothing to do, follows an exit. -/
theorem Agrees.exit (hplain : PlainColumns query) (hagrees : replica.Agrees query)
    {update : SqlOutcome} {iuNo : String}
    (happlied : update.Executed ∨ query.openRows replica.table iuNo = []) :
    Agrees query ⟨(updateLocalEntry query.types update iuNo replica.table).1,
      .exit iuNo :: replica.heard⟩ := by
  intro other
  have hrows : query.openRows (updateLocalEntry query.types update iuNo replica.table).1 other =
      if query.SameVehicle iuNo other then [] else query.openRows replica.table other := by
    unfold updateLocalEntry
    by_cases hexecuted : update.Executed
    · simp only [SqlOutcome.apply_of_executed hexecuted]
      exact EntryQuery.openRows_update hplain
    · simp only [SqlOutcome.apply_of_not_executed hexecuted]
      have hnone := happlied.resolve_left hexecuted
      split
      · rename_i hsame
        rw [← EntryQuery.openRows_congr hplain hsame]
        exact hnone
      · rfl
  rw [hrows]
  unfold EntryQuery.openEntry
  split
  · exact rfl
  · exact hagrees other

/-- The rows after an accepted `Entry OK`. -/
theorem Agrees.entry (hplain : PlainColumns query) (hagrees : replica.Agrees query)
    {answers : BroadcastAnswers} {dateTime sid iuNo : String} (hinsert : answers.insert.Executed)
    (hdelete : answers.delete.Executed ∨ ∀ row ∈ query.openRows replica.table iuNo,
      query.before (row.values .entryTime) (.text dateTime)) :
    Agrees query ⟨(insertbroadcasttrans query.types answers dateTime sid iuNo "" "0.00" "1"
      replica.table).1, .entry iuNo dateTime sid :: replica.heard⟩ := by
  intro other
  unfold insertbroadcasttrans EntryQuery.openEntry
  simp only [SqlOutcome.apply_of_executed hinsert]
  rw [EntryQuery.openRows_insert]
  change AgreesOn query (_ ++ if query.isOpen other (EntryQuery.heardRow ⟨iuNo, dateTime, sid⟩)
    then _ else []) _
  simp only [EntryQuery.isOpen_heardRow hplain, decide_eq_true_eq]
  by_cases hsame : query.SameVehicle iuNo other
  · rw [if_pos hsame, if_pos hsame]
    refine agreesOn_entry rfl fun row hrow => ?_
    by_cases hexecuted : answers.delete.Executed
    · rw [SqlOutcome.apply_of_executed hexecuted, EntryQuery.openRows_delete hplain,
        if_pos hsame] at hrow
      exact absurd hrow List.not_mem_nil
    · rw [SqlOutcome.apply_of_not_executed hexecuted,
        ← EntryQuery.openRows_congr hplain hsame] at hrow
      exact hdelete.resolve_left hexecuted row hrow
  · rw [if_neg hsame, if_neg hsame, List.append_nil]
    have hrows : query.openRows (answers.delete.apply
        (fun table => table.delete (isVehicle query.types iuNo)) replica.table) other =
          query.openRows replica.table other := by
      unfold SqlOutcome.apply
      split
      · rw [EntryQuery.openRows_delete hplain, if_neg hsame]
      · rfl
    rw [hrows]
    exact hagrees other

/-- Every event keeps the table and the history in step if its statements are applied. -/
theorem Agrees.step (hplain : PlainColumns query) (hagrees : replica.Agrees query)
    (event : ReplicaEvent) (happlied : replica.Applied query event) :
    Agrees query (replica.step query event) := by
  cases event with
  | broadcast zoneEntries dateTime answers fields =>
      simp only [Replica.step, broadcastSaveTrans_eq]
      by_cases hentry : EntryBroadcast zoneEntries fields
      · obtain ⟨hinsert, hdelete⟩ := happlied.1 hentry
        rw [if_pos hentry, if_pos hentry]
        exact hagrees.entry hplain hinsert hdelete
      · rw [if_neg hentry, if_neg hentry]
        by_cases hexit : ExitBroadcast fields
        · rw [if_pos hexit, if_pos hexit]
          exact hagrees.exit hplain (happlied.2 hexit)
        · rw [if_neg hexit, if_neg hexit]
          exact hagrees
  | saveExit update iuNo =>
      simp only [Replica.step]
      split
      · exact hagrees
      · rename_i hnamed
        exact hagrees.exit hplain (happlied.resolve_left hnamed)
  | updateExit iuNo =>
      simp only [Replica.step]
      split
      · exact hagrees
      · rename_i hnamed
        -- `UpdateExit` is an exit whose `UPDATE` is not executed
        have hexit : Agrees query ⟨(updateLocalEntry query.types .failed iuNo replica.table).1,
            .exit iuNo :: replica.heard⟩ :=
          hagrees.exit hplain (Or.inr (happlied.resolve_left hnamed))
        exact hexit

theorem agrees_start : Agrees query start := fun _ => rfl

/-- The table and the history agree after every run whose statements are applied. -/
theorem agrees_run (hplain : PlainColumns query) {events : List ReplicaEvent}
    (happlied : Machine.Meets (step query) (Applied query) start events) :
    Agrees query (Machine.run (step query) start events) :=
  Machine.run_invariant (fun _ event hagrees happlied => hagrees.step hplain event happlied)
    agrees_start happlied

end Replica

/-! ## What the lookup finds -/

namespace EntryQuery

variable {query : EntryQuery} {table : LocalTable EntryColumn} {iuNo : String}

/-- `ORDER BY entry_time DESC` puts the row first that all others are earlier than. -/
theorem select_of_agreesOn {found : Option HeardEntry}
    (hagrees : Replica.AgreesOn query (query.openRows table iuNo) found) :
    query.select table iuNo = found.map fun entry => query.entryRowOf (heardRow entry) := by
  have hperm := query.perm (query.openRows table iuNo)
  unfold select
  cases found with
  | none =>
      have hempty : query.openRows table iuNo = [] := hagrees
      rw [hempty] at hperm ⊢
      rw [hperm.eq_nil]
      rfl
  | some entry =>
      obtain ⟨row, hrow, hvalues, hlatest⟩ := hagrees
      have hsorted := query.sorted (query.openRows table iuNo)
      obtain ⟨first, rest, hselected⟩ :=
        List.exists_cons_of_ne_nil (List.ne_nil_of_mem (hperm.mem_iff.mpr hrow))
      rw [hselected] at hperm hsorted ⊢
      -- nothing behind the first row is later than it
      have hfirst : first = row := by
        rcases hlatest first (hperm.mem_iff.mp List.mem_cons_self) with hsame | hearlier
        · exact hsame
        · rcases List.mem_cons.mp (hperm.mem_iff.mpr hrow) with hsame | hrest
          · exact hsame.symm
          · exact absurd hearlier ((List.pairwise_cons.mp hsorted).1 row hrest)
      rw [hfirst, List.head?_cons, Option.map_some, Option.map_some, hvalues]

end EntryQuery

/-- `FetchEntryinfo`: the code it returns and `tExit` as it leaves it. -/
def lookup (answer : EntryAnswer) (tExit : TExit) : ℤ × TExit :=
  (fetchEntryinfoCode answer, fetchEntryinfo answer tExit)

/-- The central query fails, or finds no open movement. -/
def NoneCentral (central : Option (Option EntryRow)) : Prop := central = none ∨ central = some none

/-- The lookup of a selected row: it is taken over, or `-1` if it cannot be read. -/
def takenRow (row : EntryRow) (tExit : TExit) : ℤ × TExit :=
  match takeEntryRow row tExit with
  | some updated => (0, updated)
  | none => (-1, tExit)

/-- What the lookup should give: the latest entry that no exit has followed, if its columns
can be read. -/
def expected (query : EntryQuery) (found : Option HeardEntry) (tExit : TExit) : ℤ × TExit :=
  match found with
  | none => (3, tExit)
  | some entry => takenRow (query.entryRowOf (EntryQuery.heardRow entry)) tExit

/-- A lookup in a state: what the history says, and nothing is changed in an error. -/
structure Finds (query : EntryQuery) (replica : Replica) : Prop where
  /-- the central database gives nothing and the local one answers -/
  latest : ∀ central, NoneCentral central → ∀ iuNo tExit,
    lookup ⟨central, some (query.select replica.table iuNo)⟩ tExit =
      expected query (query.openEntry iuNo replica.heard) tExit
  /-- whatever the two queries give -/
  error : ∀ answer tExit, (lookup answer tExit).1 ≠ 0 → (lookup answer tExit).2 = tExit
  /-- and a failed query, or a row that cannot be read, is an error -/
  failed : ∀ central, NoneCentral central → ∀ tExit, (lookup ⟨central, none⟩ tExit).1 = -1
  unreadable : ∀ answer row tExit, takeEntryRow row tExit = none →
    (answer.central = some (some row) ∨
        NoneCentral answer.central ∧ answer.localdb = some (some row)) →
      (lookup answer tExit).1 = -1

/-- Whether a row can be read does not depend on the record it is read into. -/
theorem takeEntryRow_isSome (row : EntryRow) (tExit other : TExit) :
    (takeEntryRow row tExit).isSome = (takeEntryRow row other).isSome := by
  unfold takeEntryRow
  cases stoi row.transType <;> cases stof row.oweAmt <;> cases stoi row.entryStation <;> rfl

theorem lookup_central (row : EntryRow) (localdb : Option (Option EntryRow)) (tExit : TExit) :
    lookup ⟨some (some row), localdb⟩ tExit = takenRow row tExit := by
  unfold takenRow lookup fetchEntryinfoCode fetchEntryinfo
  simp only [takeEntryRow_isSome row {} tExit]
  cases takeEntryRow row tExit <;> rfl

theorem lookup_local {central : Option (Option EntryRow)} (hcentral : NoneCentral central)
    (localdb : Option (Option EntryRow)) (tExit : TExit) :
    lookup ⟨central, localdb⟩ tExit =
      match localdb with
      | none => (-1, tExit)
      | some none => (3, tExit)
      | some (some row) => takenRow row tExit := by
  unfold takenRow lookup fetchEntryinfoCode fetchEntryinfo
  rcases hcentral with rfl | rfl <;> rcases localdb with _ | _ | row <;> try rfl
  all_goals
    simp only [takeEntryRow_isSome row {} tExit]
    cases takeEntryRow row tExit <;> rfl

theorem takenRow_of_error {row : EntryRow} {tExit : TExit} (herror : (takenRow row tExit).1 ≠ 0) :
    (takenRow row tExit).2 = tExit := by
  unfold takenRow at herror ⊢
  cases hread : takeEntryRow row tExit with
  | none => rfl
  | some updated =>
      rw [hread] at herror
      exact absurd rfl herror

theorem takenRow_of_none {row : EntryRow} {tExit : TExit} (hread : takeEntryRow row tExit = none) :
    (takenRow row tExit).1 = -1 := by
  unfold takenRow
  rw [hread]

/-- The lookup depends on the table only through the rows that are selected. -/
theorem finds_of_agrees {query : EntryQuery} {replica : Replica}
    (hagrees : replica.Agrees query) : Finds query replica where
  latest central hcentral iuNo tExit := by
    rw [lookup_local hcentral, EntryQuery.select_of_agreesOn (hagrees iuNo)]
    unfold expected
    cases query.openEntry iuNo replica.heard <;> rfl
  error answer tExit := by
    obtain ⟨central, localdb⟩ := answer
    rcases central with _ | _ | row
    · rw [lookup_local (Or.inl rfl)]
      rcases localdb with _ | _ | row
      · exact fun _ => rfl
      · exact fun _ => rfl
      · exact takenRow_of_error
    · rw [lookup_local (Or.inr rfl)]
      rcases localdb with _ | _ | row
      · exact fun _ => rfl
      · exact fun _ => rfl
      · exact takenRow_of_error
    · rw [lookup_central]
      exact takenRow_of_error
  failed central hcentral tExit := by rw [lookup_local hcentral]
  unreadable answer row tExit hread := by
    obtain ⟨central, localdb⟩ := answer
    rintro (rfl | ⟨hcentral, rfl⟩)
    · rw [lookup_central]
      exact takenRow_of_none hread
    · rw [lookup_local hcentral]
      exact takenRow_of_none hread

/-- In a run of an exit station in which every needed statement is applied and `UpdateExit`
finds no open row, a local lookup finds in every state the latest entry that no exit has
followed. -/
theorem lookup_finds (query : EntryQuery) (hplain : PlainColumns query)
    (events : List ReplicaEvent)
    (happlied : Machine.Meets (Replica.step query) (Replica.Applied query) .start events) :
    Finds query (Machine.run (Replica.step query) .start events) :=
  finds_of_agrees (Replica.agrees_run hplain happlied)

/-! ## Two runs -/

/-- The text by which `entry_time` is sorted; NULL comes before all times. -/
def timeText : SqlValue → String
  | .null => ""
  | .text stored => stored

/-- A database that gives back what was written and sorts times as texts. -/
def plainQuery : EntryQuery where
  types := plainTypes _
  oweAmt := "0.00"
  before first second := timeText first < timeText second
  byTimeDesc := List.insertionSort fun first second =>
    timeText (second.values .entryTime) ≤ timeText (first.values .entryTime)
  perm rows := List.perm_insertionSort _ rows
  sorted rows := by
    have hsorted := List.pairwise_insertionSort (fun first second : LocalRow EntryColumn =>
      timeText (second.values .entryTime) ≤ timeText (first.values .entryTime)) rows
    exact hsorted.imp fun hle => not_lt.mpr hle

theorem plainColumns_plainQuery : PlainColumns plainQuery where
  vehicle := by
    have hsame (stored iuNo : String) : plainQuery.SameVehicle stored iuNo ↔ stored = iuNo :=
      beq_iff_eq
    refine ⟨fun stored => (hsame _ _).mpr rfl, fun h => ?_, fun first second => ?_⟩
    · exact (hsame _ _).mpr ((hsame _ _).mp h).symm
    · exact (hsame _ _).mpr (((hsame _ _).mp first).trans ((hsame _ _).mp second))
  opened := by decide
  closed := by decide

/-- An entry heard from station 1 of the zone. -/
def heardNoon : ReplicaEvent :=
  .broadcast ",1," "2026-01-01 12:00:00" ⟨.done, .done, .done⟩
    ["PMS", "1", "90", "1234567890,,,Entry OK"]

/-- Before the exit is saved the entry is found, and after it none is. -/
theorem lookup_finds_noon :
    Finds plainQuery (Machine.run (Replica.step plainQuery) .start [heardNoon]) ∧
      Finds plainQuery (Machine.run (Replica.step plainQuery) .start
        [heardNoon, .saveExit .done "1234567890"]) :=
  ⟨lookup_finds plainQuery plainColumns_plainQuery _
      ⟨⟨fun _ => ⟨by decide, Or.inl (by decide)⟩, fun _ => Or.inl (by decide)⟩, trivial⟩,
    lookup_finds plainQuery plainColumns_plainQuery _
      ⟨⟨fun _ => ⟨by decide, Or.inl (by decide)⟩, fun _ => Or.inl (by decide)⟩,
        Or.inr (Or.inl (by decide)), trivial⟩⟩

/-- `UpdateExit` saves the exit of the vehicle and the entry is found all the same. -/
theorem not_lookup_finds :
    ¬∀ query : EntryQuery, PlainColumns query → ∀ events : List ReplicaEvent,
        Finds query (Machine.run (Replica.step query) .start events) := by
  intro hall
  have hfinds := hall plainQuery plainColumns_plainQuery [heardNoon, .updateExit "1234567890"]
  have hlatest := congrArg Prod.fst (hfinds.latest none (Or.inl rfl) "1234567890" {})
  exact absurd hlatest (by decide +kernel)

end LinuxPBS.Operation
