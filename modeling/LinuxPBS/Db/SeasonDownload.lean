import LinuxPBS.Db.Odbc
import LinuxPBS.Library.CxxText
import Mathlib.Data.List.Enum

/-!
# Downloading the seasons

`downloadseason` takes up to ten central rows that this station has not fetched yet and
turns over them:

```text
writeseason2local      update the local row of that number, or insert one
UPDATE season_mst SET s<station>_fetched = '1' WHERE season_no = '…'
```

The second statement runs when the first one returned `0`, and it is not about the row
of the turn but about its number.  A number need not be unique in the central table, so
the flag of a row can be set by the turn of another one: of a row whose own local write
failed, of one that is overwritten locally by a later turn, or of one that was not in the
batch at all and is now never downloaded.

`consistent_iff` is exact about it.  A run keeps flags and local rows together just
when every row whose flag a turn sets has been written itself, if it was in the batch,
and the last local write under its number wrote its columns.

A text is written between quotes as it is.  The two databases compare season numbers
each in its own way, the central one in any way at all.
-/

namespace LinuxPBS.Db

open CxxText

/-! ## The two tables -/

/-- `tseason_struct` without `found`, which is set but never read.  It is also what the local
`season_mst` holds of a season. -/
structure TseasonStruct where
  season_no : String
  seasonType : String
  s_status : String
  date_from : String
  date_to : String
  vehicle_no : String
  rate_type : String
  pay_to : String
  pay_date : String
  multi_season_no : String
  zone_id : String
  redeem_amt : String
  redeem_time : String
  holder_type : String
  sub_zone_id : String
  deriving DecidableEq, Repr

/-- A row of the central `season_mst`: its columns by their number, and apart from them the
flag `s<station>_fetched` of this station, which may be NULL. -/
structure CentralSeasonRow where
  columns : ℕ → SqlValue
  fetched : Option Bool

/-- What the program leaves to the databases. -/
structure SeasonDatabases where
  central : ColumnTypes ℕ
  /-- the order in which `SELECT TOP 10` meets the rows, which come with their position -/
  select : List (CentralSeasonRow × ℕ) → List (CentralSeasonRow × ℕ)
  select_perm : ∀ rows, (select rows).Perm rows
  /-- `season_no = '…'` in the local database -/
  sameNumber : String → String → Bool
  sameNumber_equivalence : Equivalence fun stored text => sameNumber stored text = true

/-- The outcomes of the calls of one turn: the local `SELECT`, the local `UPDATE` or `INSERT`, and
the central `UPDATE`. -/
structure SeasonTurnAnswers where
  checks : Bool
  write : SqlOutcome
  mark : SqlOutcome
  deriving DecidableEq, Repr

/-- The outcomes of a run.  The turn of a row is named by the position of the row. -/
structure SeasonAnswers where
  /-- `FnGetSharedData` returns the data -/
  shared : Bool
  counts : Bool
  selects : Bool
  turns : ℕ → SeasonTurnAnswers

/-- What a run works on. -/
structure SeasonTables where
  central : List CentralSeasonRow
  seasonMst : List TseasonStruct
  season_update_flag : ℤ
  season_update_count : ℤ
  localDbErrFlag : ℤ
  remoteDbErrFlag : ℤ

/-- The state of the loop.  `notWritten` is history: the positions of the rows whose
`writeseason2local` did not return `0`. -/
structure SeasonDownload extends SeasonTables where
  downloadCount : ℤ := 0
  notWritten : List ℕ := []

/-- One turn of the loop. -/
structure SeasonTurn where
  row : CentralSeasonRow
  position : ℕ
  answers : SeasonTurnAnswers

namespace SeasonDatabases

variable (db : SeasonDatabases)

/-- The season the loop makes of a row. -/
def seasonOf (row : CentralSeasonRow) : TseasonStruct :=
  let getDataItem := db.central.getDataItem row.columns
  { season_no := getDataItem 1
    seasonType := getDataItem 2
    s_status := getDataItem 3
    date_from := getDataItem 4
    date_to := getDataItem 5
    holder_type := getDataItem 6
    vehicle_no := getDataItem 8
    rate_type := getDataItem 58
    pay_to := getDataItem 66
    pay_date := getDataItem 67
    multi_season_no := getDataItem 72
    zone_id := getDataItem 77
    redeem_time := getDataItem 78
    redeem_amt := getDataItem 79
    sub_zone_id := getDataItem 80 }

/-- `WHERE season_no = '…'` of the central `UPDATE` -/
def numbered (seasonNo : String) (row : CentralSeasonRow) : Bool :=
  db.central.isEqual row.columns 1 seasonNo

/-- `UPDATE season_mst SET s<station>_fetched = '1' WHERE season_no = '…'` -/
def markFetched (seasonNo : String) (table : List CentralSeasonRow) : List CentralSeasonRow :=
  table.map fun row => if db.numbered seasonNo row then { row with fetched := some true } else row

/-- `WHERE season_no = '…'` of the local statements -/
def isSeason (v row : TseasonStruct) : Bool := db.sameNumber row.season_no v.season_no

/-- The local `UPDATE`, which writes all the columns. -/
def updateSeason (v : TseasonStruct) (table : List TseasonStruct) : List TseasonStruct :=
  table.map fun row => if db.isSeason v row then v else row

/-- The local statement: an `UPDATE` when the season is there, else an `INSERT`. -/
def storeSeason (v : TseasonStruct) (table : List TseasonStruct) : List TseasonStruct :=
  if table.any (db.isSeason v) then db.updateSeason v table else table ++ [v]

/-- `db::writeseason2local` -/
def writeseason2local (answers : SeasonTurnAnswers) (v : TseasonStruct) (run : SeasonDownload) :
    ℤ × SeasonDownload :=
  if answers.checks = false then (-1, { run with localDbErrFlag := 1 })
  else
    (answers.write.code,
      { run with
        seasonMst := answers.write.apply (db.storeSeason v) run.seasonMst
        localDbErrFlag := if answers.write.code = 0 then 0 else 1 })

/-- One turn of "Process downloaded records". -/
def downloadRow (turn : SeasonTurn) (run : SeasonDownload) : SeasonDownload :=
  let season := db.seasonOf turn.row
  let run := { run with season_update_count := run.season_update_count + 1 }
  let (writeRet, run) := db.writeseason2local turn.answers season run
  if writeRet ≠ 0 then { run with notWritten := run.notWritten ++ [turn.position] }
  else
    let run :=
      { run with central := turn.answers.mark.apply (db.markFetched season.season_no) run.central }
    if turn.answers.mark.code ≠ 0 then { run with remoteDbErrFlag := 2 }
    else { run with downloadCount := run.downloadCount + 1, remoteDbErrFlag := 0 }

/-- The loop. -/
def downloadRows (turns : List SeasonTurn) (run : SeasonDownload) : SeasonDownload :=
  turns.foldl (fun run turn => db.downloadRow turn run) run

/-- `count(season_no)` of the rows with the flag `0`, which leaves out the rows without a number. -/
def pendingCount (table : List CentralSeasonRow) : ℕ :=
  table.countP fun row => decide (row.fetched = some false ∧ row.columns 1 ≠ .null)

/-- `SELECT TOP 10 * FROM season_mst WHERE s<station>_fetched = 0` -/
def nextBatch (table : List CentralSeasonRow) : List (CentralSeasonRow × ℕ) :=
  (db.select (table.zipIdx.filter fun entry => decide (entry.1.fetched = some false))).take 10

/-- The turns of the loop over the next batch. -/
def turns (answers : SeasonAnswers) (table : List CentralSeasonRow) : List SeasonTurn :=
  (db.nextBatch table).map fun entry => ⟨entry.1, entry.2, answers.turns entry.2⟩

/-- `db::downloadseason` -/
def downloadseason (answers : SeasonAnswers) (tables : SeasonTables) : ℤ × SeasonDownload :=
  if answers.shared = false then (-1, { tables with })
  else if answers.counts = false then (-1, { tables with remoteDbErrFlag := 1 })
  else
    match stoi (toString (pendingCount tables.central : ℤ)) with
    | none => (-1, { tables with })
    | some totalPending =>
        if totalPending = 0 then (-1, { tables with })
        else if answers.selects = false then (-1, { tables with remoteDbErrFlag := 1 })
        else
          let turns := db.turns answers tables.central
          let run := db.downloadRows turns { tables with remoteDbErrFlag := 0 }
          (run.downloadCount,
            if turns.length < 10 then { run with season_update_flag := 0 } else run)

end SeasonDatabases

/-! ## What a run should leave -/

namespace SeasonTurn

variable (turn : SeasonTurn)

/-- The local statement is executed. -/
def Stores : Prop := turn.answers.checks = true ∧ turn.answers.write.Executed

/-- `writeseason2local` returns `0`. -/
def Writes : Prop := turn.answers.checks = true ∧ turn.answers.write = .done

/-- The central `UPDATE` is executed. -/
def Marks : Prop := turn.Writes ∧ turn.answers.mark.Executed

instance : Decidable turn.Stores := inferInstanceAs (Decidable (_ ∧ _))

instance : Decidable turn.Writes := inferInstanceAs (Decidable (_ ∧ _))

instance : Decidable turn.Marks := inferInstanceAs (Decidable (_ ∧ _))

end SeasonTurn

/-- The loop is reached: `std::stoi` of the count throws from `2 ^ 31` rows on. -/
def SeasonAnswers.Downloads (answers : SeasonAnswers) (tables : SeasonTables) : Prop :=
  answers.shared = true ∧ answers.counts = true ∧ answers.selects = true ∧
    0 < SeasonDatabases.pendingCount tables.central ∧
      SeasonDatabases.pendingCount tables.central < 2 ^ 31

namespace SeasonDatabases

variable (db : SeasonDatabases)

/-- The local table holds a season: there is a row of its number, and every such row has all its
columns. -/
def Holds (table : List TseasonStruct) (season : TseasonStruct) : Prop :=
  (∃ row ∈ table, db.isSeason season row = true) ∧
    ∀ row ∈ table, db.isSeason season row = true → row = season

/-- Flags and local rows agree after a run. -/
structure Consistent (before : SeasonTables) (after : SeasonDownload) : Prop where
  /-- a row whose flag was set is held locally -/
  stored : ∀ (position : ℕ) (row marked : CentralSeasonRow),
    before.central[position]? = some row → after.central[position]? = some marked →
      row.fetched ≠ some true → marked.fetched = some true →
        db.Holds after.seasonMst (db.seasonOf row)
  /-- a row whose local write failed is still to be fetched -/
  unfetched : ∀ position ∈ after.notWritten,
    ∃ row, after.central[position]? = some row ∧ row.fetched = some false

/-- The last season that the turns write into the local table under a number. -/
def lastStored (season : TseasonStruct) : List SeasonTurn → Option TseasonStruct
  | [] => none
  | turn :: rest =>
      (lastStored season rest).or
        (if turn.Stores ∧ db.isSeason season (db.seasonOf turn.row) = true then
          some (db.seasonOf turn.row)
        else none)

/-- The flag of a row may be set. -/
structure SafeToMark (turns : List SeasonTurn) (seasonMst : List TseasonStruct) (position : ℕ)
    (row : CentralSeasonRow) : Prop where
  /-- its own turn, if it has one, writes it -/
  own : ∀ turn ∈ turns, turn.position = position → turn.Writes
  /-- the last local write under its number has its columns -/
  last : ∀ season, db.lastStored (db.seasonOf row) turns = some season → season = db.seasonOf row
  /-- with no such write the local table has had them before -/
  before : db.lastStored (db.seasonOf row) turns = none → db.Holds seasonMst (db.seasonOf row)

/-! ## The local table -/

variable {db}

theorem mem_storeSeason_iff {v row : TseasonStruct} {table : List TseasonStruct} :
    row ∈ db.storeSeason v table ↔ row = v ∨ (row ∈ table ∧ db.isSeason v row = false) := by
  unfold storeSeason
  split
  · next hany =>
      obtain ⟨old, hold, hmatch⟩ := List.any_eq_true.mp hany
      rw [updateSeason, List.mem_map]
      constructor
      · rintro ⟨stored, hstored, rfl⟩
        cases hseason : db.isSeason v stored with
        | true => exact Or.inl (if_pos rfl)
        | false =>
            rw [if_neg (by simp)]
            exact Or.inr ⟨hstored, hseason⟩
      · rintro (rfl | ⟨hrow, hother⟩)
        · exact ⟨old, hold, if_pos hmatch⟩
        · exact ⟨row, hrow, if_neg (by simp [hother])⟩
  · next hnone =>
      rw [List.mem_append, List.mem_singleton, or_comm]
      refine or_congr_right ⟨fun hrow => ⟨hrow, ?_⟩, And.left⟩
      rw [Bool.eq_false_iff]
      exact fun hmatch => hnone (List.any_eq_true.mpr ⟨row, hrow, hmatch⟩)

/-- A write under the number of a season decides whether it is held. -/
theorem holds_storeSeason_of_isSeason {v season : TseasonStruct} {table : List TseasonStruct}
    (hsame : db.isSeason season v = true) :
    db.Holds (db.storeSeason v table) season ↔ v = season := by
  constructor
  · intro hholds
    exact hholds.2 v (mem_storeSeason_iff.mpr (Or.inl rfl)) hsame
  · rintro rfl
    refine ⟨⟨v, mem_storeSeason_iff.mpr (Or.inl rfl), hsame⟩, fun row hrow hseason => ?_⟩
    rcases mem_storeSeason_iff.mp hrow with heq | ⟨-, hother⟩
    · exact heq
    · rw [hseason] at hother
      cases hother

/-- A write under another number does not matter to a season. -/
theorem holds_storeSeason_of_not_isSeason {v season : TseasonStruct} {table : List TseasonStruct}
    (hother : db.isSeason season v = false) :
    db.Holds (db.storeSeason v table) season ↔ db.Holds table season := by
  have hrows : ∀ row, db.isSeason season row = true →
      (row ∈ db.storeSeason v table ↔ row ∈ table) := by
    intro row hrow
    rw [mem_storeSeason_iff]
    constructor
    · rintro (rfl | ⟨hmem, -⟩)
      · rw [hother] at hrow
        cases hrow
      · exact hmem
    · intro hmem
      refine Or.inr ⟨hmem, Bool.eq_false_iff.mpr fun hmatch => ?_⟩
      -- both numbers would be that of the row
      have hequiv := db.sameNumber_equivalence
      have hsame : db.isSeason season v = true := hequiv.trans (hequiv.symm hmatch) hrow
      rw [hother] at hsame
      cases hsame
  constructor
  · rintro ⟨⟨row, hmem, hrow⟩, hall⟩
    exact ⟨⟨row, (hrows row hrow).mp hmem, hrow⟩,
      fun other hmem' hother' => hall other ((hrows other hother').mpr hmem') hother'⟩
  · rintro ⟨⟨row, hmem, hrow⟩, hall⟩
    exact ⟨⟨row, (hrows row hrow).mpr hmem, hrow⟩,
      fun other hmem' hother' => hall other ((hrows other hother').mp hmem') hother'⟩

/-! ## One turn -/

variable (db) in
theorem writeseason2local_code (answers : SeasonTurnAnswers) (v : TseasonStruct)
    (run : SeasonDownload) :
    (db.writeseason2local answers v run).1 = 0 ↔ answers.checks = true ∧ answers.write = .done := by
  unfold writeseason2local
  cases answers.checks <;> simp

variable (db) in
theorem writeseason2local_seasonMst (answers : SeasonTurnAnswers) (v : TseasonStruct)
    (run : SeasonDownload) :
    (db.writeseason2local answers v run).2.seasonMst =
      if answers.checks = true ∧ answers.write.Executed then db.storeSeason v run.seasonMst
      else run.seasonMst := by
  unfold writeseason2local SqlOutcome.apply
  cases answers.checks <;> simp

variable (db) in
/-- `writeseason2local` leaves the central table and the history alone. -/
theorem writeseason2local_frame (answers : SeasonTurnAnswers) (v : TseasonStruct)
    (run : SeasonDownload) :
    (db.writeseason2local answers v run).2.central = run.central ∧
      (db.writeseason2local answers v run).2.notWritten = run.notWritten := by
  unfold writeseason2local
  split <;> exact ⟨rfl, rfl⟩

theorem downloadRow_of_not_writes {turn : SeasonTurn} (hwrites : ¬turn.Writes)
    (run : SeasonDownload) :
    (db.downloadRow turn run).central = run.central ∧
      (db.downloadRow turn run).notWritten = run.notWritten ++ [turn.position] := by
  have hcode := mt (writeseason2local_code db turn.answers (db.seasonOf turn.row)
    { run with season_update_count := run.season_update_count + 1 }).mp hwrites
  have hframe := writeseason2local_frame db turn.answers (db.seasonOf turn.row)
    { run with season_update_count := run.season_update_count + 1 }
  unfold downloadRow
  simp only
  rw [if_pos hcode]
  exact ⟨hframe.1, congrArg (· ++ [turn.position]) hframe.2⟩

theorem downloadRow_of_writes {turn : SeasonTurn} (hwrites : turn.Writes) (run : SeasonDownload) :
    (db.downloadRow turn run).central =
        turn.answers.mark.apply (db.markFetched (db.seasonOf turn.row).season_no) run.central ∧
      (db.downloadRow turn run).notWritten = run.notWritten := by
  have hcode := (writeseason2local_code db turn.answers (db.seasonOf turn.row)
    { run with season_update_count := run.season_update_count + 1 }).mpr hwrites
  have hframe := writeseason2local_frame db turn.answers (db.seasonOf turn.row)
    { run with season_update_count := run.season_update_count + 1 }
  unfold downloadRow
  simp only
  have hmarked := congrArg
    (turn.answers.mark.apply (db.markFetched (db.seasonOf turn.row).season_no)) hframe.1
  rw [if_neg (not_not.mpr hcode)]
  split
  · exact ⟨hmarked, hframe.2⟩
  · exact ⟨hmarked, hframe.2⟩

theorem downloadRow_seasonMst (turn : SeasonTurn) (run : SeasonDownload) :
    (db.downloadRow turn run).seasonMst =
      if turn.Stores then db.storeSeason (db.seasonOf turn.row) run.seasonMst
      else run.seasonMst := by
  have hwritten := writeseason2local_seasonMst db turn.answers (db.seasonOf turn.row)
    { run with season_update_count := run.season_update_count + 1 }
  unfold downloadRow
  simp only
  split
  · exact hwritten
  · split
    · exact hwritten
    · exact hwritten

theorem downloadRow_central (turn : SeasonTurn) (run : SeasonDownload) :
    (db.downloadRow turn run).central =
      if turn.Marks then db.markFetched (db.seasonOf turn.row).season_no run.central
      else run.central := by
  by_cases hwrites : turn.Writes
  · rw [(downloadRow_of_writes hwrites run).1, SqlOutcome.apply]
    exact if_congr (and_iff_right hwrites).symm rfl rfl
  · rw [(downloadRow_of_not_writes hwrites run).1, if_neg fun hmarks => hwrites hmarks.1]

theorem downloadRow_notWritten (turn : SeasonTurn) (run : SeasonDownload) :
    (db.downloadRow turn run).notWritten =
      if turn.Writes then run.notWritten else run.notWritten ++ [turn.position] := by
  split
  · next hwrites => exact (downloadRow_of_writes hwrites run).2
  · next hwrites => exact (downloadRow_of_not_writes hwrites run).2

/-! ## The whole loop -/

/-- A season is held after the loop when its last local write has its columns, or when there was
none and it was held before. -/
theorem holds_downloadRows (turns : List SeasonTurn) (season : TseasonStruct)
    (run : SeasonDownload) :
    db.Holds (db.downloadRows turns run).seasonMst season ↔
      (∀ last, db.lastStored season turns = some last → last = season) ∧
        (db.lastStored season turns = none → db.Holds run.seasonMst season) := by
  induction turns generalizing run with
  | nil => simp [downloadRows, lastStored]
  | cons turn rest ih =>
      have hstep : db.Holds (db.downloadRows (turn :: rest) run).seasonMst season ↔
          _ := ih (db.downloadRow turn run)
      rw [hstep, lastStored]
      cases hlast : db.lastStored season rest with
      | some last => simp
      | none =>
          rw [Option.none_or, downloadRow_seasonMst]
          by_cases hstores : turn.Stores
          · rw [if_pos hstores]
            cases hsame : db.isSeason season (db.seasonOf turn.row) with
            | true => simp [hstores, holds_storeSeason_of_isSeason hsame]
            | false => simp [holds_storeSeason_of_not_isSeason hsame]
          · simp [hstores]

/-- The number of a row is that of a turn that sets flags. -/
def MarkedBy (db : SeasonDatabases) (turns : List SeasonTurn) (row : CentralSeasonRow) : Prop :=
  ∃ turn ∈ turns, turn.Marks ∧ db.numbered (db.seasonOf turn.row).season_no row = true

variable (db) in
/-- What the loop leaves of a central row: all but the flag, and the flag too unless a turn has set
it. -/
theorem getElem?_downloadRows (turns : List SeasonTurn) {run : SeasonDownload} {position : ℕ}
    {row : CentralSeasonRow} (hrow : run.central[position]? = some row) :
    ∃ after, (db.downloadRows turns run).central[position]? = some after ∧
      after.columns = row.columns ∧ (db.MarkedBy turns row → after.fetched = some true) ∧
        (¬db.MarkedBy turns row → after.fetched = row.fetched) := by
  induction turns generalizing run row with
  | nil => exact ⟨row, hrow, rfl, fun ⟨_, hmem, _⟩ => absurd hmem List.not_mem_nil, fun _ => rfl⟩
  | cons turn rest ih =>
      -- the row after the first turn
      obtain ⟨next, hnext, hcolumns, hset, hkept⟩ :
          ∃ next, (db.downloadRow turn run).central[position]? = some next ∧
            next.columns = row.columns ∧
              (turn.Marks ∧ db.numbered (db.seasonOf turn.row).season_no row = true →
                next.fetched = some true) ∧
              (¬(turn.Marks ∧ db.numbered (db.seasonOf turn.row).season_no row = true) →
                next.fetched = row.fetched) := by
        rw [downloadRow_central]
        by_cases hmarks : turn.Marks
        · rw [if_pos hmarks, markFetched, List.getElem?_map, hrow, Option.map_some]
          refine ⟨_, rfl, ?_⟩
          split
          · next hnumbered => exact ⟨rfl, fun _ => rfl, fun hnot => absurd ⟨hmarks, hnumbered⟩ hnot⟩
          · next hnumbered => exact ⟨rfl, fun hboth => absurd hboth.2 hnumbered, fun _ => rfl⟩
        · rw [if_neg hmarks]
          exact ⟨row, hrow, rfl, fun hboth => absurd hboth.1 hmarks, fun _ => rfl⟩
      have hnumbered : ∀ seasonNo, db.numbered seasonNo next = db.numbered seasonNo row := by
        intro seasonNo
        rw [numbered, numbered, hcolumns]
      have hrest : db.MarkedBy rest next ↔ db.MarkedBy rest row := by
        simp only [MarkedBy, hnumbered]
      have hall : db.MarkedBy (turn :: rest) row ↔
          (turn.Marks ∧ db.numbered (db.seasonOf turn.row).season_no row = true) ∨
            db.MarkedBy rest row := by
        simp only [MarkedBy, List.exists_mem_cons_iff]
      obtain ⟨after, hafter, hcolumns', hset', hkept'⟩ := ih hnext
      refine ⟨after, hafter, hcolumns'.trans hcolumns, fun hmarked => ?_, fun hnot => ?_⟩
      · by_cases hlater : db.MarkedBy rest next
        · exact hset' hlater
        · rw [hkept' hlater]
          exact hset ((hall.mp hmarked).resolve_right (mt hrest.mpr hlater))
      · rw [hall, not_or] at hnot
        rw [hkept' (mt hrest.mp hnot.2), hkept hnot.1]

theorem mem_notWritten_downloadRows (turns : List SeasonTurn) (run : SeasonDownload)
    {position : ℕ} :
    position ∈ (db.downloadRows turns run).notWritten ↔
      position ∈ run.notWritten ∨
        ∃ turn ∈ turns, turn.position = position ∧ ¬turn.Writes := by
  induction turns generalizing run with
  | nil => simp [downloadRows]
  | cons turn rest ih =>
      have hstep : position ∈ (db.downloadRows (turn :: rest) run).notWritten ↔ _ :=
        ih (db.downloadRow turn run)
      rw [hstep, downloadRow_notWritten, List.exists_mem_cons_iff]
      by_cases hwrites : turn.Writes
      · simp [hwrites]
      · rw [if_neg hwrites, List.mem_append, List.mem_singleton, or_assoc]
        simp [hwrites, eq_comm]

/-! ## The batch -/

/-- A turn is about a row with the flag `0`. -/
theorem pending_of_mem_turns {answers : SeasonAnswers} {table : List CentralSeasonRow}
    {turn : SeasonTurn} (hturn : turn ∈ db.turns answers table) :
    table[turn.position]? = some turn.row ∧ turn.row.fetched = some false := by
  obtain ⟨entry, hentry, rfl⟩ := List.mem_map.mp hturn
  have hmem := (db.select_perm _).mem_iff.mp (List.mem_of_mem_take hentry)
  rw [List.mem_filter, decide_eq_true_iff] at hmem
  exact ⟨List.mem_zipIdx_iff_getElem?.mp hmem.1, hmem.2⟩

variable (db) in
/-- The loop is consistent exactly when every row whose flag it sets is safe to be marked. -/
theorem downloadRows_consistent_iff (answers : SeasonAnswers) (before : SeasonTables)
    (run : SeasonDownload) (hcentral : run.central = before.central)
    (hlocal : run.seasonMst = before.seasonMst) (hhistory : run.notWritten = []) :
    db.Consistent before (db.downloadRows (db.turns answers before.central) run) ↔
      ∀ turn ∈ db.turns answers before.central, turn.Marks →
        ∀ (position : ℕ) (row : CentralSeasonRow), before.central[position]? = some row →
          row.fetched ≠ some true → db.numbered (db.seasonOf turn.row).season_no row = true →
            db.SafeToMark (db.turns answers before.central) before.seasonMst position row := by
  constructor
  · intro hconsistent turn hturn hmarks position row hrow hfetched hnumbered
    have hmarked : db.MarkedBy (db.turns answers before.central) row :=
      ⟨turn, hturn, hmarks, hnumbered⟩
    obtain ⟨after, hafter, -, hset, -⟩ :=
      getElem?_downloadRows db (db.turns answers before.central) (hcentral ▸ hrow)
    have hholds := hconsistent.stored position row after hrow hafter hfetched (hset hmarked)
    rw [holds_downloadRows, hlocal] at hholds
    refine ⟨fun own hown hposition => ?_, hholds.1, hholds.2⟩
    by_contra hwrites
    obtain ⟨left, hleft, hpending⟩ := hconsistent.unfetched position
      ((mem_notWritten_downloadRows _ _).mpr (Or.inr ⟨own, hown, hposition, hwrites⟩))
    obtain rfl : after = left := Option.some.inj (hafter.symm.trans hleft)
    rw [hset hmarked] at hpending
    cases hpending
  · intro hsafe
    constructor
    · intro position row marked hrow hmarked hfetched hset
      obtain ⟨after, hafter, -, -, hkept⟩ :=
        getElem?_downloadRows db (db.turns answers before.central) (hcentral ▸ hrow)
      obtain rfl : after = marked := Option.some.inj (hafter.symm.trans hmarked)
      by_cases hby : db.MarkedBy (db.turns answers before.central) row
      · obtain ⟨turn, hturn, hmarks, hnumbered⟩ := hby
        have hrowSafe := hsafe turn hturn hmarks position row hrow hfetched hnumbered
        rw [holds_downloadRows, hlocal]
        exact ⟨hrowSafe.last, hrowSafe.before⟩
      · exact absurd ((hkept hby).symm.trans hset) hfetched
    · intro position hposition
      rw [mem_notWritten_downloadRows, hhistory] at hposition
      obtain ⟨own, hown, rfl, hwrites⟩ := hposition.resolve_left List.not_mem_nil
      obtain ⟨hrow, hpending⟩ := pending_of_mem_turns hown
      obtain ⟨after, hafter, -, -, hkept⟩ :=
        getElem?_downloadRows db (db.turns answers before.central) (hcentral ▸ hrow)
      refine ⟨after, hafter, (hkept ?_).trans hpending⟩
      rintro ⟨turn, hturn, hmarks, hnumbered⟩
      have hfetched : own.row.fetched ≠ some true := by simp [hpending]
      exact hwrites ((hsafe turn hturn hmarks _ _ hrow hfetched hnumbered).own own hown rfl)

/-! ## The whole function -/

/-- A run that leaves the central table and has no row to write is consistent. -/
theorem consistent_of_central_eq {before : SeasonTables} {after : SeasonDownload}
    (hcentral : after.central = before.central) (hhistory : after.notWritten = []) :
    db.Consistent before after := by
  constructor
  · intro position row marked hrow hmarked hfetched hset
    rw [hcentral, hrow] at hmarked
    obtain rfl : row = marked := Option.some.inj hmarked
    exact absurd hset hfetched
  · intro position hposition
    rw [hhistory] at hposition
    cases hposition

/-- What `downloadseason` leaves: the loop over the batch, if it is reached. -/
theorem downloadseason_cases (db : SeasonDatabases) (answers : SeasonAnswers)
    (tables : SeasonTables) :
    (¬answers.Downloads tables ∧
        (db.downloadseason answers tables).2.central = tables.central ∧
        (db.downloadseason answers tables).2.notWritten = []) ∨
      (answers.Downloads tables ∧ ∃ flag,
        (db.downloadseason answers tables).2 =
          { db.downloadRows (db.turns answers tables.central)
              { tables with remoteDbErrFlag := 0 } with season_update_flag := flag }) := by
  have hfits : FitsInt (pendingCount tables.central : ℤ) ↔
      pendingCount tables.central < 2 ^ 31 := by
    unfold FitsInt
    omega
  unfold downloadseason
  by_cases hshared : answers.shared = false
  · rw [if_pos hshared]
    exact Or.inl ⟨fun hreached => by simp [hreached.1] at hshared, rfl, rfl⟩
  rw [if_neg hshared]
  by_cases hcounts : answers.counts = false
  · rw [if_pos hcounts]
    exact Or.inl ⟨fun hreached => by simp [hreached.2.1] at hcounts, rfl, rfl⟩
  rw [if_neg hcounts, stoi_toString, if_congr hfits rfl rfl]
  by_cases hlt : pendingCount tables.central < 2 ^ 31
  · rw [if_pos hlt]
    simp only
    by_cases hpos : 0 < pendingCount tables.central
    · rw [if_neg (by omega)]
      by_cases hselects : answers.selects = false
      · rw [if_pos hselects]
        exact Or.inl ⟨fun hreached => by simp [hreached.2.2.1] at hselects, rfl, rfl⟩
      · rw [if_neg hselects]
        refine Or.inr ⟨⟨?_, ?_, ?_, hpos, hlt⟩, ?_⟩
        · simpa using hshared
        · simpa using hcounts
        · simpa using hselects
        · split
          · exact ⟨0, rfl⟩
          · exact ⟨_, rfl⟩
    · rw [if_pos (by omega)]
      exact Or.inl ⟨fun hreached => hpos hreached.2.2.2.1, rfl, rfl⟩
  · rw [if_neg hlt]
    exact Or.inl ⟨fun hreached => hlt hreached.2.2.2.2, rfl, rfl⟩

/-- The download keeps flags and local rows together exactly when every row whose flag a turn sets
is safe to be marked. -/
theorem consistent_iff (db : SeasonDatabases) (answers : SeasonAnswers) (tables : SeasonTables) :
    db.Consistent tables (db.downloadseason answers tables).2 ↔
      (answers.Downloads tables → ∀ turn ∈ db.turns answers tables.central, turn.Marks →
        ∀ (position : ℕ) (row : CentralSeasonRow), tables.central[position]? = some row →
          row.fetched ≠ some true → db.numbered (db.seasonOf turn.row).season_no row = true →
            db.SafeToMark (db.turns answers tables.central) tables.seasonMst position row) := by
  rcases downloadseason_cases db answers tables with
    ⟨hnot, hcentral, hhistory⟩ | ⟨hreached, flag, hrun⟩
  · exact iff_of_true (consistent_of_central_eq hcentral hhistory) fun hreached =>
      absurd hreached hnot
  · have hloop := downloadRows_consistent_iff db answers tables
      { tables with remoteDbErrFlag := 0 } rfl rfl rfl
    rw [forall_prop_of_true hreached, ← hloop, hrun]
    -- the flag of the update says nothing about the tables
    exact ⟨fun hconsistent => ⟨hconsistent.stored, hconsistent.unfetched⟩,
      fun hconsistent => ⟨hconsistent.stored, hconsistent.unfetched⟩⟩

/-! ## Two seasons under one number -/

/-- Databases that compare texts exactly and take the rows in the order of the table. -/
def exactDatabases : SeasonDatabases where
  central := ⟨fun _ stored => stored, fun _ stored text => stored == text⟩
  select := id
  select_perm _ := List.Perm.refl _
  sameNumber stored text := stored == text
  sameNumber_equivalence :=
    ⟨fun _ => beq_self_eq_true _, fun h => by simpa using (beq_iff_eq.mp h).symm,
      fun h h' => by simp_all⟩

/-- A row that is still to be fetched. -/
def pendingSeason (vehicleNo : String) : CentralSeasonRow where
  columns column := .text (if column = 1 then "S001" else if column = 8 then vehicleNo else "1")
  fetched := some false

/-- Two vehicles under one season number. -/
def sharedSeason : SeasonTables where
  central := [pendingSeason "SBA1", pendingSeason "SBA2"]
  seasonMst := []
  season_update_flag := 1
  season_update_count := 0
  localDbErrFlag := 0
  remoteDbErrFlag := 0

/-- Every call of the download succeeds. -/
def allSucceed : SeasonAnswers where
  shared := true
  counts := true
  selects := true
  turns _ := ⟨true, .done, .done⟩

/-- Both flags are set, and the first vehicle is nowhere. -/
theorem not_consistent :
    ¬∀ (db : SeasonDatabases) (answers : SeasonAnswers) (tables : SeasonTables),
      db.Consistent tables (db.downloadseason answers tables).2 := by
  intro hall
  have hstored := (hall exactDatabases allSucceed sharedSeason).stored 0 (pendingSeason "SBA1")
    { pendingSeason "SBA1" with fetched := some true } rfl rfl (by decide) rfl
  exact absurd hstored.2 (by decide +kernel)

end SeasonDatabases

end LinuxPBS.Db
