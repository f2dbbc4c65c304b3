import LinuxPBS.Common

/-!
# The local season check

`isvalidseason` asks the central database first.  When that cannot be reached
(`-1`), `local_isvalidseason` looks the number up in the local `season_mst`:

```text
SELECT season_type, s_status, date_from, date_to, …
FROM season_mst
WHERE (season_no = 'N' OR INSTR(multi_season_no, 'N') > 0)
  AND date_from <= NOW() AND DATE(date_to) >= DATE(NOW())
  AND (zone_id = '0' OR zone_id = zone)
```

It takes the first row of the answer, whose order the statement leaves open, copies
it into `tSeason` and returns success.  The status is copied but not looked at, and
`INSTR` also finds a number inside a longer one.  `offlineSound_iff` says for which
contents of the table and which order of the answer this does no harm.

How the database compares texts and prints columns is an input, a `LocalDatabase`.
-/

namespace LinuxPBS.Db

open CxxText

/-! ## The table -/

/-- The columns of `season_mst` that the statement reads or the program uses: a `DATETIME` in
seconds, a `DECIMAL(10,2)` in hundredths, NULL as `none`. -/
structure SeasonRow where
  season_no : Option String
  season_type : Option ℤ
  s_status : Option ℤ
  date_from : Option ℕ
  date_to : Option ℕ
  rate_type : Option ℤ
  multi_season_no : Option String
  zone_id : Option String
  redeem_amt : Option ℤ
  redeem_time : Option ℤ
  deriving DecidableEq, Repr

/-- What the local database decides: comparisons of texts under its collation, `INSTR`, the
comparison of a text with a number, and the texts of a date and an amount. -/
structure LocalDatabase where
  equal : String → String → Bool
  instr : String → String → ℕ
  equalNumber : String → ℕ → Bool
  printDate : ℕ → String
  printAmount : ℤ → String
  equal_refl : ∀ text, equal text text = true
  instr_pos : ∀ text part, part.toList <:+: text.toList → 0 < instr text part

/-- `tseason_struct`, the fields that a season check fills in -/
structure SeasonData where
  seasonType : String
  s_status : String
  date_from : String
  date_to : String
  rate_type : String
  redeem_amt : String
  redeem_time : String
  deriving DecidableEq, Repr

/-- `DATE` of a time in seconds. -/
def dateOf (seconds : ℕ) : ℕ := seconds / 86400

namespace SeasonRow

/-- `date_from <= NOW() AND DATE(date_to) >= DATE(NOW())` -/
def coversDate (row : SeasonRow) (now : ℕ) : Bool :=
  row.date_from.any (fun start => decide (start ≤ now)) &&
    row.date_to.any (fun finish => decide (dateOf now ≤ dateOf finish))

/-- `zone_id = '0' OR zone_id = zone` -/
def coversZone (db : LocalDatabase) (row : SeasonRow) (zoneId : ℕ) : Bool :=
  row.zone_id.any fun zone => db.equal zone "0" || db.equalNumber zone zoneId

/-- `season_no = 'N' OR INSTR(multi_season_no, 'N') > 0` -/
def matchesNumber (db : LocalDatabase) (row : SeasonRow) (seasonNo : String) : Bool :=
  row.season_no.any (fun number => db.equal number seasonNo) ||
    row.multi_season_no.any fun numbers => decide (0 < db.instr numbers seasonNo)

/-- The condition of the statement. -/
def selected (db : LocalDatabase) (row : SeasonRow) (now zoneId : ℕ) (seasonNo : String) : Bool :=
  row.matchesNumber db seasonNo && (row.coversDate now && row.coversZone db zoneId)

/-- What `local_isvalidseason` copies out of a row with `GetDataItem`, which turns NULL into the
text `NULL`. -/
def seasonData (db : LocalDatabase) (row : SeasonRow) : SeasonData where
  seasonType := row.season_type.elim "NULL" toString
  s_status := row.s_status.elim "NULL" toString
  date_from := row.date_from.elim "NULL" db.printDate
  date_to := row.date_to.elim "NULL" db.printDate
  rate_type := row.rate_type.elim "NULL" toString
  redeem_amt := row.redeem_amt.elim "NULL" db.printAmount
  redeem_time := row.redeem_time.elim "NULL" toString

/-- The row is for exactly this number: its own, or one element of its list. -/
def IsFor (row : SeasonRow) (seasonNo : String) : Prop :=
  row.season_no = some seasonNo ∨
    ∃ numbers ∈ row.multi_season_no, seasonNo ∈ Common.split ',' numbers

/-- A season that is valid for a number at a time in a zone. -/
structure Valid (db : LocalDatabase) (row : SeasonRow) (now zoneId : ℕ) (seasonNo : String) :
    Prop where
  status : row.s_status = some 1
  date : row.coversDate now = true
  zone : row.coversZone db zoneId = true
  number : row.IsFor seasonNo

end SeasonRow

/-! ## The season check -/

/-- What the central `sp_isvalidseason` returns: its code, and the parameters that are used, the
amount as `std::to_string` writes it. -/
structure CentralSeason where
  code : ℤ
  rateType : ℤ
  redeemTime : ℤ
  redeemAmt : String
  validTo : String
  validFrom : String
  deriving DecidableEq, Repr

/-- `iDBSuccess`, `iNoData` and `iLocalFail` -/
inductive LocalSeason
  | dbSuccess
  | noData
  | localFail
  deriving DecidableEq, Repr

/-- `db::local_isvalidseason`: `select` is what `SQLSelect` returns, if it does, and `updates`
whether `FnUpdateSeason` reaches the operation. -/
def localIsvalidseason (db : LocalDatabase) (select : Option (List SeasonRow)) (updates : Bool)
    (tSeason : SeasonData) : LocalSeason × SeasonData :=
  match select with
  | none => (.localFail, tSeason)
  | some [] => (.noData, tSeason)
  | some (row :: _) => if updates then (.dbSuccess, row.seasonData db) else (.localFail, tSeason)

/-- `db::isvalidseason`: the code and `tSeason` afterwards. -/
def isvalidseason (db : LocalDatabase) (central : CentralSeason) (select : Option (List SeasonRow))
    (updates : Bool) (tSeason : SeasonData) : ℤ × SeasonData :=
  if central.code ≠ -1 then
    if central.code ≠ 8 then
      if updates then
        (central.code,
          { tSeason with
            date_from := central.validFrom
            date_to := central.validTo
            rate_type := toString central.rateType
            redeem_amt := central.redeemAmt
            redeem_time := toString central.redeemTime })
      else (-1, tSeason)
    else (central.code, tSeason)
  else
    let (localRet, tSeason) := localIsvalidseason db select updates tSeason
    (if localRet = .dbSuccess then 1 else 8, tSeason)

/-- A possible answer of the statement: the selected rows in some order, or a failure. -/
def Answers (db : LocalDatabase) (table : List SeasonRow) (now zoneId : ℕ) (seasonNo : String)
    (select : Option (List SeasonRow)) : Prop :=
  ∀ rows ∈ select, rows.Perm (table.filter fun row => row.selected db now zoneId seasonNo)

/-- A season is accepted only on the strength of a valid row, and charged by its data. -/
def OfflineSound (db : LocalDatabase) (table : List SeasonRow) (now zoneId : ℕ) (seasonNo : String)
    (outcome : ℤ × SeasonData) : Prop :=
  outcome.1 = 1 →
    ∃ row ∈ table, row.Valid db now zoneId seasonNo ∧ outcome.2 = row.seasonData db

/-! ## What the statement finds -/

/-- A piece between separators is a part of the text. -/
theorem infix_of_mem_splitChars {separator : Char} {piece text : List Char}
    (hmem : piece ∈ Common.splitChars separator text) : piece <:+: text := by
  -- the first piece is even a prefix, which is what a further character is put in front of
  suffices h : ∀ first rest, Common.splitChars separator text = first :: rest →
      first <+: text ∧ ∀ other ∈ rest, other <:+: text by
    cases hsplit : Common.splitChars separator text with
    | nil => rw [hsplit] at hmem; cases hmem
    | cons first rest =>
        obtain ⟨hfirst, hrest⟩ := h first rest hsplit
        rw [hsplit] at hmem
        rcases List.mem_cons.mp hmem with rfl | hother
        · exact hfirst.isInfix
        · exact hrest piece hother
  clear hmem
  induction text with
  | nil =>
      rintro first rest hsplit
      obtain ⟨rfl, rfl⟩ := List.cons_eq_cons.mp hsplit.symm
      simp
  | cons c text ih =>
      intro first rest hsplit
      unfold Common.splitChars at hsplit
      split_ifs at hsplit with hc
      · obtain ⟨rfl, rfl⟩ := List.cons_eq_cons.mp hsplit.symm
        refine ⟨List.nil_prefix, ?_⟩
        intro other hother
        cases hlater : Common.splitChars separator text with
        | nil => rw [hlater] at hother; cases hother
        | cons next later =>
            obtain ⟨hnext, hlaters⟩ := ih next later hlater
            rw [hlater] at hother
            rcases List.mem_cons.mp hother with rfl | hin
            · exact hnext.isInfix.trans (List.suffix_cons c text).isInfix
            · exact (hlaters other hin).trans (List.suffix_cons c text).isInfix
      · cases hlater : Common.splitChars separator text with
        | nil =>
            rw [hlater] at hsplit
            obtain ⟨rfl, rfl⟩ := List.cons_eq_cons.mp hsplit.symm
            simp
        | cons next later =>
            rw [hlater] at hsplit
            obtain ⟨rfl, rfl⟩ := List.cons_eq_cons.mp hsplit.symm
            obtain ⟨hnext, hlaters⟩ := ih next _ hlater
            refine ⟨(List.prefix_cons_inj c).mpr hnext, ?_⟩
            intro other hother
            exact (hlaters other hother).trans (List.suffix_cons c text).isInfix

namespace SeasonRow

variable {db : LocalDatabase} {row : SeasonRow} {now zoneId : ℕ} {seasonNo : String}

/-- The statement finds the rows of a number. -/
theorem IsFor.matchesNumber (hfor : row.IsFor seasonNo) : row.matchesNumber db seasonNo = true := by
  unfold SeasonRow.matchesNumber
  rcases hfor with hown | ⟨numbers, hnumbers, hlisted⟩
  · rw [hown]
    simp [db.equal_refl]
  · obtain ⟨piece, hpiece, rfl⟩ := List.mem_map.mp hlisted
    have hpart := infix_of_mem_splitChars hpiece
    have hfound := db.instr_pos numbers (String.ofList piece) (by simpa using hpart)
    rw [Option.mem_def.mp hnumbers]
    simp [hfound]

theorem Valid.selected (hvalid : row.Valid db now zoneId seasonNo) :
    row.selected db now zoneId seasonNo = true := by
  unfold SeasonRow.selected
  rw [hvalid.number.matchesNumber, hvalid.date, hvalid.zone]
  rfl

/-- The text of the status is `1` for the status 1 only. -/
theorem status_eq_one_iff (db : LocalDatabase) (row : SeasonRow) :
    (row.seasonData db).s_status = "1" ↔ row.s_status = some 1 := by
  unfold SeasonRow.seasonData
  cases hstatus : row.s_status with
  | none => simp
  | some status =>
      simp only [Option.elim_some, Option.some.injEq]
      constructor
      · intro htext
        have hread := stoi_toString status
        rw [htext, show stoi "1" = some 1 by decide +kernel] at hread
        split_ifs at hread
        exact (Option.some.inj hread).symm
      · rintro rfl
        rfl

end SeasonRow

/-! ## When the check is sound -/

/-- The first row of the answer has the status 1, and its data are those of a row that was found
for the number itself. -/
def FirstStands (db : LocalDatabase) (seasonNo : String) (rows : List SeasonRow) : Prop :=
  ∀ first ∈ rows.head?, first.s_status = some 1 ∧
    ∃ row ∈ rows, row.IsFor seasonNo ∧ row.seasonData db = first.seasonData db

/-- Without the central database the code is 1 exactly when a row comes back and is copied. -/
theorem isvalidseason_offline {central : CentralSeason} (hunreachable : central.code = -1)
    (db : LocalDatabase) (select : Option (List SeasonRow)) (updates : Bool) (tSeason : SeasonData) :
    isvalidseason db central select updates tSeason =
      match select, updates with
      | some (row :: _), true => (1, row.seasonData db)
      | _, _ => (8, tSeason) := by
  unfold isvalidseason localIsvalidseason
  rw [if_neg (not_not.mpr hunreachable)]
  match select, updates with
  | none, _ => rfl
  | some [], _ => rfl
  | some (row :: rest), true => rfl
  | some (row :: rest), false => rfl

/-- The offline check is as strict as it should be exactly when the first row stands. -/
theorem offlineSound_iff {db : LocalDatabase} {table : List SeasonRow} {now zoneId : ℕ}
    {seasonNo : String} {central : CentralSeason} {select : Option (List SeasonRow)}
    (hunreachable : central.code = -1) (hanswers : Answers db table now zoneId seasonNo select)
    (updates : Bool) (tSeason : SeasonData) :
    OfflineSound db table now zoneId seasonNo (isvalidseason db central select updates tSeason) ↔
      (updates = true → ∀ rows ∈ select, FirstStands db seasonNo rows) := by
  have hfound : ∀ rows ∈ select, ∀ row,
      row ∈ rows ↔ row ∈ table ∧ row.selected db now zoneId seasonNo = true := by
    intro rows hrows row
    rw [(hanswers rows hrows).mem_iff, List.mem_filter]
  rw [isvalidseason_offline hunreachable]
  unfold OfflineSound
  match select, updates with
  | none, _ => simp
  | some [], _ => simp [FirstStands]
  | some (first :: rest), false => simp
  | some (first :: rest), true =>
      have hmem := hfound (first :: rest) rfl
      dsimp only
      constructor
      · intro hsound _ rows hrows
        obtain rfl := Option.some.inj hrows
        rintro found ⟨⟩
        obtain ⟨row, htable, hvalid, hdata⟩ := hsound rfl
        constructor
        · -- the status is among the data that are copied
          rw [← SeasonRow.status_eq_one_iff db, hdata, SeasonRow.status_eq_one_iff]
          exact hvalid.status
        · exact ⟨row, (hmem row).mpr ⟨htable, hvalid.selected⟩, hvalid.number, hdata.symm⟩
      · intro hstands _
        obtain ⟨hstatus, row, hrow, hfor, hdata⟩ := hstands rfl (first :: rest) rfl first rfl
        obtain ⟨htable, hselected⟩ := (hmem row).mp hrow
        have hcovers : row.coversDate now = true ∧ row.coversZone db zoneId = true := by
          unfold SeasonRow.selected at hselected
          simp only [Bool.and_eq_true] at hselected
          exact hselected.2
        refine ⟨row, htable, ⟨?_, hcovers.1, hcovers.2, hfor⟩, hdata.symm⟩
        rw [← SeasonRow.status_eq_one_iff db, hdata, SeasonRow.status_eq_one_iff]
        exact hstatus

/-- `INSTR` of two texts, compared character by character. -/
def instrOf (text part : String) : ℕ :=
  ((List.range (text.toList.length + 1)).findIdx? fun start =>
    part.toList.isPrefixOf (text.toList.drop start)).elim 0 (· + 1)

theorem instrOf_pos (text part : String) (hpart : part.toList <:+: text.toList) :
    0 < instrOf text part := by
  obtain ⟨front, back, htext⟩ := hpart
  unfold instrOf
  cases hfind : (List.range (text.toList.length + 1)).findIdx? fun start =>
      part.toList.isPrefixOf (text.toList.drop start) with
  | some start => exact Nat.succ_pos start
  | none =>
      -- the place behind what stands in front would have been found
      rw [List.findIdx?_eq_none_iff] at hfind
      have hlength := congrArg List.length htext
      simp only [List.length_append] at hlength
      have hmiss := hfind front.length (List.mem_range.mpr (by omega))
      rw [← htext, List.append_assoc, List.drop_left] at hmiss
      have hfront : part.toList.isPrefixOf (part.toList ++ back) = true :=
        List.isPrefixOf_iff_prefix.mpr (List.prefix_append _ _)
      rw [hfront] at hmiss
      cases hmiss

/-- A database with a binary collation, on the first two days of its calendar. -/
def binaryDatabase : LocalDatabase where
  equal first second := decide (first = second)
  instr := instrOf
  equalNumber text number := decide (digitsValue (text.toList.takeWhile Char.isDigit) = number)
  printDate seconds := if seconds < 86400 then "1970-01-01 00:00:00" else "1970-01-02 00:00:00"
  printAmount _ := "0.00"
  equal_refl _ := decide_eq_true rfl
  instr_pos := instrOf_pos

/-- A season for one number, from the first day to the second, in all zones. -/
def seasonOf (seasonNo : String) (status : ℤ) (numbers : String) : SeasonRow :=
  ⟨some seasonNo, some 1, some status, some 0, some 86400, some 0, some numbers, some "0", some 0,
    some 0⟩

/-- A valid season is accepted offline, and charged by its row. -/
theorem offlineSound_iff_valid :
    OfflineSound binaryDatabase [seasonOf "1112223334" 1 ""] 3600 2 "1112223334"
      (isvalidseason binaryDatabase ⟨-1, 0, 0, "", "", ""⟩ (some [seasonOf "1112223334" 1 ""]) true
        ⟨"", "", "", "", "", "", ""⟩) := by
  refine (offlineSound_iff rfl ?_ true _).mpr ?_
  · rintro rows ⟨⟩
    decide +kernel
  · rintro - rows ⟨⟩ first ⟨⟩
    exact ⟨rfl, _, List.mem_singleton_self _, .inl rfl, rfl⟩

/-- A terminated season is accepted offline, and so is a number that is only a part of one that is
listed. -/
theorem not_offlineSound :
    let central : CentralSeason := ⟨-1, 0, 0, "", "", ""⟩
    let terminated := [seasonOf "1112223334" 3 ""]
    let longer := [seasonOf "1112223334" 1 "1112223334,5551112223"]
    let before : SeasonData := ⟨"", "", "", "", "", "", ""⟩
    Answers binaryDatabase terminated 3600 2 "1112223334" (some terminated) ∧
      ¬OfflineSound binaryDatabase terminated 3600 2 "1112223334"
        (isvalidseason binaryDatabase central (some terminated) true before) ∧
      Answers binaryDatabase longer 3600 2 "1112223" (some longer) ∧
      ¬OfflineSound binaryDatabase longer 3600 2 "1112223"
        (isvalidseason binaryDatabase central (some longer) true before) := by
  intro central terminated longer before
  refine ⟨?_, ?_, ?_, ?_⟩
  · rintro rows ⟨⟩
    decide +kernel
  · intro hsound
    obtain ⟨row, hmem, hvalid, -⟩ := hsound rfl
    rw [List.mem_singleton.mp hmem] at hvalid
    exact absurd hvalid.status (by decide)
  · rintro rows ⟨⟩
    decide +kernel
  · intro hsound
    obtain ⟨row, hmem, hvalid, -⟩ := hsound rfl
    rw [List.mem_singleton.mp hmem] at hvalid
    rcases hvalid.number with hown | ⟨numbers, ⟨⟩, hlisted⟩
    · exact absurd hown (by decide)
    · exact absurd hlisted (by decide +kernel)

end LinuxPBS.Db
