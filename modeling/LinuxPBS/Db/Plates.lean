import LinuxPBS.Db.SharedTable

/-!
# The plate of a transaction

The cameras answer a transaction id with a plate, at any time and more than once.  While
the vehicle is on the loop and not saved the answer goes into `tEntry` or `tExit`, later
into the central tables, by the id that the record carries.  There are four ways to lose
it, and each is one of the columns or conditions below:

```text
                       entry                         exit
save, central          lpn := sLPN                   lpn := tExit.lpn, the OBU's plate
save, local            lpn := sLPN                   lpn := tExit.lpn
upload                 lpn of the local row, no id   lpn of the local row, no id
late answer            UPDATE in the central tables by the id
```

So an exit never records a plate that came before the save, and no answer finds a row that
is still local, or was uploaded.  `plates_right` says that nothing else goes wrong: in a run
whose steps avoid these ways every record carries the plate of the last answer for its id.
-/

namespace LinuxPBS.Db

/-! ## Updating a plate centrally -/

/-- The outcomes of the two statements of `updateEntryTrans`, about the table `…_tmp` and
the one into which the server moves its rows. -/
structure UpdateAnswers where
  tmp : SqlOutcome
  main : SqlOutcome
  deriving DecidableEq, Repr

/-- The records of one kind: the two central tables, the local one, and as history the
local rows that were uploaded. -/
structure Records (κ : Type*) where
  tmp : List (κ → SqlValue)
  main : List (κ → SqlValue)
  localTrans : LocalTable κ
  uploaded : List (LocalRow κ)

/-- The columns with the plate and with the id, and what the upload makes of them. -/
structure PlateColumns (κ τ : Type*) [DecidableEq κ] where
  kind : UploadKind κ τ
  sid : κ
  lpn : κ
  sid_ne_lpn : sid ≠ lpn
  upload_sid : ∀ record, insertedRow (kind.insert record) sid = .null
  upload_lpn : ∀ item record, kind.read item = some record →
    insertedRow (kind.insert record) lpn = .text (item lpn)

theorem readEntryTrans_lpn {item : EntryColumn → String} {record : TEntryTrans}
    (hread : readEntryTrans item = some record) : record.sLPN0 = item .lpn := by
  unfold readEntryTrans at hread
  iterate 6
    obtain ⟨_, -, hread⟩ := Option.bind_eq_some_iff.mp hread
  cases hread
  rfl

theorem readExitTrans_lpn {item : ExitColumn → String} {record : TExitTrans}
    (hread : readExitTrans item = some record) : record.sLPN0 = item .lpn := by
  unfold readExitTrans at hread
  iterate 13
    obtain ⟨_, -, hread⟩ := Option.bind_eq_some_iff.mp hread
  cases hread
  rfl

/-- The columns of an entry. -/
def entryPlates : PlateColumns EntryColumn TEntryTrans where
  kind := entryUpload
  sid := .entryLpnSid
  lpn := .lpn
  sid_ne_lpn := by decide
  upload_sid _ := rfl
  upload_lpn _ _ hread := congrArg SqlValue.text (readEntryTrans_lpn hread)

/-- The columns of an exit. -/
def exitPlates : PlateColumns ExitColumn TExitTrans where
  kind := exitUpload
  sid := .exitLpnSid
  lpn := .lpn
  sid_ne_lpn := by decide
  upload_sid _ := rfl
  upload_lpn _ _ hread := congrArg SqlValue.text (readExitTrans_lpn hread)

namespace PlateColumns

variable {κ τ : Type*} [DecidableEq κ] (columns : PlateColumns κ τ)

/-- `SET lpn = '…' WHERE …_lpn_sid = '…'` for one row. -/
def setPlate (central : ColumnTypes κ) (lpn transId : String) (row : κ → SqlValue) : κ → SqlValue :=
  if central.isEqual row columns.sid transId then Function.update row columns.lpn (.text lpn)
  else row

/-- `updateEntryTrans` and `updateExitTrans`, with the return code. -/
def updateTrans (central : ColumnTypes κ) (answers : UpdateAnswers) (lpn transId : String)
    (records : Records κ) : Records κ × ℤ :=
  let tmp := answers.tmp.apply (List.map (columns.setPlate central lpn transId)) records.tmp
  let numberOfRowsAffected := records.tmp.countP fun row =>
    central.isEqual row columns.sid transId
  if answers.tmp.code ≠ 0 then ({ records with tmp := tmp }, answers.tmp.code)
  else if numberOfRowsAffected > 0 then ({ records with tmp := tmp }, answers.tmp.code)
  else
    ({ records with
        tmp := tmp
        main := answers.main.apply (List.map (columns.setPlate central lpn transId)) records.main },
      answers.main.code)

end PlateColumns

/-! ## What the records should carry -/

/-- The plate of the last answer for a transaction id, or none; the history begins with what
came last. -/
def lastPlate (transId : String) : List (String × String) → String
  | [] => ""
  | (answered, plate) :: rest => if answered = transId then plate else lastPlate transId rest

/-- The plate in a column. -/
def plateOf : SqlValue → String
  | .null => ""
  | .text plate => plate

namespace PlateColumns

variable {κ τ : Type*} [DecidableEq κ] (columns : PlateColumns κ τ)

/-- Every record saved under an id carries the plate of the last answer for it. -/
structure Carried (types : ColumnTypes κ) (answers : List (String × String))
    (records : Records κ) : Prop where
  central : ∀ row ∈ records.tmp ++ records.main, ∀ transId, transId ≠ "" →
    row columns.sid = .text transId → plateOf (row columns.lpn) = lastPlate transId answers
  stored : ∀ row ∈ records.localTrans.rows, ∀ transId, transId ≠ "" →
    row.values columns.sid = .text transId →
      row.values columns.lpn = .text (lastPlate transId answers)
  uploaded : ∀ row ∈ records.uploaded, ∀ transId, transId ≠ "" →
    row.values columns.sid = .text transId → ∀ made, columns.kind.centralRow types row = some made →
      plateOf (made columns.lpn) = lastPlate transId answers

/-- An answer changes no record but those saved under its id. -/
structure OthersKept (transId : String) (before after : Records κ) : Prop where
  tmp : List.Forall₂ (fun row row' => row columns.sid ≠ .text transId → row' = row)
    before.tmp after.tmp
  main : List.Forall₂ (fun row row' => row columns.sid ≠ .text transId → row' = row)
    before.main after.main
  localTrans : after.localTrans = before.localTrans

/-- No record is saved under the id. -/
structure NoneSaved (transId : String) (records : Records κ) : Prop where
  central : ∀ row ∈ records.tmp ++ records.main, row columns.sid ≠ .text transId
  stored : ∀ row ∈ records.localTrans.rows, row.values columns.sid ≠ .text transId
  uploaded : ∀ row ∈ records.uploaded, row.values columns.sid ≠ .text transId

/-- The records saved under the id are in the central tables, and the statements reach them. -/
structure Reached (answers : UpdateAnswers) (transId : String) (records : Records κ) : Prop where
  tmp : ∀ row ∈ records.tmp, row columns.sid = .text transId → answers.tmp.Executed
  main : ∀ row ∈ records.main, row columns.sid = .text transId →
    answers.tmp = .done ∧ answers.main.Executed ∧
      ∀ other ∈ records.tmp, other columns.sid ≠ .text transId
  stored : ∀ row ∈ records.localTrans.rows, row.values columns.sid ≠ .text transId
  uploaded : ∀ row ∈ records.uploaded, row.values columns.sid ≠ .text transId

/-- The columns give back what was written, and the id is compared as a text. -/
structure ReadsBack (types central : ColumnTypes κ) : Prop where
  lpn : ∀ stored, types.print columns.lpn stored = stored
  sid : ∀ stored text, central.equal columns.sid stored text = true ↔ stored = text

end PlateColumns

/-! ## What an answer does to the records -/

theorem lastPlate_cons (transId answered plate : String) (answers : List (String × String)) :
    lastPlate transId ((answered, plate) :: answers) =
      if answered = transId then plate else lastPlate transId answers := rfl

/-- An answer that says what the last one said. -/
theorem lastPlate_repeated {answered plate : String} {answers : List (String × String)}
    (hrepeated : plate = lastPlate answered answers) (transId : String) :
    lastPlate transId ((answered, plate) :: answers) = lastPlate transId answers := by
  rw [lastPlate_cons]
  split
  · rename_i hsame
    rw [← hsame, hrepeated]
  · rfl

namespace PlateColumns

variable {κ τ : Type*} [DecidableEq κ] {columns : PlateColumns κ τ} {types central : ColumnTypes κ}
  {answers : List (String × String)} {lpn transId : String} {records after : Records κ}

variable (central lpn transId) in
theorem setPlate_sid (row : κ → SqlValue) :
    columns.setPlate central lpn transId row columns.sid = row columns.sid := by
  unfold setPlate
  split
  · exact Function.update_of_ne columns.sid_ne_lpn _ _
  · rfl

theorem setPlate_of_same (hreads : columns.ReadsBack types central) {row : κ → SqlValue}
    (hsame : row columns.sid = .text transId) :
    columns.setPlate central lpn transId row columns.lpn = .text lpn := by
  have hequal : central.isEqual row columns.sid transId = true := by
    unfold ColumnTypes.isEqual
    rw [hsame]
    exact (hreads.sid _ _).mpr rfl
  rw [setPlate, if_pos hequal, Function.update_self]

theorem setPlate_of_other (hreads : columns.ReadsBack types central) {row : κ → SqlValue}
    (hother : row columns.sid ≠ .text transId) :
    columns.setPlate central lpn transId row = row := by
  refine if_neg fun hequal => hother ?_
  unfold ColumnTypes.isEqual at hequal
  cases hsid : row columns.sid with
  | null => simp [hsid] at hequal
  | text stored =>
      rw [hsid] at hequal
      rw [(hreads.sid _ _).mp hequal]

theorem countP_sid (hreads : columns.ReadsBack types central) {rows : List (κ → SqlValue)}
    (hnone : ∀ row ∈ rows, row columns.sid ≠ .text transId) :
    rows.countP (fun row => central.isEqual row columns.sid transId) = 0 := by
  rw [List.countP_eq_zero]
  intro row hrow hequal
  unfold ColumnTypes.isEqual at hequal
  cases hsid : row columns.sid with
  | null => simp [hsid] at hequal
  | text stored =>
      rw [hsid] at hequal
      exact hnone row hrow (by rw [hsid, (hreads.sid _ _).mp hequal])

/-- A statement that is executed or not sets the plate of every row or of none. -/
theorem mem_apply_setPlate {outcome : SqlOutcome} {rows : List (κ → SqlValue)}
    {row' : κ → SqlValue}
    (hrow' : row' ∈ outcome.apply (List.map (columns.setPlate central lpn transId)) rows) :
    ∃ row ∈ rows, (outcome.Executed ∧ row' = columns.setPlate central lpn transId row) ∨
      (¬outcome.Executed ∧ row' = row) := by
  unfold SqlOutcome.apply at hrow'
  split at hrow'
  · rename_i hexecuted
    obtain ⟨row, hrow, rfl⟩ := List.mem_map.mp hrow'
    exact ⟨row, hrow, Or.inl ⟨hexecuted, rfl⟩⟩
  · rename_i hexecuted
    exact ⟨row', hrow', Or.inr ⟨hexecuted, rfl⟩⟩

/-- The records as the two statements leave them. -/
structure Updated (columns : PlateColumns κ τ) (central : ColumnTypes κ) (lpn transId : String)
    (before after : Records κ) : Prop where
  central : ∀ row' ∈ after.tmp ++ after.main, ∃ row ∈ before.tmp ++ before.main,
    row' = row ∨ row' = columns.setPlate central lpn transId row
  localTrans : after.localTrans = before.localTrans
  uploaded : after.uploaded = before.uploaded

theorem updated_updateTrans (outcomes : UpdateAnswers) :
    columns.Updated central lpn transId records
      (columns.updateTrans central outcomes lpn transId records).1 := by
  have htmp : ∀ row' ∈ outcomes.tmp.apply (List.map (columns.setPlate central lpn transId))
      records.tmp, ∃ row ∈ records.tmp ++ records.main,
        row' = row ∨ row' = columns.setPlate central lpn transId row := by
    intro row' hrow'
    obtain ⟨row, hrow, hset | hsame⟩ := mem_apply_setPlate hrow'
    · exact ⟨row, List.mem_append_left _ hrow, Or.inr hset.2⟩
    · exact ⟨row, List.mem_append_left _ hrow, Or.inl hsame.2⟩
  have hmain : ∀ row' ∈ records.main, ∃ row ∈ records.tmp ++ records.main,
      row' = row ∨ row' = columns.setPlate central lpn transId row :=
    fun row' hrow' => ⟨row', List.mem_append_right _ hrow', Or.inl rfl⟩
  unfold updateTrans
  simp only
  split
  · exact ⟨fun row' hrow' => (List.mem_append.mp hrow').elim (htmp row') (hmain row'), rfl, rfl⟩
  split
  · exact ⟨fun row' hrow' => (List.mem_append.mp hrow').elim (htmp row') (hmain row'), rfl, rfl⟩
  · refine ⟨fun row' hrow' => (List.mem_append.mp hrow').elim (htmp row') fun hrow' => ?_, rfl, rfl⟩
    obtain ⟨row, hrow, hset | hsame⟩ := mem_apply_setPlate hrow'
    · exact ⟨row, List.mem_append_right _ hrow, Or.inr hset.2⟩
    · exact ⟨row, List.mem_append_right _ hrow, Or.inl hsame.2⟩

/-- Where the statements reach every record of the id, all of them carry the new plate. -/
theorem plate_of_reached (hreads : columns.ReadsBack types central) {outcomes : UpdateAnswers}
    (hreached : columns.Reached outcomes transId records) {row' : κ → SqlValue}
    (hrow' : row' ∈ (columns.updateTrans central outcomes lpn transId records).1.tmp ++
      (columns.updateTrans central outcomes lpn transId records).1.main)
    (hsame : row' columns.sid = .text transId) : plateOf (row' columns.lpn) = lpn := by
  have hset {row : κ → SqlValue} (hrow : row columns.sid = .text transId) :
      plateOf (columns.setPlate central lpn transId row columns.lpn) = lpn := by
    rw [setPlate_of_same hreads hrow]
    rfl
  have htmp : row' ∈ outcomes.tmp.apply (List.map (columns.setPlate central lpn transId))
      records.tmp → plateOf (row' columns.lpn) = lpn := by
    intro hmem
    obtain ⟨row, hrow, ⟨-, rfl⟩ | ⟨hnot, rfl⟩⟩ := mem_apply_setPlate hmem
    · exact hset (by rw [← setPlate_sid central lpn transId row, hsame])
    · exact absurd (hreached.tmp _ hrow hsame) hnot
  have hmain : row' ∈ records.main → outcomes.tmp = .done ∧ outcomes.main.Executed ∧
      ∀ other ∈ records.tmp, other columns.sid ≠ .text transId :=
    fun hmem => hreached.main row' hmem hsame
  unfold updateTrans at hrow'
  simp only at hrow'
  split at hrow'
  · rename_i hcode
    rcases List.mem_append.mp hrow' with hmem | hmem
    · exact htmp hmem
    · exact absurd (SqlOutcome.code_eq_zero_iff.mpr (hmain hmem).1) hcode
  split at hrow'
  · rename_i hcount
    rcases List.mem_append.mp hrow' with hmem | hmem
    · exact htmp hmem
    · exact absurd hcount (by rw [countP_sid hreads (hmain hmem).2.2]; decide)
  · rcases List.mem_append.mp hrow' with hmem | hmem
    · exact htmp hmem
    · obtain ⟨row, hrow, ⟨-, rfl⟩ | ⟨hnot, rfl⟩⟩ := mem_apply_setPlate hmem
      · exact hset (by rw [← setPlate_sid central lpn transId row, hsame])
      · exact absurd (hmain hrow).2.1 hnot

/-- The records of other ids stay. -/
theorem othersKept_updateTrans (hreads : columns.ReadsBack types central)
    (outcomes : UpdateAnswers) :
    columns.OthersKept transId records
      (columns.updateTrans central outcomes lpn transId records).1 := by
  have hsame (rows : List (κ → SqlValue)) : List.Forall₂
      (fun row row' => row columns.sid ≠ .text transId → row' = row) rows rows :=
    List.forall₂_same.mpr fun _ _ _ => rfl
  have happly (outcome : SqlOutcome) (rows : List (κ → SqlValue)) : List.Forall₂
      (fun row row' => row columns.sid ≠ .text transId → row' = row) rows
        (outcome.apply (List.map (columns.setPlate central lpn transId)) rows) := by
    unfold SqlOutcome.apply
    split
    · rw [List.forall₂_map_right_iff]
      exact List.forall₂_same.mpr fun row _ hother => setPlate_of_other hreads hother
    · exact hsame rows
  unfold updateTrans
  simp only
  split
  · exact ⟨happly _ _, hsame _, rfl⟩
  split
  · exact ⟨happly _ _, hsame _, rfl⟩
  · exact ⟨happly _ _, happly _ _, rfl⟩

/-- An answer that finds every record of its id, or says what the last one said. -/
theorem Carried.answer (hreads : columns.ReadsBack types central)
    (hcarried : columns.Carried types answers records)
    (hupdated : columns.Updated central lpn transId records after)
    (hreached : transId ≠ "" → lpn = lastPlate transId answers ∨
      ((∀ row' ∈ after.tmp ++ after.main, row' columns.sid = .text transId →
          plateOf (row' columns.lpn) = lpn) ∧
        (∀ row ∈ records.localTrans.rows, row.values columns.sid ≠ .text transId) ∧
        ∀ row ∈ records.uploaded, row.values columns.sid ≠ .text transId)) :
    columns.Carried types ((transId, lpn) :: answers) after where
  central row' hrow' id hid hsame := by
    obtain ⟨row, hrow, hchange⟩ := hupdated.central row' hrow'
    have hsid : row columns.sid = .text id := by
      rcases hchange with rfl | rfl
      · exact hsame
      · rw [← setPlate_sid central lpn transId row, hsame]
    have hbefore := hcarried.central row hrow id hid hsid
    rw [lastPlate_cons]
    by_cases hanswered : transId = id
    · subst hanswered
      rw [if_pos rfl]
      rcases hreached hid with hrepeated | hfound
      · rcases hchange with rfl | rfl
        · rw [hbefore, hrepeated]
        · rw [setPlate_of_same hreads hsid]
          rfl
      · exact hfound.1 row' hrow' hsame
    · rw [if_neg hanswered]
      have hother : row columns.sid ≠ .text transId := fun h =>
        hanswered (SqlValue.text.inj (h.symm.trans hsid))
      rcases hchange with rfl | rfl
      · exact hbefore
      · rw [setPlate_of_other hreads hother]
        exact hbefore
  stored row hrow id hid hsame := by
    rw [hupdated.localTrans] at hrow
    rw [lastPlate_cons]
    by_cases hanswered : transId = id
    · subst hanswered
      rw [if_pos rfl]
      rcases hreached hid with hrepeated | hfound
      · rw [hrepeated]
        exact hcarried.stored row hrow transId hid hsame
      · exact absurd hsame (hfound.2.1 row hrow)
    · rw [if_neg hanswered]
      exact hcarried.stored row hrow id hid hsame
  uploaded row hrow id hid hsame := by
    rw [hupdated.uploaded] at hrow
    rw [lastPlate_cons]
    by_cases hanswered : transId = id
    · subst hanswered
      rw [if_pos rfl]
      rcases hreached hid with hrepeated | hfound
      · rw [hrepeated]
        exact hcarried.uploaded row hrow transId hid hsame
      · exact absurd hsame (hfound.2.2 row hrow)
    · rw [if_neg hanswered]
      exact hcarried.uploaded row hrow id hid hsame

/-- An answer for an id under which nothing is saved, or that says what the last one said. -/
theorem Carried.answer_none (hreads : columns.ReadsBack types central)
    (hcarried : columns.Carried types answers records)
    (hnone : transId ≠ "" →
      lpn = lastPlate transId answers ∨ columns.NoneSaved transId records) :
    columns.Carried types ((transId, lpn) :: answers) records :=
  hcarried.answer hreads ⟨fun row hrow => ⟨row, hrow, Or.inl rfl⟩, rfl, rfl⟩ fun hid =>
    (hnone hid).imp_right fun hsaved =>
      ⟨fun row hrow hsame => absurd hsame (hsaved.central row hrow), hsaved.stored, hsaved.uploaded⟩

/-- An answer that is written to the central tables. -/
theorem Carried.answer_updated (hreads : columns.ReadsBack types central)
    (hcarried : columns.Carried types answers records) {outcomes : UpdateAnswers}
    (hreached : transId ≠ "" →
      lpn = lastPlate transId answers ∨ columns.Reached outcomes transId records) :
    columns.Carried types ((transId, lpn) :: answers)
      (columns.updateTrans central outcomes lpn transId records).1 :=
  hcarried.answer hreads (updated_updateTrans outcomes) fun hid =>
    (hreached hid).imp_right fun hfound =>
      ⟨fun _ hrow' hsame => plate_of_reached hreads hfound hrow' hsame, hfound.stored,
        hfound.uploaded⟩

/-- A record is saved centrally with the plate of the last answer for its id. -/
theorem Carried.saveCentral (hcarried : columns.Carried types answers records)
    {row : κ → SqlValue} {gsTransID : String} (hsid : row columns.sid = .text gsTransID)
    (hplate : gsTransID ≠ "" → plateOf (row columns.lpn) = lastPlate gsTransID answers) :
    columns.Carried types answers { records with tmp := records.tmp ++ [row] } where
  central row' hrow' id hid hsame := by
    rcases List.mem_append.mp hrow' with htmp | hmain
    · rcases List.mem_append.mp htmp with hold | hnew
      · exact hcarried.central row' (List.mem_append_left _ hold) id hid hsame
      · obtain rfl := List.mem_singleton.mp hnew
        obtain rfl : gsTransID = id := SqlValue.text.inj (hsid.symm.trans hsame)
        exact hplate hid
    · exact hcarried.central row' (List.mem_append_right _ hmain) id hid hsame
  stored := hcarried.stored
  uploaded := hcarried.uploaded

/-- A record is saved locally with the plate of the last answer for its id. -/
theorem Carried.saveLocal (hcarried : columns.Carried types answers records)
    {values : κ → SqlValue} {gsTransID : String} (hsid : values columns.sid = .text gsTransID)
    (hplate : gsTransID ≠ "" → values columns.lpn = .text (lastPlate gsTransID answers)) :
    columns.Carried types answers
      { records with localTrans := records.localTrans.insert values } where
  central := hcarried.central
  stored row hrow id hid hsame := by
    rcases List.mem_append.mp hrow with hold | hnew
    · exact hcarried.stored row hold id hid hsame
    · obtain rfl := List.mem_singleton.mp hnew
      obtain rfl : gsTransID = id := SqlValue.text.inj (hsid.symm.trans hsame)
      exact hplate hid
  uploaded := hcarried.uploaded

/-- An upload takes the plates along. -/
theorem Carried.upload (hreads : columns.ReadsBack types central)
    (hcarried : columns.Carried types answers records) {sent : List (LocalRow κ)}
    {localTrans : LocalTable κ} (hsent : ∀ row ∈ sent, row ∈ records.localTrans.rows)
    (hlocal : ∀ row ∈ localTrans.rows, row ∈ records.localTrans.rows) :
    columns.Carried types answers
      { records with
        tmp := records.tmp ++ sent.filterMap (columns.kind.centralRow types)
        localTrans := localTrans
        uploaded := records.uploaded ++ sent } where
  central row' hrow' id hid hsame := by
    rcases List.mem_append.mp hrow' with htmp | hmain
    · rcases List.mem_append.mp htmp with hold | hnew
      · exact hcarried.central row' (List.mem_append_left _ hold) id hid hsame
      · obtain ⟨row, -, hmade⟩ := List.mem_filterMap.mp hnew
        obtain ⟨record, -, rfl⟩ := Option.map_eq_some_iff.mp hmade
        -- an uploaded record has no id
        rw [columns.upload_sid record] at hsame
        cases hsame
    · exact hcarried.central row' (List.mem_append_right _ hmain) id hid hsame
  stored row hrow := hcarried.stored row (hlocal row hrow)
  uploaded row hrow id hid hsame made hmade := by
    rcases List.mem_append.mp hrow with hold | hnew
    · exact hcarried.uploaded row hold id hid hsame made hmade
    · obtain ⟨record, hread, rfl⟩ := Option.map_eq_some_iff.mp hmade
      have hstored := hcarried.stored row (hsent row hnew) id hid hsame
      rw [columns.upload_lpn _ record hread, ColumnTypes.getDataItem, hstored]
      exact hreads.lpn _

/-- The server moves the rows into the other table. -/
theorem Carried.transfer (hcarried : columns.Carried types answers records) :
    columns.Carried types answers
      { records with tmp := [], main := records.main ++ records.tmp } where
  central row' hrow' := by
    refine hcarried.central row' ?_
    rcases List.mem_append.mp hrow' with hnone | hmem
    · exact absurd hnone List.not_mem_nil
    · rcases List.mem_append.mp hmem with hmain | htmp
      · exact List.mem_append_right _ hmain
      · exact List.mem_append_left _ htmp
  stored := hcarried.stored
  uploaded := hcarried.uploaded

end PlateColumns

/-! ## What an upload does to the records -/

/-- A run of the upload neither adds local rows nor sends others than them. -/
theorem UploadKind.move_rows {κ τ : Type*} [DecidableEq κ] {kind : UploadKind κ τ}
    {types : ColumnTypes κ} (ordering : Ordering κ) (answers : MoveAnswers) {run : Uploading κ}
    (huploaded : run.uploaded = []) :
    (∀ row ∈ (kind.move types ordering answers run).uploaded, row ∈ run.localTrans.rows) ∧
      ∀ row ∈ (kind.move types ordering answers run).localTrans.rows,
        row ∈ run.localTrans.rows := by
  constructor
  · intro row hrow
    obtain ⟨-, -, -, -, hreached, -⟩ :=
      (mem_move_uploaded_iff ordering answers huploaded row).mp hrow
    exact (ordering.perm _).mem_iff.mp ((List.takeWhile_sublist _).subset hreached)
  · intro row hrow
    unfold move at hrow
    split at hrow
    · exact hrow
    · split at hrow
      · exact hrow
      · split at hrow
        · exact hrow
        · simp only at hrow
          split at hrow
          · exact hrow
          · have hmem := mem_of_mem_uploadRows hrow
            exact hmem

/-- What an upload does to the rows of the two local tables. -/
theorem move_rows (databases : StationDatabases) (answers : MoveAnswers) (state : State) :
    ((∀ row ∈ (databases.move answers state).uploadedEntries, row ∈ state.entryTrans.rows) ∧
        ∀ row ∈ (databases.move answers state).state.entryTrans.rows,
          row ∈ state.entryTrans.rows) ∧
      (∀ row ∈ (databases.move answers state).uploadedExits, row ∈ state.exitTrans.rows) ∧
        ∀ row ∈ (databases.move answers state).state.exitTrans.rows,
          row ∈ state.exitTrans.rows := by
  unfold StationDatabases.move moveOfflineTransToCentral
  cases state.operation with
  | none => simp
  | some data =>
      cases hstation : data.stationType with
      | tientry =>
          simp only [hstation, State.updateProcess]
          exact ⟨UploadKind.move_rows _ _ rfl, by simp, fun _ hrow => hrow⟩
      | tiExit =>
          simp only [hstation, State.updateProcess]
          exact ⟨⟨by simp, fun _ hrow => hrow⟩, UploadKind.move_rows _ _ rfl⟩
      | tiAPS => simp [hstation]

/-! ## What a save does to the records -/

/-- A save puts a record with the id and a plate into one of two tables, or into none. -/
inductive SavesPlate {κ τ : Type*} [DecidableEq κ] (columns : PlateColumns κ τ)
    (gsTransID plate : String) (before : Records κ) : Records κ → Prop
  | nothing : SavesPlate columns gsTransID plate before before
  | central (row : κ → SqlValue) (hsid : row columns.sid = .text gsTransID)
      (hplate : plateOf (row columns.lpn) = plate) :
      SavesPlate columns gsTransID plate before { before with tmp := before.tmp ++ [row] }
  | offline (values : κ → SqlValue) (hsid : values columns.sid = .text gsTransID)
      (hplate : values columns.lpn = .text plate) :
      SavesPlate columns gsTransID plate before
        { before with localTrans := before.localTrans.insert values }

theorem PlateColumns.Carried.save {κ τ : Type*} [DecidableEq κ] {columns : PlateColumns κ τ}
    {types : ColumnTypes κ} {answers : List (String × String)} {before after : Records κ}
    {gsTransID plate : String} (hcarried : columns.Carried types answers before)
    (hsave : SavesPlate columns gsTransID plate before after)
    (hplate : gsTransID ≠ "" → plate = lastPlate gsTransID answers) :
    columns.Carried types answers after := by
  cases hsave with
  | nothing => exact hcarried
  | central row hsid hrow =>
      exact hcarried.saveCentral hsid fun hid => hrow.trans (hplate hid)
  | offline values hsid hvalues =>
      exact hcarried.saveLocal hsid fun hid => hvalues.trans (congrArg _ (hplate hid))

theorem plateOf_centralEntryInsert (transId lprNo : String) (tEntry : TEntryTrans) :
    plateOf (insertedRow (centralEntryInsert transId lprNo tEntry) .lpn) = lprNo := by
  unfold centralEntryInsert
  by_cases hlpr : lprNo = ""
  · rw [hlpr]
    rfl
  · rw [if_pos hlpr]
    rfl

/-- An entry is saved with the plate `insertentrytrans` chooses. -/
theorem insertEntryTrans_savesPlate (now : String) (centraldb localdb : ConnectionAnswers)
    {state : State} {data : OperationSharedData} (hdata : state.operation = some data)
    (tEntry : TEntryTrans) (main : List (EntryColumn → SqlValue))
    (uploaded : List (LocalRow EntryColumn)) :
    SavesPlate entryPlates data.tProcess.gsTransID (lprNumber tEntry)
      ⟨state.entryTransTmp, main, state.entryTrans, uploaded⟩
      ⟨(insertEntryTrans now centraldb localdb state tEntry).1.entryTransTmp, main,
        (insertEntryTrans now centraldb localdb state tEntry).1.entryTrans, uploaded⟩ := by
  have hoffline : SavesPlate entryPlates data.tProcess.gsTransID (lprNumber tEntry)
      ⟨state.entryTransTmp, main, state.entryTrans, uploaded⟩
      ⟨state.entryTransTmp, main, state.entryTrans.insert (insertedRow (localEntryInsert
        data.tProcess.gsTransID (lprNumber tEntry) (prepareEntry now tEntry))), uploaded⟩ :=
    .offline _ rfl rfl
  have honline : SavesPlate entryPlates data.tProcess.gsTransID (lprNumber tEntry)
      ⟨state.entryTransTmp, main, state.entryTrans, uploaded⟩
      ⟨state.entryTransTmp ++ [insertedRow (centralEntryInsert data.tProcess.gsTransID
        (lprNumber tEntry) (prepareEntry now tEntry))], main, state.entryTrans, uploaded⟩ :=
    .central _ rfl (plateOf_centralEntryInsert _ _ _)
  unfold insertEntryTrans
  rw [hdata]
  simp only
  split
  · unfold insertEntryLocal
    split
    · exact .nothing
    · by_cases hexecuted : localdb.insert.Executed
      · simp only [SqlOutcome.apply_of_executed hexecuted]
        split <;> exact hoffline
      · simp only [SqlOutcome.apply_of_not_executed hexecuted]
        split <;> exact .nothing
  · by_cases hexecuted : centraldb.insert.Executed
    · simp only [insertEntryCentral, SqlOutcome.apply_of_executed hexecuted]
      exact honline
    · simp only [insertEntryCentral, SqlOutcome.apply_of_not_executed hexecuted]
      exact .nothing

/-- An exit is saved with the plate of its OBU. -/
theorem insertExitTrans_savesPlate (centraldb localdb : ConnectionAnswers) {state : State}
    {data : OperationSharedData} (hdata : state.operation = some data) (exitTrans : TExitTrans)
    (main : List (ExitColumn → SqlValue)) (uploaded : List (LocalRow ExitColumn)) :
    SavesPlate exitPlates data.tProcess.gsTransID exitTrans.lpn
      ⟨state.exitTransTmp, main, state.exitTrans, uploaded⟩
      ⟨(insertExitTrans centraldb localdb state exitTrans).1.exitTransTmp, main,
        (insertExitTrans centraldb localdb state exitTrans).1.exitTrans, uploaded⟩ := by
  have hlpn : (clampParkedTime (formatExit exitTrans)).lpn = exitTrans.lpn := by
    unfold clampParkedTime
    split <;> rfl
  have hoffline : SavesPlate exitPlates data.tProcess.gsTransID exitTrans.lpn
      ⟨state.exitTransTmp, main, state.exitTrans, uploaded⟩
      ⟨state.exitTransTmp, main, state.exitTrans.insert (insertedRow (localExitInsert
        data.tProcess.gsTransID (formatExit exitTrans))), uploaded⟩ :=
    .offline _ rfl rfl
  have honline : SavesPlate exitPlates data.tProcess.gsTransID exitTrans.lpn
      ⟨state.exitTransTmp, main, state.exitTrans, uploaded⟩
      ⟨state.exitTransTmp ++ [insertedRow (centralExitInsert data.tProcess.gsTransID
        (clampParkedTime (formatExit exitTrans)))], main, state.exitTrans, uploaded⟩ :=
    .central _ rfl hlpn
  unfold insertExitTrans
  rw [hdata]
  simp only
  split
  · unfold insertExitLocal
    split
    · exact .nothing
    · by_cases hexecuted : localdb.insert.Executed
      · simp only [SqlOutcome.apply_of_executed hexecuted]
        split <;> exact hoffline
      · simp only [SqlOutcome.apply_of_not_executed hexecuted]
        split <;> exact .nothing
  · by_cases hexecuted : centraldb.insert.Executed
    · simp only [insertExitCentral, SqlOutcome.apply_of_executed hexecuted]
      exact honline
    · simp only [insertExitCentral, SqlOutcome.apply_of_not_executed hexecuted]
      exact .nothing

/-- An entry leaves the exits alone. -/
theorem insertEntryTrans_exits (now : String) (centraldb localdb : ConnectionAnswers)
    (state : State) (tEntry : TEntryTrans) :
    (insertEntryTrans now centraldb localdb state tEntry).1.exitTransTmp = state.exitTransTmp ∧
      (insertEntryTrans now centraldb localdb state tEntry).1.exitTrans = state.exitTrans := by
  refine ⟨?_, (insertEntryTrans_tables now centraldb localdb state tEntry).2⟩
  unfold insertEntryTrans
  cases state.operation with
  | none => rfl
  | some data =>
      simp only
      split
      · unfold insertEntryLocal
        split
        · rfl
        · simp only
          split <;> rfl
      · rfl

/-- An exit leaves the entries alone. -/
theorem insertExitTrans_entries (centraldb localdb : ConnectionAnswers) (state : State)
    (exitTrans : TExitTrans) :
    (insertExitTrans centraldb localdb state exitTrans).1.entryTransTmp = state.entryTransTmp ∧
      (insertExitTrans centraldb localdb state exitTrans).1.entryTrans = state.entryTrans := by
  refine ⟨?_, (insertExitTrans_tables centraldb localdb state exitTrans).1⟩
  unfold insertExitTrans
  cases state.operation with
  | none => rfl
  | some data =>
      simp only
      split
      · unfold insertExitLocal
        split
        · rfl
        · simp only
          split <;> rfl
      · rfl

end LinuxPBS.Db
