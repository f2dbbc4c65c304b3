import LinuxPBS.Operation.Remembered
import LinuxPBS.Library.Machine

/-!
# Discount tickets

The central database has two tables of tickets, `complimentary` and `redemption`.  A
ticket is unused while its `exit_time` is NULL.  Three functions look at the tables:

```text
HasValidTicket          CalFeeRAM, for the IU or the plate   SELECT the unused tickets
isValidBarCodeTicket    ticketScan, for the number           SELECT the ticket
updateUsedTicket        SaveExit                             UPDATE the ticket
```

The tables belong to all the exits of a car park.  `tickets_spent_once` follows any number
of them, and says when a ticket is spent exactly once: the exit that a ticket reduces must
be stored centrally, the `UPDATE` must reach the database and name that ticket, and no
second exit may have found the ticket in the meantime.
-/

namespace LinuxPBS.Operation

open Handler CxxText Common Db

/-! ## The tables -/

inductive TicketKind
  | complimentary
  | redemption
  deriving DecidableEq, Repr

/-- A row of one of the two tables; points in time are seconds. -/
structure TicketRow where
  /-- `complimentary_no` or `redeem_no`, the key -/
  no : String
  IU : String := ""
  LPN : String := ""
  valid_from : ℤ := 0
  valid_to : ℤ := 0
  redeem_amt : String := "0"
  redeem_time : String := "0"
  /-- a point in time, NULL until the ticket is used; `redeem_dt` in `Redemption_view` -/
  exit_time : SqlValue := .null
  deriving DecidableEq

/-- The two tables. -/
abbrev TicketTables := TicketKind → List TicketRow

/-- A ticket, by its number. -/
@[ext] structure Ticket where
  kind : TicketKind
  no : String
  deriving DecidableEq

/-- An unused ticket with this number is in the tables. -/
def Unused (tables : TicketTables) (ticket : Ticket) : Prop :=
  ∃ row ∈ tables ticket.kind, row.no = ticket.no ∧ row.exit_time = .null

/-- The ticket is in the tables, and it is marked as used. -/
def Marked (tables : TicketTables) (ticket : Ticket) : Prop :=
  ∃ row ∈ tables ticket.kind, row.no = ticket.no ∧ row.exit_time ≠ .null

/-! ## The statements -/

/-- The kind of a ticket that is looked for. -/
def ticketKind (isRedemptionTicket : Bool) : TicketKind :=
  if isRedemptionTicket then .redemption else .complimentary

/-- `isValidBarCodeTicket` -/
def isValidBarCodeTicket (tables : TicketTables) (now : ℤ) (reachable isRedemptionTicket : Bool)
    (barcodeTicket : String) : BarCodeAnswer :=
  if reachable = false then { iRet := -1 }
  else
    match (tables (ticketKind isRedemptionTicket)).find? fun row => row.no = barcodeTicket with
    | none => { iRet := 4 }
    | some row =>
        let resultCode := if row.exit_time = .null then
            if now < row.valid_from then 6 else if row.valid_to < now then 0 else 1
          else 2
        if resultCode = 1 ∧ isRedemptionTicket then
          match stof row.redeem_amt, stoi row.redeem_time with
          | some redeemAmount, some redeemTime => { iRet := 1, redeemAmount, redeemTime }
          | _, _ => { iRet := -1 }
        else { iRet := resultCode }

/-- The `WHERE` of `HasValidTicket`. -/
def matchesTicket (now : ℤ) (iuNo lpn : String) (row : TicketRow) : Bool :=
  decide (row.valid_from ≤ now) && decide (row.valid_to ≥ now) &&
    (if iuNo ≠ "" then decide (row.IU = iuNo) else decide (row.LPN = lpn)) &&
    decide (row.exit_time = .null)

/-- The first row of a query of `HasValidTicket`. -/
def firstTicket (rows : List TicketRow) (now : ℤ) (iuNo lpn : String) : Option TicketRow :=
  ((rows.filter (matchesTicket now iuNo lpn)).mergeSort
    fun row other => decide (row.valid_to ≤ other.valid_to)).head?

/-- The two queries of `HasValidTicket`; `reachable` is about either of them. -/
def ticketQueries (tables : TicketTables) (now : ℤ) (reachable : Bool × Bool)
    (iuNo lpn : String) : TicketAnswer where
  complimentary :=
    if reachable.1 then some ((firstTicket (tables .complimentary) now iuNo lpn).map (·.no))
    else none
  redemption :=
    if reachable.2 then
      some ((firstTicket (tables .redemption) now iuNo lpn).map fun row =>
        ⟨row.no, row.redeem_amt, row.redeem_time⟩)
    else none

/-- The ticket `updateUsedTicket` is about. -/
def usedTicket (exitTrans : TExit) : Ticket :=
  if exitTrans.iTransType = 10 then ⟨.complimentary, exitTrans.sCardNo⟩
  else ⟨.redemption, exitTrans.sRedeemNo⟩

/-- The `UPDATE` of `updateUsedTicket`. -/
def updateUsedTicket (exitTrans : TExit) (tables : TicketTables) : TicketTables := fun kind =>
  if kind = (usedTicket exitTrans).kind then
    (tables kind).map fun row =>
      if row.no = (usedTicket exitTrans).no then { row with exit_time := .text exitTrans.sExitTime }
      else row
  else tables kind

/-! ## Where a ticket is applied -/

/-- The ticket `HasValidTicket` finds. -/
def foundTicket (answer : TicketAnswer) : Option Ticket :=
  match answer.complimentary with
  | none => none
  | some (some complimentaryNo) => some ⟨.complimentary, complimentaryNo⟩
  | some none =>
      match answer.redemption with
      | some (some row) =>
          match stof row.redeem_amt, stoi row.redeem_time with
          | some _, some _ => some ⟨.redemption, row.redeem_no⟩
          | _, _ => none
      | _ => none

/-- The ticket `CalFeeRAM` applies. -/
def noticedTicket (eTime payTime : String) (iTransType : ℤ) (s : Station) : Option Ticket :=
  if s.env.calFeeRAM2G s.asked eTime payTime iTransType ≥ 1 / 100 ∧ s.tExit.sRedeemAmt = 0 ∧
      s.tExit.iRedeemTime = 0 ∧ s.tExit.sIUNo.length = 10 then
    (foundTicket (s.env.hasValidTicket (s.asked + 1) s.tExit.sIUNo "")).or
      (if s.tExit.sLPN0 ≠ "" ∧ s.tExit.sLPN0 ≠ "0000000000" then
        foundTicket (s.env.hasValidTicket (s.asked + 2) "" s.tExit.sLPN0)
      else none)
  else none

/-- What `ticketScan` notes of a valid ticket. -/
def noteTicket (ticket : TicketNo) (answer : BarCodeAnswer) (tExit : TExit) : TExit :=
  let noted := { tExit with sRedeemNo := ticket.sCardTkNo }
  if ticket.isRedemptionTicket then
    if answer.redeemTime > 0 then { noted with iRedeemTime := answer.redeemTime }
    else { noted with sRedeemAmt := gfeeFormat answer.redeemAmount }
  else noted

/-- The exit carries the ticket in the fields of its kind. -/
def Carries (tExit : TExit) (ticket : Ticket) : Prop :=
  match ticket.kind with
  | .complimentary => tExit.iTransType = 10 ∧ tExit.sCardNo = ticket.no
  | .redemption => tExit.sRedeemNo = ticket.no

/-! ### The code applies what it finds -/

/-- `HasValidTicket` writes the ticket it finds into the exit, and nothing otherwise. -/
theorem hasValidTicket_found (answer : TicketAnswer) (tExit : TExit) :
    (foundTicket answer = none ∧ hasValidTicket answer tExit = (tExit, -1)) ∨
      ∃ ticket, foundTicket answer = some ticket ∧ (hasValidTicket answer tExit).2 = 0 ∧
        Carries (hasValidTicket answer tExit).1 ticket := by
  unfold foundTicket hasValidTicket
  rcases answer with ⟨_ | _ | complimentaryNo, redemption⟩
  · exact Or.inl ⟨rfl, rfl⟩
  · rcases redemption with _ | _ | row
    · exact Or.inl ⟨rfl, rfl⟩
    · exact Or.inl ⟨rfl, rfl⟩
    · dsimp only
      cases stof row.redeem_amt with
      | none => exact Or.inl ⟨rfl, rfl⟩
      | some redeemAmount =>
          cases stoi row.redeem_time with
          | none => exact Or.inl ⟨rfl, rfl⟩
          | some redeemTime => exact Or.inr ⟨_, rfl, rfl, rfl⟩
  · exact Or.inr ⟨_, rfl, rfl, rfl, rfl⟩

theorem lookForTicket_none {s : Station} {iuNo lpn : String}
    (hnone : foundTicket (s.env.hasValidTicket s.asked iuNo lpn) = none) (usedBy : ℤ) :
    lookForTicket iuNo lpn usedBy s = .ok false { s with asked := s.asked + 1 } := by
  rcases hasValidTicket_found (s.env.hasValidTicket s.asked iuNo lpn) s.tExit with
    ⟨-, hanswer⟩ | ⟨ticket, hfound, -⟩
  · unfold lookForTicket
    rw [ask_bind, get_bind, modify_bind]
    simp only [hanswer]
    rfl
  · rw [hnone] at hfound
    simp at hfound

theorem lookForTicket_some {s : Station} {iuNo lpn : String} {ticket : Ticket}
    (hfound : foundTicket (s.env.hasValidTicket s.asked iuNo lpn) = some ticket) (usedBy : ℤ) :
    ∃ s', lookForTicket iuNo lpn usedBy s = .ok true s' ∧ Carries s'.tExit ticket := by
  rcases hasValidTicket_found (s.env.hasValidTicket s.asked iuNo lpn) s.tExit with
    ⟨hnone, -⟩ | ⟨ticket', hfound', hret, hcarries⟩
  · rw [hnone] at hfound
    simp at hfound
  · obtain rfl : ticket' = ticket := Option.some.inj (hfound'.symm.trans hfound)
    unfold lookForTicket
    rw [ask_bind, get_bind, modify_bind]
    simp only [hret, decide_true, if_true]
    exact ⟨_, rfl, hcarries⟩

/-- `CalFeeRAM` applies the noticed ticket, and otherwise leaves the exit as it is. -/
theorem after_calFeeRAM (eTime payTime : String) (iTransType : ℤ) (s : Station) :
    match noticedTicket eTime payTime iTransType s with
    | none => (after (calFeeRAM eTime payTime iTransType) s).tExit = s.tExit
    | some ticket => Carries (after (calFeeRAM eTime payTime iTransType) s).tExit ticket := by
  unfold noticedTicket calFeeRAM
  rw [after_ask_bind, after_get_bind]
  dsimp only
  by_cases hdue : s.env.calFeeRAM2G s.asked eTime payTime iTransType ≥ 1 / 100 ∧
      s.tExit.sRedeemAmt = 0 ∧ s.tExit.iRedeemTime = 0
  · rw [if_pos hdue]
    by_cases hlength : s.tExit.sIUNo.length = 10
    · rw [if_pos hlength, if_pos ⟨hdue.1, hdue.2.1, hdue.2.2, hlength⟩]
      cases hIU : foundTicket (s.env.hasValidTicket (s.asked + 1) s.tExit.sIUNo "") with
      | some ticket =>
          obtain ⟨s', hok, hcarries⟩ :=
            lookForTicket_some (s := { s with asked := s.asked + 1 }) hIU 2
          rw [after_bind_of_ok hok, after_get_bind]
          exact hcarries
      | none =>
          rw [after_bind_of_ok
            (lookForTicket_none (s := { s with asked := s.asked + 1 }) hIU 2), after_get_bind]
          dsimp only
          by_cases hplate : s.tExit.sLPN0 ≠ "" ∧ s.tExit.sLPN0 ≠ "0000000000"
          · rw [if_pos hplate, if_pos ⟨rfl, hplate⟩, Option.none_or]
            cases hLPN : foundTicket (s.env.hasValidTicket (s.asked + 2) "" s.tExit.sLPN0) with
            | some ticket =>
                obtain ⟨s', hok, hcarries⟩ :=
                  lookForTicket_some (s := { s with asked := s.asked + 2 }) hLPN 3
                rw [after_bind_of_ok hok]
                exact hcarries
            | none =>
                rw [after_bind_of_ok
                  (lookForTicket_none (s := { s with asked := s.asked + 2 }) hLPN 3)]
                rfl
          · rw [if_neg hplate, if_neg fun h => hplate h.2]
            rfl
    · rw [if_neg hlength, if_neg fun h => hlength h.2.2.2]
      rfl
  · rw [if_neg hdue, if_neg fun h => hdue ⟨h.1, h.2.1, h.2.2.1⟩]
    rfl

/-- `ticketScan` goes on with the exit in which the ticket has been noted. -/
theorem after_useTicket (enableCashcard : Bool → Op Unit) {skeyedNo : String} {ticket : TicketNo}
    {s : Station} {answer : BarCodeAnswer} (haccepted : ticket.isRefused = false)
    (hlength : ticket.sCardTkNo.length ∈ [9, 12, 15])
    (hanswer : s.env.isValidBarCodeTicket s.asked ticket.isRedemptionTicket skeyedNo = answer)
    (hvalid : answer.iRet = 1) :
    after (useTicket enableCashcard skeyedNo ticket) s =
      after (if ticket.isRedemptionTicket then
          redeemTicket enableCashcard ticket.sCardTkNo answer
        else complimentaryTicket enableCashcard ticket.sCardTkNo)
        { s with asked := s.asked + 1, tExit := noteTicket ticket answer s.tExit } := by
  have hlong : ¬(ticket.sCardTkNo.length ≠ 9 ∧ ticket.sCardTkNo.length ≠ 12 ∧
      ticket.sCardTkNo.length ≠ 15) := by
    simp only [List.mem_cons, List.not_mem_nil, or_false] at hlength
    omega
  have haccepts : ¬ticket.isRefused = true := by simp [haccepted]
  rw [useTicket, if_neg haccepts, if_neg hlong, after_ask_bind, hanswer, if_pos hvalid,
    after_modify_bind]
  unfold noteTicket
  by_cases hkind : ticket.isRedemptionTicket = true
  · simp only [if_pos hkind]
    unfold redeemTicket
    by_cases htime : answer.redeemTime > 0
    · simp only [if_pos htime]
      rfl
    · simp only [if_neg htime]
      rfl
  · simp only [if_neg hkind]

/-! ## The exits of a car park -/

/-- An exit, and the numbers of the tickets that have been applied to its vehicle. -/
structure ExitLane where
  station : Station
  held : TicketKind → Option String := fun _ => none

namespace ExitLane

/-- A ticket of the lane. -/
def Holds (lane : ExitLane) (ticket : Ticket) : Prop := lane.held ticket.kind = some ticket.no

instance (lane : ExitLane) (ticket : Ticket) : Decidable (lane.Holds ticket) :=
  inferInstanceAs (Decidable (_ = _))

/-- A ticket of this kind reduces or cancels the fee when the exit is saved. -/
def Reduces (s : Station) : TicketKind → Prop
  | .complimentary => s.tExit.iTransType = 10 ∧ gfeeFormat (amountDue s.tExit) > 0
  | .redemption => gfeeFormat (gfeeFormat (settleExit s).sRedeemAmt) > 0

instance (s : Station) : DecidablePred (Reduces s)
  | .complimentary => inferInstanceAs (Decidable (_ ∧ _))
  | .redemption => inferInstanceAs (Decidable (_ > _))

/-- The tickets that reduce or cancel the fee of the exit when it is saved. -/
def spent (lane : ExitLane) : List Ticket :=
  [.complimentary, .redemption].filterMap fun kind =>
    if Reduces lane.station kind then (lane.held kind).map (⟨kind, ·⟩) else none

end ExitLane

/-- An exit that has been stored. -/
structure SavedExit where
  /-- the tickets that reduced or cancelled its fee -/
  spent : List Ticket
  /-- the tickets that were marked as used for it -/
  marks : List Ticket

/-- Exits that share the tables of tickets. -/
structure CarPark (ι : Type*) where
  tables : TicketTables
  lanes : ι → ExitLane
  /-- the stored exits, the oldest first -/
  saved : List SavedExit := []

/-- What happens to tickets and exits. -/
inductive TicketEvent (ι : Type*)
  /-- the office adds a ticket -/
  | issue (kind : TicketKind) (row : TicketRow)
  /-- `CalFeeRAM`; which queries reach the database may differ from one to the next -/
  | calFee (lane : ι) (now : ℤ) (reachable : ℕ → Bool × Bool) (eTime payTime : String)
      (iTransType : ℤ)
  /-- `ticketScan` looks the ticket up -/
  | scan (lane : ι) (now : ℤ) (reachable : Bool) (skeyedNo : String)
  /-- anything else that the station does with the exit -/
  | work (lane : ι) (change : Station → Station)
  /-- `SaveExit`, and the outcome of the `UPDATE` of `updateUsedTicket` -/
  | save (lane : ι) (update : SqlOutcome)
  /-- `Clearme` -/
  | clear (lane : ι)

namespace CarPark

variable {ι : Type*} [DecidableEq ι]

/-- Give a lane its ticket. -/
def hold (lane : ExitLane) (ticket : Option Ticket) : TicketKind → Option String :=
  match ticket with
  | none => lane.held
  | some ticket => Function.update lane.held ticket.kind (some ticket.no)

/-- The tables answer `HasValidTicket`. -/
def answering (tables : TicketTables) (now : ℤ) (reachable : ℕ → Bool × Bool) (s : Station) :
    Station :=
  { s with env.hasValidTicket := fun n => ticketQueries tables now (reachable n) }

/-- `CalFeeRAM` in one of the lanes. -/
def calFeeLane (tables : TicketTables) (now : ℤ) (reachable : ℕ → Bool × Bool)
    (eTime payTime : String) (iTransType : ℤ) (lane : ExitLane) : ExitLane :=
  let s := answering tables now reachable lane.station
  { station := after (calFeeRAM eTime payTime iTransType) s
    held := hold lane (noticedTicket eTime payTime iTransType s) }

/-- `ticketScan` in one of the lanes, up to the ticket. -/
def scanLane (tables : TicketTables) (now : ℤ) (reachable : Bool) (skeyedNo : String)
    (lane : ExitLane) : ExitLane :=
  let ticket := readTicketNo lane.station.tParas.giExitTicketRedemption skeyedNo
  let answer := isValidBarCodeTicket tables now reachable ticket.isRedemptionTicket skeyedNo
  if lane.station.tExit.sRedeemAmt > 0 ∨ ticket.isRefused ∨
      ticket.sCardTkNo.length ∉ [9, 12, 15] ∨ answer.iRet ≠ 1 then lane
  else
    { station := { lane.station with tExit := noteTicket ticket answer lane.station.tExit }
      held := hold lane (some ⟨ticketKind ticket.isRedemptionTicket, skeyedNo⟩) }

/-- `SaveExit` of `s` comes to the `UPDATE`, and it is executed. -/
def MarksUsed (s : Station) (update : SqlOutcome) : Prop :=
  exitAnswer s = .iCentralSuccess ∧ MarksTicket s ∧ update.Executed

instance (s : Station) (update : SqlOutcome) : Decidable (MarksUsed s update) :=
  inferInstanceAs (Decidable (_ ∧ _ ∧ _))

/-- The tickets an `UPDATE` marks: one, if it is in the table. -/
def markedBy (tables : TicketTables) (exitTrans : TExit) : List Ticket :=
  if (tables (usedTicket exitTrans).kind).any (·.no = (usedTicket exitTrans).no) then
    [usedTicket exitTrans]
  else []

/-- What `SaveExit` makes of the tables. -/
def savedTables (s : Station) (update : SqlOutcome) (tables : TicketTables) : TicketTables :=
  if MarksUsed s update then updateUsedTicket s.tExit tables else tables

/-- The station behind `SaveExit`. -/
def savedStation (update : SqlOutcome) (s : Station) : Station :=
  after saveExit { s with
    env.updateUsedTicket := fun _ =>
      if update.code = 0 then .iCentralSuccess else .iCentralFail }

/-- `SaveExit` in one of the lanes. -/
def saveLane (lane : ι) (update : SqlOutcome) (park : CarPark ι) : CarPark ι :=
  let s := (park.lanes lane).station
  if s.tExit.sIUNo = "" then park
  else
    { tables := savedTables s update park.tables
      lanes := Function.update park.lanes lane { park.lanes lane with
        station := savedStation update s }
      saved := if Succeeds (exitAnswer s) then
          park.saved ++ [{
            spent := (park.lanes lane).spent
            marks := if MarksUsed s update then markedBy park.tables s.tExit else [] }]
        else park.saved }

/-- Change one of the lanes. -/
def onLane (lane : ι) (change : ExitLane → ExitLane) (park : CarPark ι) : CarPark ι :=
  { park with lanes := Function.update park.lanes lane (change (park.lanes lane)) }

/-- One event. -/
def step (park : CarPark ι) : TicketEvent ι → CarPark ι
  | .issue kind row =>
      if (park.tables kind).any (·.no = row.no) then park
      else { park with
        tables := Function.update park.tables kind (park.tables kind ++ [row]) }
  | .calFee lane now reachable eTime payTime iTransType =>
      onLane lane (calFeeLane park.tables now reachable eTime payTime iTransType) park
  | .scan lane now reachable skeyedNo =>
      onLane lane (scanLane park.tables now reachable skeyedNo) park
  | .work lane change =>
      -- only `SaveExit`, `SaveEntry` and `Clearme` touch the flag
      onLane lane (fun exitLane => { exitLane with
        station := { change exitLane.station with
          tProcess.gbsavedtrans := exitLane.station.tProcess.gbsavedtrans } }) park
  | .save lane update => saveLane lane update park
  | .clear lane =>
      onLane lane (fun exitLane => { station := after clearme exitLane.station }) park

/-! ### What is required -/

/-- Every ticket that reduced or cancelled the fee of a stored exit is marked as used, no
ticket did so twice, and no ticket has been marked for another exit. -/
structure SpentOnce (park : CarPark ι) : Prop where
  marked : ∀ savedExit ∈ park.saved, ∀ ticket ∈ savedExit.spent,
    Marked park.tables ticket ∧ ¬Unused park.tables ticket
  once : (park.saved.flatMap (·.spent)).Nodup
  needed : ∀ savedExit ∈ park.saved, ∀ ticket ∈ savedExit.marks, ticket ∈ savedExit.spent

/-- The tickets of the exit are spent rightly if it is stored now. -/
structure SpendsRight (park : CarPark ι) (lane : ι) (update : SqlOutcome) : Prop where
  unsaved : (park.lanes lane).spent ≠ [] →
    (park.lanes lane).station.tProcess.gbsavedtrans = false
  alone : ∀ ticket ∈ (park.lanes lane).spent, ∀ other, other ≠ lane →
    (park.lanes other).station.tProcess.gbsavedtrans = false →
      ¬(park.lanes other).Holds ticket
  stored : ∀ ticket ∈ (park.lanes lane).spent,
    exitAnswer (park.lanes lane).station = .iCentralSuccess ∧ update.Executed
  named : ∀ ticket ∈ (park.lanes lane).spent,
    usedTicket (park.lanes lane).station.tExit = ticket
  needed : MarksUsed (park.lanes lane).station update →
    ∀ ticket ∈ markedBy park.tables (park.lanes lane).station.tExit,
      ticket ∈ (park.lanes lane).spent

/-- Every exit that is stored spends its tickets rightly. -/
def Allowed (park : CarPark ι) : TicketEvent ι → Prop
  | .save lane update =>
      (park.lanes lane).station.tExit.sIUNo ≠ "" → Succeeds (exitAnswer (park.lanes lane).station) →
        SpendsRight park lane update
  | _ => True

end CarPark

/-! ## What a check finds -/

section Checks

variable {tables : TicketTables} {now : ℤ}

theorem unused_of_isValidBarCodeTicket {reachable isRedemptionTicket : Bool} {barcodeTicket : String}
    (hvalid : (isValidBarCodeTicket tables now reachable isRedemptionTicket barcodeTicket).iRet = 1) :
    Unused tables ⟨ticketKind isRedemptionTicket, barcodeTicket⟩ := by
  unfold isValidBarCodeTicket at hvalid
  split at hvalid
  · simp at hvalid
  split at hvalid
  · simp at hvalid
  · rename_i row hfound
    have hmem := List.mem_of_find?_eq_some hfound
    have hno : row.no = barcodeTicket := by simpa using List.find?_some hfound
    by_contra hused
    have hnull : row.exit_time ≠ .null := fun hnull => hused ⟨row, hmem, hno, hnull⟩
    simp [hnull] at hvalid

theorem unused_of_firstTicket {rows : List TicketRow} {iuNo lpn : String} {row : TicketRow}
    (hfirst : firstTicket rows now iuNo lpn = some row) : row ∈ rows ∧ row.exit_time = .null := by
  have hmem := List.mem_of_mem_head? hfirst
  rw [List.mem_mergeSort, List.mem_filter, matchesTicket] at hmem
  obtain ⟨hrow, hmatches⟩ := hmem
  simp only [Bool.and_eq_true, decide_eq_true_eq] at hmatches
  exact ⟨hrow, hmatches.2⟩

theorem unused_of_foundTicket {reachable : Bool × Bool} {iuNo lpn : String} {ticket : Ticket}
    (hfound : foundTicket (ticketQueries tables now reachable iuNo lpn) = some ticket) :
    Unused tables ticket := by
  unfold foundTicket ticketQueries at hfound
  dsimp only at hfound
  split at hfound
  · simp at hfound
  · rename_i complimentaryNo hcomplimentary
    obtain rfl : _ = ticket := Option.some.inj hfound
    split at hcomplimentary
    · rw [Option.some.injEq, Option.map_eq_some_iff] at hcomplimentary
      obtain ⟨row, hfirst, hno⟩ := hcomplimentary
      obtain ⟨hrow, hnull⟩ := unused_of_firstTicket hfirst
      exact ⟨row, hrow, hno, hnull⟩
    · simp at hcomplimentary
  · split at hfound
    · rename_i redeemed hredemption
      split at hfound
      · obtain rfl : _ = ticket := Option.some.inj hfound
        split at hredemption
        · rw [Option.some.injEq, Option.map_eq_some_iff] at hredemption
          obtain ⟨row, hfirst, rfl⟩ := hredemption
          obtain ⟨hrow, hnull⟩ := unused_of_firstTicket hfirst
          exact ⟨row, hrow, rfl, hnull⟩
        · simp at hredemption
      · simp at hfound
    · simp at hfound

theorem unused_of_noticedTicket {s : Station} {reachable : ℕ → Bool × Bool}
    {eTime payTime : String} {iTransType : ℤ} {ticket : Ticket}
    (hnoticed : noticedTicket eTime payTime iTransType (CarPark.answering tables now reachable s) =
      some ticket) : Unused tables ticket := by
  unfold noticedTicket at hnoticed
  split at hnoticed
  · rw [Option.or_eq_some_iff] at hnoticed
    rcases hnoticed with hIU | ⟨-, hLPN⟩
    · exact unused_of_foundTicket hIU
    · split at hLPN
      · exact unused_of_foundTicket hLPN
      · simp at hLPN
  · simp at hnoticed

end Checks

/-! ## What an `UPDATE` leaves -/

section Updates

variable {tables : TicketTables} {exitTrans : TExit} {ticket : Ticket}

theorem mem_updateUsedTicket {kind : TicketKind} {row : TicketRow} :
    row ∈ updateUsedTicket exitTrans tables kind ↔
      ∃ old ∈ tables kind, row =
        if kind = (usedTicket exitTrans).kind ∧ old.no = (usedTicket exitTrans).no then
          { old with exit_time := .text exitTrans.sExitTime }
        else old := by
  unfold updateUsedTicket
  by_cases hkind : kind = (usedTicket exitTrans).kind
  · subst hkind
    rw [if_pos rfl, List.mem_map]
    simp only [true_and]
    constructor <;> rintro ⟨old, hold, hrow⟩ <;> exact ⟨old, hold, hrow.symm⟩
  · simp [hkind]

/-- The ticket of the `UPDATE` is marked, if it is in the table. -/
theorem marked_updateUsedTicket (hmem : ∃ row ∈ tables (usedTicket exitTrans).kind,
      row.no = (usedTicket exitTrans).no) :
    Marked (updateUsedTicket exitTrans tables) (usedTicket exitTrans) ∧
      ¬Unused (updateUsedTicket exitTrans tables) (usedTicket exitTrans) := by
  constructor
  · obtain ⟨row, hrow, hno⟩ := hmem
    refine ⟨{ row with exit_time := .text exitTrans.sExitTime }, ?_, hno, by simp⟩
    rw [mem_updateUsedTicket]
    exact ⟨row, hrow, (if_pos ⟨rfl, hno⟩).symm⟩
  · rintro ⟨row, hrow, hno, hnull⟩
    rw [mem_updateUsedTicket] at hrow
    obtain ⟨old, -, rfl⟩ := hrow
    split at hnull
    · simp at hnull
    · rename_i hother
      rw [if_neg hother] at hno
      exact hother ⟨rfl, hno⟩

/-- No mark is taken back. -/
theorem Marked.update (hmarked : Marked tables ticket) :
    Marked (updateUsedTicket exitTrans tables) ticket := by
  obtain ⟨row, hrow, hno, hused⟩ := hmarked
  refine ⟨_, mem_updateUsedTicket.mpr ⟨row, hrow, rfl⟩, ?_, ?_⟩
  · split <;> exact hno
  · split
    · simp
    · exact hused

theorem Unused.of_update (hunused : Unused (updateUsedTicket exitTrans tables) ticket) :
    Unused tables ticket := by
  obtain ⟨row, hrow, hno, hnull⟩ := hunused
  rw [mem_updateUsedTicket] at hrow
  obtain ⟨old, hold, rfl⟩ := hrow
  split at hnull
  · simp at hnull
  · rename_i hother
    rw [if_neg hother] at hno
    exact ⟨old, hold, hno, hnull⟩

/-- The other tickets stay unused. -/
theorem Unused.update (hunused : Unused tables ticket)
    (hother : (∃ row ∈ tables (usedTicket exitTrans).kind, row.no = (usedTicket exitTrans).no) →
      usedTicket exitTrans ≠ ticket) :
    Unused (updateUsedTicket exitTrans tables) ticket := by
  obtain ⟨row, hrow, hno, hnull⟩ := hunused
  refine ⟨row, mem_updateUsedTicket.mpr ⟨row, hrow, ?_⟩, hno, hnull⟩
  rw [if_neg]
  rintro ⟨hkind, hsame⟩
  have heq : usedTicket exitTrans = ticket :=
    Ticket.ext hkind.symm (hsame.symm.trans hno)
  exact hother ⟨row, hkind ▸ hrow, hsame⟩ heq

end Updates

/-! ## One event -/

namespace ExitLane

variable {tables : TicketTables} {lane : ExitLane}

/-- As long as the exit has not been saved, its tickets are unused. -/
def Fresh (tables : TicketTables) (lane : ExitLane) : Prop :=
  lane.station.tProcess.gbsavedtrans = false →
    ∀ ticket, lane.Holds ticket → Unused tables ticket

theorem Fresh.mono {tables' : TicketTables} (hfresh : Fresh tables lane)
    (hunused : ∀ ticket, lane.station.tProcess.gbsavedtrans = false → lane.Holds ticket →
      Unused tables ticket → Unused tables' ticket) : Fresh tables' lane :=
  fun hunsaved ticket hholds => hunused ticket hunsaved hholds (hfresh hunsaved ticket hholds)

/-- A lane that is given an unused ticket. -/
theorem Fresh.hold (hfresh : Fresh tables lane) {ticket : Option Ticket}
    (hunused : ∀ found, ticket = some found → Unused tables found) {s : Station}
    (hflag : s.tProcess.gbsavedtrans = lane.station.tProcess.gbsavedtrans) :
    Fresh tables { station := s, held := CarPark.hold lane ticket } := by
  intro hunsaved held hholds
  have hbefore := hfresh (hflag ▸ hunsaved) held
  cases ticket with
  | none => exact hbefore hholds
  | some found =>
      simp only [Holds, CarPark.hold, Function.update_apply] at hholds
      split at hholds
      · rename_i hkind
        have hfound : found = held := Ticket.ext hkind.symm (Option.some.inj hholds)
        exact hunused held (congrArg some hfound)
      · exact hbefore hholds

theorem mem_spent {ticket : Ticket} : ticket ∈ lane.spent ↔
    Reduces lane.station ticket.kind ∧ lane.Holds ticket := by
  unfold spent
  rw [List.mem_filterMap]
  constructor
  · rintro ⟨kind, -, hticket⟩
    split at hticket
    · rename_i hreduces
      obtain ⟨no, hno, rfl⟩ := Option.map_eq_some_iff.mp hticket
      exact ⟨hreduces, hno⟩
    · simp at hticket
  · rintro ⟨hreduces, hholds⟩
    refine ⟨ticket.kind, ?_, ?_⟩
    · cases ticket.kind <;> simp
    · rw [if_pos hreduces, Option.map_eq_some_iff]
      exact ⟨ticket.no, hholds, rfl⟩

/-- An exit that a ticket reduces comes to the `UPDATE`. -/
theorem marksTicket_of_reduces {s : Station} {kind : TicketKind} (hreduces : Reduces s kind) :
    MarksTicket s := by
  cases kind with
  | complimentary => exact Or.inr hreduces.1
  | redemption => exact Or.inl hreduces

theorem nodup_spent : lane.spent.Nodup := by
  refine List.Nodup.filterMap ?_ (by decide)
  intro kind kind' ticket hticket hticket'
  have hkind (k : TicketKind) (h : ticket ∈ if Reduces lane.station k then
      (lane.held k).map (Ticket.mk k) else none) : ticket.kind = k := by
    split at h
    · obtain ⟨no, -, rfl⟩ := Option.map_eq_some_iff.mp h
      rfl
    · simp at h
  rw [← hkind kind hticket, hkind kind' hticket']

end ExitLane

namespace CarPark

open ExitLane

variable {ι : Type*} {park : CarPark ι}

/-- The tickets have been spent once so far, and those that are applied can still be spent. -/
structure Sound (park : CarPark ι) : Prop where
  spentOnce : SpentOnce park
  fresh : ∀ lane, Fresh park.tables (park.lanes lane)

theorem Sound.onLane [DecidableEq ι] (hsound : Sound park) {lane : ι} {change : ExitLane → ExitLane}
    (hfresh : Fresh park.tables (change (park.lanes lane))) : Sound (onLane lane change park) where
  spentOnce := ⟨hsound.spentOnce.marked, hsound.spentOnce.once, hsound.spentOnce.needed⟩
  fresh other := by
    by_cases hother : other = lane
    · subst hother
      simpa [CarPark.onLane] using hfresh
    · simpa [CarPark.onLane, hother] using hsound.fresh other

/-- A ticket with a new number changes nothing about the others. -/
theorem Sound.issue (hsound : Sound park) {kind : TicketKind} {row : TicketRow}
    (hnew : ∀ old ∈ park.tables kind, old.no ≠ row.no) :
    Sound { park with
      tables := Function.update park.tables kind (park.tables kind ++ [row]) } := by
  have hmem (k : TicketKind) (old : TicketRow) :
      old ∈ Function.update park.tables kind (park.tables kind ++ [row]) k ↔
        old ∈ park.tables k ∨ (k = kind ∧ old = row) := by
    by_cases hk : k = kind
    · subst hk
      simp
    · simp [hk]
  refine ⟨⟨fun savedExit hsaved ticket hspent => ?_, hsound.spentOnce.once,
    hsound.spentOnce.needed⟩, fun lane => ?_⟩
  · obtain ⟨⟨old, hold, hno, hused⟩, hnone⟩ :=
      hsound.spentOnce.marked savedExit hsaved ticket hspent
    refine ⟨⟨old, (hmem _ _).mpr (Or.inl hold), hno, hused⟩, ?_⟩
    rintro ⟨other, hother, hno', hnull⟩
    rcases (hmem _ _).mp hother with hold' | ⟨hkind, rfl⟩
    · exact hnone ⟨other, hold', hno', hnull⟩
    · exact hnew old (hkind ▸ hold) (hno.trans hno'.symm)
  · refine (hsound.fresh lane).mono fun ticket _ _ ⟨old, hold, hno, hnull⟩ => ?_
    exact ⟨old, (hmem _ _).mpr (Or.inl hold), hno, hnull⟩

theorem Fresh.calFeeLane {tables : TicketTables} {lane : ExitLane} (hfresh : Fresh tables lane)
    (now : ℤ) (reachable : ℕ → Bool × Bool) (eTime payTime : String) (iTransType : ℤ) :
    Fresh tables (calFeeLane tables now reachable eTime payTime iTransType lane) := by
  refine hfresh.hold (fun found hfound => unused_of_noticedTicket hfound) ?_
  have hlane := Frames.after_eq Operation.lane (calFeeRAM eTime payTime iTransType)
    (answering tables now reachable lane.station)
  exact congrArg Lane.gbsavedtrans hlane

theorem Fresh.scanLane {tables : TicketTables} {lane : ExitLane} (hfresh : Fresh tables lane)
    (now : ℤ) (reachable : Bool) (skeyedNo : String) :
    Fresh tables (scanLane tables now reachable skeyedNo lane) := by
  unfold CarPark.scanLane
  dsimp only
  split
  · exact hfresh
  · rename_i hscanned
    simp only [not_or, not_not] at hscanned
    refine hfresh.hold (fun found hfound => ?_) rfl
    obtain rfl := Option.some.inj hfound
    exact unused_of_isValidBarCodeTicket hscanned.2.2.2

section Saving

variable {s : Station} {update : SqlOutcome} {tables : TicketTables} {ticket : Ticket}

theorem marked_savedTables (hmarked : Marked tables ticket) :
    Marked (savedTables s update tables) ticket := by
  unfold savedTables
  split
  · exact hmarked.update
  · exact hmarked

theorem unused_of_savedTables (hunused : Unused (savedTables s update tables) ticket) :
    Unused tables ticket := by
  unfold savedTables at hunused
  split at hunused
  · exact hunused.of_update
  · exact hunused

theorem mem_markedBy {exitTrans : TExit} (hmem : ∃ row ∈ tables (usedTicket exitTrans).kind,
    row.no = (usedTicket exitTrans).no) : usedTicket exitTrans ∈ markedBy tables exitTrans := by
  have hany : (tables (usedTicket exitTrans).kind).any (·.no = (usedTicket exitTrans).no) := by
    obtain ⟨row, hrow, hno⟩ := hmem
    rw [List.any_eq_true]
    exact ⟨row, hrow, decide_eq_true hno⟩
  rw [markedBy, if_pos hany]
  exact List.mem_singleton_self _

theorem gbsavedtrans_savedStation (hIU : s.tExit.sIUNo ≠ "") :
    (savedStation update s).tProcess.gbsavedtrans = true := by
  obtain ⟨row, ret, -, -, -, hsaved⟩ := after_saveExit (s := { s with
    env.updateUsedTicket := fun _ =>
      if update.code = 0 then .iCentralSuccess else .iCentralFail }) hIU
  have hflag := congrArg Lane.gbsavedtrans hsaved.lane_eq
  exact hflag

end Saving

/-- The exits that wait are not touched by the `UPDATE` for another one. -/
theorem Sound.unused_savedTables (hsound : Sound park) {lane other : ι} {update : SqlOutcome}
    (hallowed : Allowed park (.save lane update))
    (hIU : (park.lanes lane).station.tExit.sIUNo ≠ "") (hother : other ≠ lane)
    (hunsaved : (park.lanes other).station.tProcess.gbsavedtrans = false) {ticket : Ticket}
    (hholds : (park.lanes other).Holds ticket) :
    Unused (savedTables (park.lanes lane).station update park.tables) ticket := by
  have hunused := hsound.fresh other hunsaved ticket hholds
  unfold savedTables
  split
  · rename_i hmarks
    have hright := hallowed hIU (Or.inl hmarks.1)
    refine hunused.update fun hmem heq => ?_
    have hspent := hright.needed hmarks _ (mem_markedBy hmem)
    exact hright.alone _ hspent other hother hunsaved (heq ▸ hholds)
  · exact hunused

/-- The tickets of the exit that is saved. -/
theorem Sound.unused_spent (hsound : Sound park) {lane : ι} {update : SqlOutcome}
    (hright : SpendsRight park lane update) {ticket : Ticket}
    (hspent : ticket ∈ (park.lanes lane).spent) : Unused park.tables ticket := by
  have hunsaved := hright.unsaved (List.ne_nil_of_mem hspent)
  exact hsound.fresh lane hunsaved ticket (mem_spent.mp hspent).2

theorem Sound.marked_spent (hsound : Sound park) {lane : ι} {update : SqlOutcome}
    (hright : SpendsRight park lane update) {ticket : Ticket}
    (hspent : ticket ∈ (park.lanes lane).spent) :
    Marked (savedTables (park.lanes lane).station update park.tables) ticket ∧
      ¬Unused (savedTables (park.lanes lane).station update park.tables) ticket := by
  obtain ⟨hcentral, hexecuted⟩ := hright.stored ticket hspent
  have hmarks : MarksUsed (park.lanes lane).station update :=
    ⟨hcentral, marksTicket_of_reduces (mem_spent.mp hspent).1, hexecuted⟩
  obtain ⟨row, hrow, hno, -⟩ := hsound.unused_spent hright hspent
  have hnamed := hright.named ticket hspent
  subst hnamed
  rw [savedTables, if_pos hmarks]
  exact marked_updateUsedTicket ⟨row, hrow, hno⟩

/-- Saving an exit that spends its tickets rightly. -/
theorem Sound.save [DecidableEq ι] (hsound : Sound park) {lane : ι} {update : SqlOutcome}
    (hallowed : Allowed park (.save lane update)) : Sound (saveLane lane update park) := by
  unfold saveLane
  dsimp only
  by_cases hIU : (park.lanes lane).station.tExit.sIUNo = ""
  · rw [if_pos hIU]
    exact hsound
  rw [if_neg hIU]
  obtain ⟨hmarked, honce, hneeded⟩ := hsound.spentOnce
  have hkept (savedExit : SavedExit) (hsaved : savedExit ∈ park.saved) (ticket : Ticket)
      (hspent : ticket ∈ savedExit.spent) :
      Marked (savedTables (park.lanes lane).station update park.tables) ticket ∧
        ¬Unused (savedTables (park.lanes lane).station update park.tables) ticket := by
    obtain ⟨hbefore, hnone⟩ := hmarked savedExit hsaved ticket hspent
    exact ⟨marked_savedTables hbefore, fun hunused => hnone (unused_of_savedTables hunused)⟩
  constructor
  · by_cases hsucceeds : Succeeds (exitAnswer (park.lanes lane).station)
    · rw [if_pos hsucceeds]
      have hright := hallowed hIU hsucceeds
      constructor
      · intro savedExit hsaved ticket hspent
        rcases List.mem_append.mp hsaved with hold | hnew
        · exact hkept savedExit hold ticket hspent
        · obtain rfl := List.mem_singleton.mp hnew
          exact hsound.marked_spent hright hspent
      · rw [List.flatMap_append, List.nodup_append']
        refine ⟨honce, by simpa using nodup_spent, fun ticket hold hnew => ?_⟩
        -- a ticket that was spent before is not unused
        obtain ⟨savedExit, hsaved, hspent⟩ := List.mem_flatMap.mp hold
        rw [List.flatMap_singleton] at hnew
        exact (hmarked savedExit hsaved ticket hspent).2 (hsound.unused_spent hright hnew)
      · intro savedExit hsaved ticket hmark
        rcases List.mem_append.mp hsaved with hold | hnew
        · exact hneeded savedExit hold ticket hmark
        · obtain rfl := List.mem_singleton.mp hnew
          dsimp only at hmark ⊢
          split at hmark
          · rename_i hmarks
            exact hright.needed hmarks ticket hmark
          · simp at hmark
    · rw [if_neg hsucceeds]
      exact ⟨hkept, honce, hneeded⟩
  · intro other
    by_cases hother : other = lane
    · subst hother
      intro hunsaved
      simp only [Function.update_self] at hunsaved
      rw [gbsavedtrans_savedStation hIU] at hunsaved
      simp at hunsaved
    · simp only [Function.update_of_ne hother]
      intro hunsaved ticket hholds
      exact hsound.unused_savedTables hallowed hIU hother hunsaved hholds

/-- Every allowed event keeps the tickets in order. -/
theorem Sound.step [DecidableEq ι] (park : CarPark ι) (event : TicketEvent ι) (hsound : Sound park)
    (hallowed : Allowed park event) : Sound (park.step event) := by
  cases event with
  | issue kind row =>
      unfold CarPark.step
      dsimp only
      split
      · exact hsound
      · rename_i hnew
        refine hsound.issue fun old hold hno => hnew ?_
        rw [List.any_eq_true]
        exact ⟨old, hold, decide_eq_true hno⟩
  | calFee lane now reachable eTime payTime iTransType =>
      exact hsound.onLane (Fresh.calFeeLane (hsound.fresh lane) now reachable eTime payTime _)
  | scan lane now reachable skeyedNo =>
      exact hsound.onLane (Fresh.scanLane (hsound.fresh lane) now reachable skeyedNo)
  | work lane change =>
      have hfresh := hsound.fresh lane
      unfold CarPark.step
      refine hsound.onLane ?_
      exact hfresh
  | save lane update => exact hsound.save hallowed
  | clear lane =>
      unfold CarPark.step
      refine hsound.onLane ?_
      intro _ ticket hholds
      simp [Holds] at hholds

/-- No exit has been stored yet, and no vehicle has a ticket. -/
structure NewPark (park : CarPark ι) : Prop where
  unsaved : park.saved = []
  noTicket : ∀ lane kind, (park.lanes lane).held kind = none

theorem NewPark.sound (hnew : NewPark park) : Sound park := by
  constructor
  · constructor <;> simp [hnew.unsaved]
  · intro lane _ ticket hholds
    rw [Holds, hnew.noTicket] at hholds
    simp at hholds

/-- In every run in which the exits that are stored spend their tickets rightly, every ticket
is spent once. -/
theorem tickets_spent_once [DecidableEq ι] {park : CarPark ι} (hnew : NewPark park)
    {events : List (TicketEvent ι)} (hallowed : Machine.Meets CarPark.step Allowed park events) :
    SpentOnce (Machine.run CarPark.step park events) := by
  have hsound : Sound (Machine.run CarPark.step park events) :=
    Machine.run_invariant Sound.step hnew.sound hallowed
  exact hsound.spentOnce

/-! ## A ticket that is spent while the central database cannot be reached -/

/-- A ticket worth three dollars. -/
def threeDollars : TicketRow := { no := "SR1234567890", valid_to := 100, redeem_amt := "3" }

/-- An exit with a vehicle that owes three dollars. -/
def owingExit : Station :=
  { emptyExit with tExit := { clearedExit {} with sIUNo := "1234567890", sFee := 3 } }

/-- The same exit without the central database. -/
def cutOff (s : Station) : Station := { s with env.centraldb := fun _ => ⟨false, false, .failed⟩ }

/-- A car park with that ticket and one exit. -/
def ticketPark (s : Station) : CarPark Unit where
  tables
    | .complimentary => []
    | .redemption => [threeDollars]
  lanes _ := { station := s }

/-- The ticket is scanned, and the exit is saved. -/
def redeems : List (TicketEvent Unit) := [.scan () 50 true "SR1234567890", .save () .done]

theorem newPark_ticketPark (s : Station) : NewPark (ticketPark s) := ⟨rfl, fun _ _ => rfl⟩

theorem tickets_spent_once_online :
    Machine.Meets CarPark.step Allowed (ticketPark owingExit) redeems ∧
      SpentOnce (Machine.run CarPark.step (ticketPark owingExit) redeems) := by
  have hspent : ((CarPark.step (ticketPark owingExit)
      (.scan () 50 true "SR1234567890")).lanes ()).spent = [⟨.redemption, "SR1234567890"⟩] := by
    decide +kernel
  have hright : SpendsRight (CarPark.step (ticketPark owingExit)
      (.scan () 50 true "SR1234567890")) () .done := by
    constructor
    · intro _
      decide +kernel
    · intro _ _ other hother
      exact absurd rfl hother
    · intro _ _
      refine ⟨?_, by decide⟩
      decide +kernel
    · intro ticket hticket
      rw [hspent, List.mem_singleton] at hticket
      subst hticket
      decide +kernel
    · rw [hspent]
      decide +kernel
  have hallowed : Machine.Meets CarPark.step Allowed (ticketPark owingExit) redeems :=
    ⟨trivial, fun _ _ => hright, trivial⟩
  exact ⟨hallowed, tickets_spent_once (newPark_ticketPark owingExit) hallowed⟩

/-- The first exit is stored locally, the ticket is not marked, and a second exit is stored
centrally with the same ticket. -/
theorem not_tickets_spent_once :
    NewPark (ticketPark (cutOff owingExit)) ∧
      ¬SpentOnce (Machine.run CarPark.step (ticketPark (cutOff owingExit))
        (redeems ++ [.clear (), .work () fun _ => owingExit] ++ redeems)) := by
  refine ⟨newPark_ticketPark _, fun honce => ?_⟩
  have hspent : (Machine.run CarPark.step (ticketPark (cutOff owingExit))
      (redeems ++ [.clear (), .work () fun _ => owingExit] ++ redeems)).saved.flatMap (·.spent) =
        [⟨.redemption, "SR1234567890"⟩, ⟨.redemption, "SR1234567890"⟩] := by
    decide +kernel
  have hnodup := honce.once
  rw [hspent] at hnodup
  exact absurd hnodup (by decide)

end CarPark

end LinuxPBS.Operation
