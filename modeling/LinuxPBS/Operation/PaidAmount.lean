import LinuxPBS.Operation.Records

/-!
# The amount that is recorded

A row of an exit is written by `SaveExit` alone, and `SaveExit` is called by
`CloseExitOperation` alone, so in the list of the calls every row stands on top of the
exit it was made of.

`SaveExit` does not record what was paid.  It computes the amount again, from the fee,
the rebate, the redemption and the amount owed: `outstanding`.  The row is right when
that happens to be the amount that was deducted; an exit that is released while a fee is
outstanding, such as a whole-day season's, is recorded as paid.
-/

set_option synthInstance.maxSize 100000

namespace LinuxPBS.Operation

open Handler CxxText Db

/-! ## What is recorded -/

/-- The redemption, which is cut to what is due. -/
def redeemedAmt (tExit : TExit) : ℚ :=
  if gfeeFormat tExit.sRedeemAmt > gfeeFormat (amountDue tExit) then gfeeFormat (amountDue tExit)
  else tExit.sRedeemAmt

/-- The fee and the amount owed, less the rebate and the redemption. -/
def outstanding (tExit : TExit) : ℚ :=
  gfeeFormat (tExit.sFee - tExit.sRebateAmt - redeemedAmt tExit + tExit.sOweAmt)

/-- The tax contained in an amount. -/
def gstOf (gfGSTRate amount : ℚ) : ℚ := gfeeFormat (amount * gfGSTRate / (1 + gfGSTRate))

/-- `P` holds of every row that has been inserted and of the calls before it. -/
def Rows (P : TExitTrans → List Call → Prop) : List Call → Prop
  | [] => True
  | .insertexittrans row _ :: older => P row older ∧ Rows P older
  | _ :: older => Rows P older

/-- A deduction has just been reported. -/
def Reported : List Call → Prop
  | .debitOK _ _ :: _ => True
  | _ => False

/-- The exit is closed by a deduction. -/
def ByDeduction (iStatus : TransType) : Prop := iStatus = .DeductionOK ∨ iStatus = .UpdateCHUTrans

/-- The amount for which an exit is closed: the one a device has reported, or none for a
release.  `older` are the calls before the exit is closed. -/
def charged (iStatus : TransType) (older : List Call) : Option ℚ :=
  match iStatus with
  | .DeductionOK | .UpdateCHUTrans =>
      match older with
      | .debitOK _ sPaidAmt :: _ => (stof sPaidAmt).map gfeeFormat
      | _ => none
  | .FreeParking | .SeasonParking | .GracePeriod | .Complimentary => some 0
  | _ => none

/-- A row is made of the exit that is being closed, by a deduction or not. -/
def MadeOf (row : TExitTrans) : List Call → Prop
  | .closeExitOperation iStatus tExit gfGSTRate :: older =>
      row.sPaidAmt = outstanding tExit ∧ row.sGSTAmt = gstOf gfGSTRate (outstanding tExit) ∧
        (ByDeduction iStatus → Reported older)
  | _ => False

/-- The amount of a row is the one the exit was closed for; a deduction has been reported. -/
def PaidRight (row : TExitTrans) : List Call → Prop
  | .closeExitOperation iStatus _ _ :: older =>
      (ByDeduction iStatus → Reported older) ∧ ∀ amount ∈ charged iStatus older, row.sPaidAmt = amount
  | _ => False

/-- The tax of a row is the tax contained in its amount. -/
def TaxRight (row : TExitTrans) : List Call → Prop
  | .closeExitOperation _ _ gfGSTRate :: _ => row.sGSTAmt = gstOf gfGSTRate row.sPaidAmt
  | _ => False

/-- The amount the exit is closed for is what is due. -/
def AmountsAgree : List Call → Prop
  | .closeExitOperation iStatus tExit _ :: older =>
      ∀ amount ∈ charged iStatus older, outstanding tExit = amount
  | _ => False

theorem Rows.imp {P Q : TExitTrans → List Call → Prop} (himp : ∀ row older, P row older → Q row older)
    {calls : List Call} (hrows : Rows P calls) : Rows Q calls := by
  induction calls with
  | nil => trivial
  | cons c older ih =>
      cases c with
      | insertexittrans row ret => exact ⟨himp row older hrows.1, ih hrows.2⟩
      | _ => exact ih hrows

theorem MadeOf.right_iff {row : TExitTrans} {older : List Call} (hmade : MadeOf row older) :
    TaxRight row older ∧ (PaidRight row older ↔ AmountsAgree older) := by
  cases older with
  | nil => exact hmade.elim
  | cons c older =>
      cases c with
      | closeExitOperation iStatus tExit gfGSTRate =>
          obtain ⟨hpaid, hgst, hreported⟩ := hmade
          unfold TaxRight PaidRight AmountsAgree
          rw [hpaid, hgst]
          exact ⟨rfl, fun h => h.2, fun h => ⟨hreported, h⟩⟩
      | _ => exact hmade.elim

/-! ## Saving an exit -/

/-- The invariant of an exit: no vehicle has entered here, and the rows are made of the exits. -/
structure Books (s : Station) : Prop where
  iType : s.gtStation.iType = .tiExit
  noEntry : s.tEntry.sIUTKNo = ""
  booked : Rows MadeOf s.calls

/-- The part of the state the books are about. -/
@[reducible] def bookView (s : Station) : TStationType × String × List Call :=
  (s.gtStation.iType, s.tEntry.sIUTKNo, s.calls)

theorem Books.of_view {s s' : Station} (hview : bookView s' = bookView s) (hs : Books s) :
    Books s' := by
  simp only [Prod.mk.injEq] at hview
  obtain ⟨hiType, hentry, hcalls⟩ := hview
  exact ⟨hiType ▸ hs.iType, hentry ▸ hs.noEntry, hcalls ▸ hs.booked⟩

/-- Only a row has to be made of an exit. -/
theorem Books.call {s : Station} (hs : Books s) {c : Call} (hc : ∀ row ret, c ≠ .insertexittrans row ret) :
    Books { s with calls := c :: s.calls } := by
  refine ⟨hs.iType, hs.noEntry, ?_⟩
  cases c with
  | insertexittrans row ret => exact absurd rfl (hc row ret)
  | _ => exact hs.booked

instance : Recorded Books where
  view _ _ hview hs :=
    hs.of_view (congrArg (fun view => (view.1, view.2.1, view.2.2.2.1)) hview)
  iType _ hs := hs.iType
  noEntry _ hs := hs.noEntry
  quiet _ _ hs hquiet := hs.call fun _ _ hrow => by
    subst hrow
    exact absurd hquiet Bool.false_ne_true

/-! ## Closing an exit -/

theorem outstanding_closingStatus (iStatus : TransType) (tExit : TExit) :
    outstanding (closingStatus iStatus tExit) = outstanding tExit := by
  cases iStatus <;> rfl

/-- `SaveExit` of the exit that is being closed. -/
theorem Books.saveExit {s : Station} (hs : Books s) (iStatus : TransType) (tExit : TExit)
    (older : List Call)
    (hcalls : s.calls = .closeExitOperation iStatus tExit s.tParas.gfGSTRate :: older)
    (hamount : outstanding s.tExit = outstanding tExit)
    (hreported : ByDeduction iStatus → Reported older) : Books (after saveExit s) := by
  by_cases hIU : s.tExit.sIUNo = ""
  · rw [after_saveExit_unknown hIU]
    exact hs
  obtain ⟨row, ret, hpaid, hgst, -, hsaved⟩ := after_saveExit hIU
  have hmade : MadeOf row s.calls := by
    rw [hcalls]
    refine ⟨?_, ?_, hreported⟩
    · rw [hpaid, ← hamount]
      exact gfeeFormat_gfeeFormat _
    · rw [hgst, ← hamount]
      exact gfeeFormat_gfeeFormat _
  have hlane := hsaved.lane_eq
  simp only [lane, Lane.mk.injEq] at hlane
  refine ⟨?_, ?_, ?_⟩
  · simp only [hlane, hs.iType]
  · simp only [hlane, hs.noEntry]
  · simp only [hlane]
    exact ⟨hmade, hs.booked⟩

/-- Closing an exit keeps the books. -/
theorem Books.closeExitOperation {s : Station} (hs : Books s) (iStatus : TransType)
    (hreported : ByDeduction iStatus → Reported s.calls) :
    Books (after (closeExitOperation iStatus) s) := by
  refine closeExitOperation_records iStatus ?_
  have hclosing := hs.call (c := .closeExitOperation iStatus s.tExit s.tParas.gfGSTRate)
    (fun _ _ => nofun)
  refine Books.saveExit (hclosing.of_view ?_) iStatus s.tExit s.calls ?_ ?_ hreported
  · rfl
  · rfl
  · exact outstanding_closingStatus iStatus s.tExit

instance : Releases Books Books where
  release iStatus hok hupdate :=
    ⟨fun _ hs => hs.closeExitOperation iStatus fun h => h.elim (absurd · hok) (absurd · hupdate)⟩

/-- The books while a deduction is being reported. -/
def DebitBooks (s : Station) : Prop := Books s ∧ Reported s.calls

instance {α : Type} (m : Op α) [hm : Frames bookView m] : Leads DebitBooks DebitBooks m where
  leads s hs := by
    have hview := hm.frames s
    have hcalls : (after m s).calls = s.calls := congrArg (fun view => view.2.2) hview
    exact ⟨hs.1.of_view hview, hcalls ▸ hs.2⟩

instance : Entails DebitBooks Books := ⟨fun _ hs => hs.1⟩

instance (iStatus : TransType) : Leads DebitBooks Books (closeExitOperation iStatus) :=
  ⟨fun _ hs => hs.1.closeExitOperation iStatus fun _ => hs.2⟩

instance : Debits Books Books where
  debit sIUNO sCardNo sPaidAmt sBal iCardType sTopupAmt iDevicetype := by
    refine ⟨fun s hs => ?_⟩
    have hreported : DebitBooks { s with calls := .debitOK iDevicetype sPaidAmt :: s.calls } :=
      ⟨hs.call (fun _ _ => nofun), trivial⟩
    unfold debitOK
    rw [after_call_bind]
    dsimp only
    exact Leads.leads (P := DebitBooks) _ hreported

/-! ## Runs -/

/-- An exit that charges season holders, a stay that costs three dollars and a whole-day
season. -/
def seasonExit : Station where
  env :=
    { fetchEntryinfo := fun _ _ =>
        { central := some (some ⟨"2026-01-01 08:00:00", "1", "0", "1"⟩) }
      isvalidseason := fun _ _ _ => (1, some { rate_type := "0" })
      calFeeRAM2G := fun _ _ _ _ => 3 }
  gtStation := { iType := .tiExit }
  tParas := { giSeasonCharge := 1, gfGSTRate := 9 / 100 }
  tExit := clearedExit {}

/-- The exit of the season holder when it is closed. -/
def seasonClosed : TExit :=
  { clearedExit {} with
    sIUNo := "1234567890", iTransType := 2, iEntryID := 1, sEntryTime := "2026-01-01 08:00:00"
    sFee := 3, bNoEntryRecord := 0 }

/-- The row that is written for it. -/
def seasonRow : TExitTrans := { seasonClosed.toTExitTrans with sPaidAmt := 3, sGSTAmt := 1 / 4 }

theorem newExit_seasonExit : NewExit seasonExit := by constructor <;> rfl

theorem calls_seasonExit :
    (history 3 [.antennaIUCome "1234567890"] seasonExit).calls =
      [.openBarrier 0, .insertexittrans seasonRow .iCentralSuccess,
        .closeExitOperation .SeasonParking seasonClosed (9 / 100),
        .handleEvent (.antennaIUCome "1234567890")] := by
  decide +kernel

end LinuxPBS.Operation
