import LinuxPBS.Db.XTariff
import LinuxPBS.Operation.Vehicle

/-!
# An exit without an entry record

`PBSExit` declares the flag and the amount without a value, hands them to `GetXTariff`
and reads them whatever that returns.  `noEntryExit` is its decision on variables that
may be unset, and `chargeWithoutEntry_eq` says that the procedure carries it out, with
what an unset variable happens to hold in the place of its value.

`noEntryCharged_iff` puts the two halves together: the right charge is found, and no
unset variable is read, exactly where the time is covered by the loaded rows, or no
row asks for a charge and the exit is complimentary anyway.
-/

namespace LinuxPBS.Operation

open Handler Common Db

/-- What `PBSExit` does without an entry record. -/
inductive NoEntryExit
  | complimentary
  | autoDebit (sAmt : ℚ)
  | pressIntercom
  deriving DecidableEq

/-- `PBSExit` on what `GetXTariff` has returned and left in `iAutoDebit` and `sAmt`; none where it
reads one of them unset. -/
def noEntryExit (tExit : TExit) (answer : ℤ × Option ℤ × Option ℚ) : Option NoEntryExit :=
  if tExit.sRedeemNo ≠ "" ∧ tExit.sRedeemAmt = 0 then some .complimentary
  else
    match answer with
    -- both are written to the log first
    | (_, some iAutoDebit, some sAmt) =>
        if iAutoDebit > 0 then some (.autoDebit sAmt) else some .pressIntercom
    | _ => none

section CarryOut

variable (enableCashcard : Bool → Op Unit) (sIU : String) (iDevicetype : DeviceType)
  (sCardNo : String) (sCardType : ℤ) (sCardBal : ℚ)

/-- What `PBSExit` does then; to read a variable that nothing has set is not defined. -/
def carryOut : Option NoEntryExit → Op Unit
  | some .complimentary => do
      modify fun s => { s with
        tExit.iTransType := 10, tExit.sPaidAmt := 0, tExit.sCardNo := s.tExit.sRedeemNo }
      closeExitOperation .FreeParking
      enableCashcard false
  | some (.autoDebit sAmt) => do
      let now ← ask Env.now
      modify fun s => { s with tExit.sFee := gfeeFormat sAmt, tExit.sExitTime := now }
      payFee enableCashcard iDevicetype sCardNo sCardType sCardBal
  | some .pressIntercom => do
      let s ← get
      sendMsg2Server "07" sIU
      if s.tParas.giEPS = 3 then sendMsg2OBU s.tExit.sIUNo
  | none => throw .undefined

/-- The procedure carries out the decision on what the two variables hold. -/
theorem chargeWithoutEntry_eq (s : Station) (ret : ℤ) :
    after (chargeWithoutEntry enableCashcard sIU iDevicetype sCardNo sCardType sCardBal) s =
      after (carryOut enableCashcard sIU iDevicetype sCardNo sCardType sCardBal
        (noEntryExit s.tExit
          (ret, some (s.env.getXTariff s.asked).1, some (s.env.getXTariff s.asked).2)))
        (if s.tExit.sRedeemNo ≠ "" ∧ s.tExit.sRedeemAmt = 0 then s
          else { s with asked := s.asked + 1 }) := by
  unfold chargeWithoutEntry noEntryExit
  rw [after_get_bind]
  by_cases hcomplimentary : s.tExit.sRedeemNo ≠ "" ∧ s.tExit.sRedeemAmt = 0
  · rw [if_pos hcomplimentary, if_pos hcomplimentary, if_pos hcomplimentary]
    rfl
  · rw [if_neg hcomplimentary, if_neg hcomplimentary, if_neg hcomplimentary, after_ask_bind]
    dsimp only
    by_cases hdebit : (s.env.getXTariff s.asked).1 > 0
    · rw [if_pos hdebit, if_pos hdebit]
      rfl
    · rw [if_neg hdebit, if_neg hdebit]
      rfl

end CarryOut

/-! ## The whole exit -/

section NoEntry

variable (msxtariff : List XTariff) (dayType : ℤ) (currentTime : String) (vehicleType : ℤ)
  (tExit : TExit)

/-- The charge of the time is found, and `PBSExit` reads no variable that nothing has set. -/
structure NoEntryCharged : Prop where
  wholeDay : WholeDay msxtariff dayType currentTime vehicleType
  onlySet :
    noEntryExit tExit (getXTariff msxtariff dayType currentTime vehicleType none none) ≠ none

variable {msxtariff dayType currentTime vehicleType tExit}

theorem onlySet_iff :
    noEntryExit tExit (getXTariff msxtariff dayType currentTime vehicleType none none) ≠ none ↔
      Covered msxtariff dayType currentTime vehicleType ∨
        (tExit.sRedeemNo ≠ "" ∧ tExit.sRedeemAmt = 0) := by
  unfold noEntryExit
  by_cases hcomplimentary : tExit.sRedeemNo ≠ "" ∧ tExit.sRedeemAmt = 0
  · rw [if_pos hcomplimentary]
    exact ⟨fun _ => Or.inr hcomplimentary, fun _ => Option.some_ne_none _⟩
  · rw [if_neg hcomplimentary]
    by_cases hcovered : Covered msxtariff dayType currentTime vehicleType
    · obtain ⟨selectedAutoDebit, selectedAmount, -, hreturns⟩ := getXTariff_of_covered hcovered
      rw [hreturns]
      refine ⟨fun _ => Or.inl hcovered, fun _ => ?_⟩
      dsimp only
      split_ifs <;> exact Option.some_ne_none _
    · rw [getXTariff_of_not_covered hcovered]
      exact ⟨fun hset => absurd rfl hset, fun hor => (hor.elim hcovered hcomplimentary).elim⟩

theorem noEntryCharged_iff (msxtariff : List XTariff) (dayType : ℤ) (currentTime : String)
    (vehicleType : ℤ) (tExit : TExit) :
    NoEntryCharged msxtariff dayType currentTime vehicleType tExit ↔
      Covered msxtariff dayType currentTime vehicleType ∨
        ((dayType < 0 ∨ ∀ tariff ∈ msxtariff, ¬tariff.Lists (dayType + vehicleType * 3)) ∧
          tExit.sRedeemNo ≠ "" ∧ tExit.sRedeemAmt = 0) := by
  constructor
  · rintro ⟨hwhole, hset⟩
    rcases wholeDay_iff.mp hwhole with hcovered | hunlisted
    · exact Or.inl hcovered
    · exact (onlySet_iff.mp hset).imp_right fun hcomplimentary => ⟨hunlisted, hcomplimentary⟩
  · rintro (hcovered | ⟨hunlisted, hcomplimentary⟩)
    · exact ⟨wholeDay_iff.mpr (Or.inl hcovered), onlySet_iff.mpr (Or.inl hcovered)⟩
    · exact ⟨wholeDay_iff.mpr (Or.inr hunlisted), onlySet_iff.mpr (Or.inr hcomplimentary)⟩

end NoEntry

/-- A row for the day 1 whose last slot starts at ten in the evening. -/
def lateRow : XTariff := readXTariff
  ["1", "1", "2.00", "07:00", "1", "3.00", "12:00", "1", "4.00", "18:00", "1", "5.00",
    "22:00", "1", "6.00"]

theorem not_noEntryCharged :
    (lateRow.Lists 1 ∧ lateRow.InSlot (hmTimeString 23 0) 4 ∧ lateRow.charge 4 = some (1, 6)) ∧
      getXTariff [lateRow] 1 (hmTimeString 23 0) 0 none none = (0, none, none) ∧
      ¬NoEntryCharged [lateRow] 1 (hmTimeString 23 0) 0 {} := by
  have huncovered : ¬Covered [lateRow] 1 (hmTimeString 23 0) 0 := by decide +kernel
  have hlists : lateRow.Lists 1 := by decide +kernel
  refine ⟨⟨hlists, ?_, by decide +kernel⟩, getXTariff_of_not_covered huncovered none none, ?_⟩
  · exact ⟨by decide +kernel, by decide +kernel⟩
  · rintro ⟨-, hset⟩
    rcases onlySet_iff.mp hset with hcovered | ⟨hcomplimentary, -⟩
    · exact huncovered hcovered
    · exact hcomplimentary rfl

end LinuxPBS.Operation
