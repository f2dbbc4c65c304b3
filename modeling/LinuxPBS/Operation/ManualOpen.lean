import LinuxPBS.Operation.Admission
import LinuxPBS.Operation.Outcome

/-!
# Opening the barrier by hand

`ManualOpenBarrier` serves both kinds of station.  It is meant to save the transaction of
the vehicle on loop A, with the status 4, before it opens the barrier.

Neither branch looks at `gbsavedtrans`.  At an entry the vehicle is saved whether it has
been saved or not.  At an exit the test is about the number in `tEntry`, which is never set
there, so that nothing is saved (`saves_manualOpen_exit`).
-/

set_option synthInstance.maxSize 10000

namespace LinuxPBS.Operation

open Handler

/-- The vehicle and the status of the transaction that a call saves. -/
def Call.saved : Call → Option (String × ℤ)
  | .insertentrytrans tEntry _ => some (tEntry.sIUTKNo, tEntry.iStatus)
  | .insertexittrans tExit _ => some (tExit.sIUNo, tExit.iStatus)
  | _ => none

/-- The transactions that have been saved, the last one first. -/
@[reducible] def saves (s : Station) : List (String × ℤ) := s.calls.filterMap Call.saved

/-- The number of the vehicle at the station. -/
def vehicleNo (s : Station) : String :=
  if s.gtStation.iType = .tientry then s.tEntry.sIUTKNo else s.tExit.sIUNo

/-- The barrier has been opened, or it is held open. -/
def BarrierOpen (s s' : Station) : Prop :=
  Exceeds isOpening (s.calls.countP isOpening) s' ∨ s.tProcess.giBarrierContinueOpened = 1

/-- Opening the barrier by hand is recorded: the vehicle is saved once, with the status 4. -/
def OpeningRecorded (s s' : Station) : Prop :=
  if s.tProcess.gbsavedtrans then saves s' = saves s
  else saves s' = (vehicleNo s, 4) :: saves s ∧ BarrierOpen s s'

/-- A state of an entry station, or one that an exit station reaches. -/
inductive Operating (depth : ℕ) : Station → Prop
  | entry (s : Station) : s.gtStation.iType = .tientry → Operating depth s
  | exit (s : Station) (events : List Event) : NewExit s → Operating depth (history depth events s)

/-- An unsaved vehicle at an entry without a card in the reader, or a saved one at an exit. -/
def RecordsOpening (s : Station) : Prop :=
  s.gtStation.iType = .tientry ∧ s.tProcess.gbsavedtrans = false ∧
      (s.tProcess.giCardIsIn ≠ 1 ∨ s.tProcess.giBarrierContinueOpened = 1) ∨
    s.gtStation.iType ≠ .tientry ∧ s.tProcess.gbsavedtrans = true

/-! ## The barrier -/

section Barrier

theorem saves_call {c : Call} (hother : c.saved = none) : Frames saves (call c) where
  frames s := by
    rw [after_call, saves, List.filterMap_cons_none hother]

instance : Frames saves clearme := by
  have hcall : Frames saves (call .clearme) := saves_call rfl
  unfold clearme
  infer_instance

instance (delay : ℕ) : Frames saves (eepInq delay) := by
  unfold eepInq
  infer_instance

instance (processingResult : ℤ) : Frames saves (endEEPprocess processingResult) := by
  unfold endEEPprocess sendMsg2OBU
  dsimp only
  infer_instance

instance (iReason : ℤ) : Frames saves (openbarrier iReason) := by
  have hcall : Frames saves (call (.openBarrier iReason)) := saves_call rfl
  unfold openbarrier
  infer_instance

/-- What `Openbarrier` asks for. -/
@[reducible] def barrierHeld (s : Station) : ℤ × ℤ :=
  (s.tProcess.giCardIsIn, s.tProcess.giBarrierContinueOpened)

instance : Frames barrierHeld insertentrytrans where
  frames _ := rfl

instance : Frames barrierHeld saveEntry := by
  unfold saveEntry sendMsg2Server
  dsimp only
  infer_instance

end Barrier

/-! ## At an entry -/

section Entry

variable {s : Station}

/-- The vehicle is saved with the status 4, and then `Openbarrier` is called. -/
theorem after_manualOpen_entry (hentry : s.gtStation.iType = .tientry)
    (hIU : s.tEntry.sIUTKNo ≠ "") (hpresent : s.env.gbLoopApresent s.asked = true) :
    ∃ row ret t, t.calls = .insertentrytrans row ret :: s.calls ∧
      row.sIUTKNo = s.tEntry.sIUTKNo ∧ row.iStatus = 4 ∧ barrierHeld t = barrierHeld s ∧
      after manualOpenBarrier s = after (openbarrier 0) t := by
  obtain ⟨s₁, hs₁, hIU₁, hstatus₁, hcalls₁, hheld₁⟩ : ∃ s₁,
      after manualOpenBarrier s = after (do
        saveEntry
        openbarrier 0
        pure ()) s₁ ∧
        s₁.tEntry.sIUTKNo = s.tEntry.sIUTKNo ∧ s₁.tEntry.iStatus = 4 ∧ s₁.calls = s.calls ∧
        barrierHeld s₁ = barrierHeld s := by
    rw [manualOpenBarrier, after_get_bind, if_pos ⟨hentry, hIU⟩, after_ask_bind, if_pos hpresent,
      after_ask_bind, after_modify_bind, after_send_bind]
    exact ⟨_, rfl, rfl, rfl, rfl, rfl⟩
  obtain ⟨row, ret, t, hok, hcalls, -, hnumber, hstatus⟩ := saveEntry_eq (hIU₁ ▸ hIU)
  refine ⟨row, ret, t, ?_, hnumber.trans hIU₁, hstatus.trans hstatus₁, ?_, ?_⟩
  · rw [hcalls, hcalls₁]
  · exact (Frames.of_ok hok).trans hheld₁
  · rw [hs₁, after_bind_of_ok hok, bind_pure_unit]

/-- One transaction is saved, whether the vehicle has been saved before or not. -/
theorem saves_manualOpen_entry (hentry : s.gtStation.iType = .tientry)
    (hIU : s.tEntry.sIUTKNo ≠ "") (hpresent : s.env.gbLoopApresent s.asked = true) :
    saves (after manualOpenBarrier s) = (vehicleNo s, 4) :: saves s := by
  obtain ⟨row, ret, t, hcalls, hnumber, hstatus, -, hopen⟩ :=
    after_manualOpen_entry hentry hIU hpresent
  have hsaved : Call.saved (.insertentrytrans row ret) = some (vehicleNo s, 4) := by
    rw [Call.saved, hnumber, hstatus, vehicleNo, if_pos hentry]
  calc saves (after manualOpenBarrier s)
      = saves t := by rw [hopen, Frames.after_eq saves]
    _ = (vehicleNo s, 4) :: saves s := by rw [saves, hcalls, List.filterMap_cons_some hsaved]

/-- The barrier opens unless a card is in the reader. -/
theorem barrierOpen_manualOpen_entry (hentry : s.gtStation.iType = .tientry)
    (hIU : s.tEntry.sIUTKNo ≠ "") (hpresent : s.env.gbLoopApresent s.asked = true) :
    BarrierOpen s (after manualOpenBarrier s) ↔
      s.tProcess.giCardIsIn ≠ 1 ∨ s.tProcess.giBarrierContinueOpened = 1 := by
  obtain ⟨row, ret, t, hcalls, -, -, hheld, hopen⟩ := after_manualOpen_entry hentry hIU hpresent
  simp only [barrierHeld, Prod.mk.injEq] at hheld
  have hopenings : t.calls.countP isOpening = s.calls.countP isOpening := by
    rw [hcalls, List.countP_cons_of_neg Bool.false_ne_true]
  apply or_congr_left'
  intro hclosed
  rw [hopen]
  constructor
  · rintro hexceeds hin
    rw [openbarrier_held (Or.inl (hheld.1.trans hin)), Exceeds, hopenings] at hexceeds
    exact lt_irrefl _ hexceeds
  · intro hin
    rw [← hopenings]
    exact exceeds_openbarrier (hheld.1 ▸ hin) (hheld.2 ▸ hclosed) 0

end Entry

/-! ## At an exit -/

/-- At an exit that has let no vehicle in, opening by hand is `Openbarrier`. -/
theorem saves_manualOpen_exit {s : Station} (hexit : s.gtStation.iType ≠ .tientry)
    (hnone : s.tEntry.sIUTKNo = "") : saves (after manualOpenBarrier s) = saves s := by
  have hopen : after manualOpenBarrier s = after (openbarrier 0) s := by
    rw [manualOpenBarrier, after_get_bind, if_neg fun h => hexit h.1, manualOpenExit,
      after_get_bind, if_neg (not_not.mpr hnone)]
  rw [hopen, Frames.after_eq saves]

/-! ## When it is recorded -/

/-- Opening by hand with a known vehicle on loop A is recorded exactly for an unsaved vehicle at
an entry without a card in the reader, and for a saved one at an exit. -/
theorem openingRecorded_iff {depth : ℕ} {s : Station} (hs : Operating depth s)
    (hknown : vehicleNo s ≠ "") (hpresent : s.env.gbLoopApresent s.asked = true) :
    OpeningRecorded s (after manualOpenBarrier s) ↔ RecordsOpening s := by
  cases hs with
  | entry s hentry =>
      have hIU : s.tEntry.sIUTKNo ≠ "" := by rwa [vehicleNo, if_pos hentry] at hknown
      have hsaves := saves_manualOpen_entry hentry hIU hpresent
      have hbarrier := barrierOpen_manualOpen_entry hentry hIU hpresent
      rw [OpeningRecorded, RecordsOpening, hsaves, hbarrier]
      cases hsaved : s.tProcess.gbsavedtrans with
      | true => simp [hentry]
      | false => simp [hentry]
  | exit s events hs =>
      have hbooks : Books s := ⟨hs.iType, hs.noEntry, by rw [hs.noCalls]; trivial⟩
      have hreached := history_records hbooks depth events
      have hexit : (history depth events s).gtStation.iType ≠ .tientry := by
        rw [hreached.iType]
        decide
      have hsaves := saves_manualOpen_exit hexit hreached.noEntry
      rw [OpeningRecorded, RecordsOpening, hsaves]
      cases hsaved : (history depth events s).tProcess.gbsavedtrans with
      | true => simp [hexit]
      | false => simp [hexit]

/-- A vehicle that has not been let in, since the car park is full. -/
def fullEntry : Station := { emptyEntry with tEntry.sIUTKNo := "1234567890" }

theorem openingRecorded_iff_entry :
    OpeningRecorded fullEntry (after manualOpenBarrier fullEntry) ↔ RecordsOpening fullEntry := by
  have hoperating : Operating 3 fullEntry := .entry fullEntry rfl
  apply openingRecorded_iff hoperating
  · decide
  · rfl

/-- A vehicle that has been let in. -/
def savedEntry : Station := history 3 [.antennaIUCome "1234567890"] emptyEntry

/-- The vehicle that waits at the exit is not recorded, and the one that has been let in is
recorded again. -/
theorem not_openingRecorded :
    (Operating 3 waitingExit ∧ vehicleNo waitingExit = "1111111111" ∧
      ¬OpeningRecorded waitingExit (after manualOpenBarrier waitingExit)) ∧
    (Operating 3 savedEntry ∧ vehicleNo savedEntry = "1234567890" ∧
      ¬OpeningRecorded savedEntry (after manualOpenBarrier savedEntry)) := by
  refine ⟨⟨.exit _ _ newExit_emptyExit, by decide +kernel, ?_⟩,
    ⟨.entry _ (by decide +kernel), by decide +kernel, ?_⟩⟩
  · have hunsaved : waitingExit.tProcess.gbsavedtrans = false := by decide +kernel
    rw [OpeningRecorded, hunsaved, if_neg Bool.false_ne_true]
    rintro ⟨hsaves, -⟩
    revert hsaves
    decide +kernel
  · have hsaved : savedEntry.tProcess.gbsavedtrans = true := by decide +kernel
    rw [OpeningRecorded, hsaved, if_pos rfl]
    decide +kernel

end LinuxPBS.Operation
