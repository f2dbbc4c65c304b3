import LinuxPBS.Operation.Closing

/-!
# Who is let in

`PBSEntry` asks for the blacklist, for the type of the vehicle and for its season, one
answer after the other, and returns at the first one that keeps the vehicle out.
`Admits` puts the answers into one condition on a transaction type, and `letsIn_spec`
says that the code follows it for `toldType`, the type it has in `tEntry.iTransType`.

`toldType` is not always the type of the vehicle: under EEP the type that belongs to the
VCC is written to `tExit`, and `tEntry` keeps the type it had before.  A vehicle without a
valid season is saved with type 1 whatever it is.
-/

set_option synthInstance.maxSize 10000

namespace LinuxPBS.Operation

open Handler CxxText Common Db

/-! ## The answers -/

/-- `GetVTypeFromLoop` from question `n` on, with the number of the next question. -/
def loopType (env : Env) (n : ℕ) : ℤ × ℕ :=
  if env.lorrySensor n then (4, n + 1)
  else if !env.loopBStatus (n + 1) then (7, n + 2)
  else if env.loopAStatus (n + 2) then (1, n + 3)
  else (7, n + 3)

section Answers

variable (s : Station) (sIU : String)

/-- The answer of the blacklist; `0` blocks the vehicle. -/
def blacklisted : ℤ := s.env.isBlackListIU (s.asked + 1) sIU

/-- The type of the vehicle is that of its VCC. -/
def UsesVCC : Prop := sIU.length = 10 ∧ s.tParas.giEPS = 3 ∧ s.tEntry.vcc ≠ ""

instance : Decidable (UsesVCC s sIU) := inferInstanceAs (Decidable (_ ∧ _))

/-- The type of the vehicle: by the VCC of its OBU, by its IU or by the loops. -/
def vehicleType : ℤ :=
  if sIU.length = 10 then
    s.env.getVehicleType (s.asked + 2)
      (if s.tParas.giEPS = 3 ∧ s.tEntry.vcc ≠ "" then substr0 s.tEntry.vcc 3 else substr0 sIU 3)
  else (loopType s.env (s.asked + 2)).1

/-- The type `PBSEntry` goes by: the one in `tEntry`, which the VCC does not change. -/
def toldType : ℤ := if UsesVCC s sIU then s.tEntry.iTransType else vehicleType s sIU

/-- What is asked for the season, by the number of the question. -/
def seasonAsked : ℕ :=
  if sIU.length = 10 then s.asked + 3 else (loopType s.env (s.asked + 2)).2

/-- The return code of `isvalidseason`; `1` is a valid season. -/
def seasonRet : ℤ := (s.env.isvalidseason (seasonAsked s sIU) sIU 1).1

/-- The rate type of the season. -/
def seasonRate : Option ℤ :=
  stoi ((s.env.isvalidseason (seasonAsked s sIU) sIU 1).2.getD s.tSeason).rate_type

/-- The car park is full and takes nobody. -/
def Locked : Prop := s.tProcess.gbcarparkfull = true ∧ s.tParas.giFullAction = .iLock

/-- The season, or what is done without one, lets the vehicle in. -/
structure BySeason : Prop where
  hourly : seasonRet s sIU ≠ 1 → stoi s.env.notAllowHourly ≠ some 1
  full : s.tProcess.gbcarparkfull = true → seasonRet s sIU = 1
  wholeDay : s.tProcess.gbcarparkfull = true → s.tParas.giFullAction = .iNoPartial →
    seasonRate s sIU = some 0
  passback : ¬(seasonRet s sIU = 6 ∧ sIU.length > 10)

/-- A vehicle of this type is admissible. -/
structure Admits (type : ℤ) : Prop where
  blacklist : blacklisted s sIU ≠ 0
  block : isBlocked s.env sIU = false
  authorised : type = 9 ∨ (¬Locked s ∧ BySeason s sIU)

/-- The numbers that `PBSEntry` reads are numbers. -/
structure Readable : Prop where
  rate : seasonRet s sIU ≠ 8 → (seasonRate s sIU).isSome = true
  notAllowHourly : seasonRet s sIU ≠ 1 → (stoi s.env.notAllowHourly).isSome = true

/-- The transaction type of a valid season. -/
def typeBySeason (type : ℤ) : ℤ :=
  getSeasonTransType ((type - 1).tdiv 3) ((seasonRate s sIU).getD 0) type

/-- The transaction type of a vehicle: its own, changed only by a valid season. -/
def ownType (type : ℤ) : ℤ :=
  if type = 9 then 9 else if seasonRet s sIU = 1 then typeBySeason s sIU type else type

/-- The transaction type that is saved. -/
def savedType (type : ℤ) : ℤ :=
  if type = 9 then 9 else if seasonRet s sIU = 1 then typeBySeason s sIU type else 1

end Answers

/-! ## The outcome -/

/-- An entry with this transaction type is saved, and then `Openbarrier` is called. -/
def LetIn (iTransType : ℤ) (s s' : Station) : Prop :=
  ∃ t row ret, t.calls = .insertentrytrans row ret :: s.calls ∧ row.iTransType = iTransType ∧
    s' = after (openbarrier 0) t

/-- Nothing is saved, and `Openbarrier` is not called. -/
def KeptOut (s s' : Station) : Prop := s'.calls = s.calls

/-- The vehicle is let in if it is admitted, and kept out if not. -/
structure Decides (admitted : Prop) (iTransType : ℤ) (s s' : Station) : Prop where
  letIn : admitted → LetIn iTransType s s'
  keptOut : ¬admitted → KeptOut s s'

theorem Decides.of_keptOut {admitted : Prop} {iTransType : ℤ} {s s' : Station} (hout : KeptOut s s')
    (hnot : ¬admitted) : Decides admitted iTransType s s' :=
  ⟨fun hadmitted => absurd hadmitted hnot, fun _ => hout⟩

section Outcome

variable {s t : Station} {sIU : String}

theorem getVTypeFromLoop_eq (s : Station) :
    getVTypeFromLoop s =
      .ok (loopType s.env s.asked).1 { s with asked := (loopType s.env s.asked).2 } := by
  unfold loopType
  cases hlorry : s.env.lorrySensor s.asked <;> cases hB : s.env.loopBStatus (s.asked + 1) <;>
    cases hA : s.env.loopAStatus (s.asked + 2) <;>
    simp [getVTypeFromLoop, ask_bind, hlorry, hB, hA] <;> rfl

/-- Two questions later, the type is in `tEntry` when it is not that of the VCC. -/
theorem entryTransType_eq {tEntry : TEntry} (hvcc : tEntry.vcc = s.tEntry.vcc)
    (htype : tEntry.iTransType = s.tEntry.iTransType) (sent : List Message) :
    ∃ tExit, entryTransType sIU { s with asked := s.asked + 2, tEntry := tEntry, sent := sent } =
      .ok () { s with
        asked := seasonAsked s sIU
        tEntry := { tEntry with iTransType := toldType s sIU }
        tExit := tExit
        sent := sent } := by
  by_cases hlength : sIU.length = 10
  · have hasked : seasonAsked s sIU = s.asked + 3 := by rw [seasonAsked, if_pos hlength]
    by_cases hVCC : s.tParas.giEPS = 3 ∧ s.tEntry.vcc ≠ ""
    · have htold : toldType s sIU = tEntry.iTransType := by
        rw [toldType, if_pos (show UsesVCC s sIU from ⟨hlength, hVCC⟩), htype]
      rw [htold, hasked, entryTransType, get_bind, if_pos hlength,
        if_pos (show s.tParas.giEPS = 3 ∧ tEntry.vcc ≠ "" from hvcc ▸ hVCC)]
      exact ⟨{ s.tExit with
        iTransType := s.env.getVehicleType (s.asked + 2) (substr0 tEntry.vcc 3) }, rfl⟩
    · have htold : toldType s sIU = s.env.getVehicleType (s.asked + 2) (substr0 sIU 3) := by
        rw [toldType, if_neg (fun h : UsesVCC s sIU => hVCC h.2), vehicleType, if_pos hlength,
          if_neg hVCC]
      rw [htold, hasked, entryTransType, get_bind, if_pos hlength,
        if_neg (show ¬(s.tParas.giEPS = 3 ∧ tEntry.vcc ≠ "") from hvcc ▸ hVCC)]
      exact ⟨s.tExit, rfl⟩
  · have hasked : seasonAsked s sIU = (loopType s.env (s.asked + 2)).2 := by
      rw [seasonAsked, if_neg hlength]
    have htold : toldType s sIU = (loopType s.env (s.asked + 2)).1 := by
      rw [toldType, if_neg (fun h : UsesVCC s sIU => hlength h.1), vehicleType, if_neg hlength]
    rw [htold, hasked, entryTransType, get_bind, if_neg hlength, bind_of_ok (getVTypeFromLoop_eq _)]
    exact ⟨s.tExit, rfl⟩

instance : Frames Station.calls refuseEntry := by
  unfold refuseEntry sendMsg2OBU
  infer_instance

/-! ### Saving -/

/-- `SaveEntry` of a vehicle with a number. -/
theorem saveEntry_eq (hIU : t.tEntry.sIUTKNo ≠ "") :
    ∃ row ret t', saveEntry t = .ok () t' ∧ t'.calls = .insertentrytrans row ret :: t.calls ∧
      row.iTransType = t.tEntry.iTransType ∧ row.sIUTKNo = t.tEntry.sIUTKNo ∧
      row.iStatus = t.tEntry.iStatus := by
  obtain ⟨row, ret, t₁, hok₁, hcalls₁, hrow⟩ : ∃ row ret t₁, insertentrytrans t = .ok ret t₁ ∧
      t₁.calls = .insertentrytrans row ret :: t.calls ∧
      row.iTransType = t.tEntry.iTransType ∧ row.sIUTKNo = t.tEntry.sIUTKNo ∧
      row.iStatus = t.tEntry.iStatus := ⟨_, _, _, rfl, rfl, rfl, rfl, rfl⟩
  unfold saveEntry
  rw [get_bind, if_neg hIU, bind_of_ok hok₁]
  generalize hrest : (ask Env.steadyClock >>= fun _ => _ : Op Unit) = rest
  have hreturns : Returns rest := by
    rw [← hrest]
    unfold sendMsg2Server
    dsimp only
    infer_instance
  have hframes : Frames Station.calls rest := by
    rw [← hrest]
    dsimp only
    infer_instance
  obtain ⟨⟨⟩, t₂, hok₂⟩ := hreturns.returns t₁
  exact ⟨row, ret, t₂, hok₂, (Frames.of_ok hok₂).trans hcalls₁, hrow⟩

/-- An authorised vehicle is saved and let in. -/
theorem letIn_authorised (hIU : t.tEntry.sIUTKNo ≠ "") :
    LetIn t.tEntry.iTransType t (after (do
      modify fun s => { s with tEntry.iStatus := 0 }
      saveEntry
      openbarrier 0
      pure ()) t) := by
  obtain ⟨row, ret, t', hok, hcalls, htype, -⟩ :=
    saveEntry_eq (t := { t with tEntry.iStatus := 0 }) hIU
  refine ⟨t', row, ret, hcalls, htype, ?_⟩
  rw [after_modify_bind, after_bind_of_ok hok, bind_pure_unit]

/-- `PBSEntry` lets a vehicle in: without a valid season its type becomes 1. -/
theorem letIn_saved (hIU : t.tEntry.sIUTKNo ≠ "") (iRet : ℤ) :
    LetIn (if iRet = 1 then t.tEntry.iTransType else 1) t (after (letIn sIU iRet) t) := by
  have hend {u : Station} {type : ℤ} (hcalls : u.calls = t.calls) (hnumber : u.tEntry.sIUTKNo ≠ "")
      (htype : u.tEntry.iTransType = type) :
      LetIn type t (after (do
        saveEntry
        modify fun s => { s with tEntry.gbEntryOK := true }
        openbarrier 0) u) := by
    obtain ⟨row, ret, u', hok, hsaved, hrow, -⟩ := saveEntry_eq hnumber
    refine ⟨{ u' with tEntry.gbEntryOK := true }, row, ret, ?_, hrow.trans htype, ?_⟩
    · rw [hsaved, hcalls]
    · rw [after_bind_of_ok hok, after_modify_bind]
  by_cases hone : iRet = 1
  · subst hone
    rw [letIn, if_pos (Or.inl rfl), after_modify_bind, if_pos rfl]
    exact hend (u := { t with tProcess.giShowType := 0 }) rfl hIU rfl
  · rw [if_neg hone]
    simp only [letIn, ne_eq, hone, not_false_eq_true, if_true, after_get_bind, after_ask_bind,
      after_modify_bind, after_ite, false_or]
    split_ifs <;>
    · refine hend ?_ ?_ ?_
      · rfl
      · exact hIU
      · rfl

/-! ### The season -/

/-- The type that `FormatSeasonMsg` leaves in `tEntry`. -/
def seasonType (s : Station) (sIU : String) (iVehicleType iTransType : ℤ) : ℤ :=
  if seasonRet s sIU = 8 then iTransType
  else getSeasonTransType iVehicleType ((seasonRate s sIU).getD 0) iTransType

variable {tEntry : TEntry} {tExit : TExit} {sent : List Message}

/-- `CheckSeason` when it can read the rate type. -/
theorem checkSeason_eq (hentry : s.gtStation.iType = .tientry)
    (hrate : seasonRet s sIU ≠ 8 → (seasonRate s sIU).isSome = true) :
    ∃ giShowType, checkSeason sIU 1 { s with
        asked := seasonAsked s sIU, tEntry := tEntry, tExit := tExit, sent := sent } =
      .ok (seasonRet s sIU) { s with
        asked := seasonAsked s sIU + 1
        tSeason := (s.env.isvalidseason (seasonAsked s sIU) sIU 1).2.getD s.tSeason
        tProcess := { s.tProcess with giShowType := giShowType }
        tEntry := { tEntry with
          iTransType := seasonType s sIU tEntry.iVehicleType tEntry.iTransType }
        tExit := tExit
        sent := sent } := by
  unfold seasonType
  by_cases height : seasonRet s sIU = 8
  · rw [if_pos height]
    unfold seasonRet at height ⊢
    refine ⟨s.tProcess.giShowType, ?_⟩
    rw [checkSeason, ask_bind, modify_bind, if_neg (not_not.mpr height)]
    rfl
  · rw [if_neg height]
    obtain ⟨rate, hsome⟩ := Option.isSome_iff_exists.mp (hrate height)
    rw [hsome]
    unfold seasonRet at height ⊢
    unfold seasonRate at hsome
    refine ⟨0, ?_⟩
    rw [checkSeason, ask_bind, modify_bind, if_pos height, formatSeasonMsg, bind_assoc, get_bind]
    dsimp only
    rw [hsome, orThrow_some, pure_bind, bind_assoc, get_bind, if_pos (by exact hentry)]
    rfl

/-- `CheckSeason` throws when it cannot read the rate type. -/
theorem calls_checkSeason_bind {β : Type} (height : seasonRet s sIU ≠ 8)
    (hrate : seasonRate s sIU = none) (k : ℤ → Op β) :
    (after (checkSeason sIU 1 >>= k) { s with
      asked := seasonAsked s sIU, tEntry := tEntry, tExit := tExit, sent := sent }).calls =
        s.calls := by
  unfold seasonRet at height
  unfold seasonRate at hrate
  rw [checkSeason, bind_assoc, after_ask_bind, bind_assoc, after_modify_bind, if_pos height,
    formatSeasonMsg]
  simp only [bind_assoc, after_get_bind]
  rw [hrate, orThrow_none, throw_bind, after_throw]

theorem LetIn.of_calls {type : ℤ} {s' : Station} (hcalls : t.calls = s.calls) (hin : LetIn type t s') :
    LetIn type s s' := by
  obtain ⟨u, row, ret, hsaved, htype, hafter⟩ := hin
  exact ⟨u, row, ret, hcalls ▸ hsaved, htype, hafter⟩

/-- The part of `PBSEntry` from the season on follows the season. -/
theorem decides_admitBySeason (hentry : s.gtStation.iType = .tientry) (hIU : tEntry.sIUTKNo ≠ "") :
    Decides (BySeason s sIU ∧ Readable s sIU)
      (if seasonRet s sIU = 1 then
        getSeasonTransType tEntry.iVehicleType ((seasonRate s sIU).getD 0) tEntry.iTransType else 1)
      s (after (admitBySeason sIU) { s with
        asked := seasonAsked s sIU, tEntry := tEntry, tExit := tExit, sent := sent }) := by
  by_cases hrate : seasonRet s sIU ≠ 8 → (seasonRate s sIU).isSome = true
  swap
  · have hnot : ¬(BySeason s sIU ∧ Readable s sIU) := fun h => hrate h.2.rate
    rw [not_forall] at hrate
    obtain ⟨height, hnone⟩ := hrate
    rw [Option.not_isSome_iff_eq_none] at hnone
    exact .of_keptOut (calls_checkSeason_bind height hnone _) hnot
  obtain ⟨giShowType, hcheck⟩ := @checkSeason_eq s sIU tEntry tExit sent hentry hrate
  rw [admitBySeason, after_bind_of_ok hcheck]
  -- the rest of the procedure, once an hourly vehicle has been let pass
  generalize hpassed : ({ s with
    asked := seasonAsked s sIU + 1
    tSeason := (s.env.isvalidseason (seasonAsked s sIU) sIU 1).2.getD s.tSeason
    tProcess := { s.tProcess with giShowType := giShowType }
    tEntry := { tEntry with iTransType := seasonType s sIU tEntry.iVehicleType tEntry.iTransType }
    tExit := tExit
    sent := sent } : Station) = t
  have hcalls : t.calls = s.calls := by rw [← hpassed]
  have henv : t.env = s.env := by rw [← hpassed]
  have hfull : t.tProcess.gbcarparkfull = s.tProcess.gbcarparkfull := by rw [← hpassed]
  have hparas : t.tParas = s.tParas := by rw [← hpassed]
  have hnumber : t.tEntry.sIUTKNo ≠ "" := by rwa [← hpassed]
  have hread : stoi t.tSeason.rate_type = seasonRate s sIU := by rw [← hpassed]; rfl
  have htype : t.tEntry.iTransType =
      seasonType s sIU tEntry.iVehicleType tEntry.iTransType := by rw [← hpassed]
  have hrefused : KeptOut s (after (do refuseEntry; pure ()) t) :=
    (Frames.after_eq Station.calls (refuseEntry >>= fun _ => pure ()) t).trans hcalls
  have hlet : LetIn (if seasonRet s sIU = 1 then t.tEntry.iTransType else 1) s
      (after (letIn sIU (seasonRet s sIU)) t) := (letIn_saved hnumber _).of_calls hcalls
  by_cases hone : seasonRet s sIU = 1
  · have height : seasonRet s sIU ≠ 8 := by omega
    have hsix : ¬(seasonRet s sIU = 6 ∧ sIU.length > 10) := fun h => by omega
    rw [if_pos hone, htype, seasonType, if_neg height] at hlet
    obtain ⟨rate, hsome⟩ := Option.isSome_iff_exists.mp (hrate height)
    have hreadable : Readable s sIU := ⟨hrate, fun hnot => absurd hone hnot⟩
    rw [if_pos hone, if_neg (not_not.mpr hone), after_get_bind, hfull]
    by_cases hcarpark : s.tProcess.gbcarparkfull = true
    · rw [if_pos hcarpark, if_pos hone, after_get_bind, hread, hsome, orThrow_some, pure_bind,
        after_get_bind, hparas]
      by_cases hpartial : rate ≠ 0 ∧ s.tParas.giFullAction = .iNoPartial
      · rw [if_pos hpartial]
        refine .of_keptOut ?_ fun h => hpartial.1 ?_
        · exact hrefused
        · have hzero := h.1.wholeDay hcarpark hpartial.2
          rw [hsome, Option.some.injEq] at hzero
          exact hzero
      · rw [if_neg hpartial, if_neg hsix]
        refine ⟨fun _ => ?_, fun h => absurd ⟨⟨fun hnot => absurd hone hnot, fun _ => hone, ?_, hsix⟩,
          hreadable⟩ h⟩
        · rw [hone, hsome] at hlet
          rw [hone]
          exact hlet
        · intro _ haction
          rw [hsome]
          by_contra hzero
          exact hpartial ⟨fun h => hzero (congrArg some h), haction⟩
    · rw [if_neg hcarpark, if_neg hsix]
      refine ⟨fun _ => ?_, fun h => absurd ⟨⟨fun hnot => absurd hone hnot,
        fun hfull => absurd hfull hcarpark, fun hfull => absurd hfull hcarpark, hsix⟩, hreadable⟩ h⟩
      rw [hone] at hlet ⊢
      exact hlet
  · rw [if_neg hone] at hlet ⊢
    rw [if_pos hone, after_get_bind, henv]
    cases hhourly : CxxText.stoi s.env.notAllowHourly with
    | none =>
        rw [orThrow_none, throw_bind, after_throw]
        refine .of_keptOut hcalls fun h => ?_
        have hread := h.2.notAllowHourly hone
        rw [hhourly] at hread
        cases hread
    | some notAllowHourly =>
        have hreadable : Readable s sIU := ⟨hrate, fun _ => by rw [hhourly]; rfl⟩
        rw [orThrow_some, pure_bind]
        by_cases honly : notAllowHourly = 1
        · rw [if_pos honly]
          refine .of_keptOut hrefused fun h => h.1.hourly hone ?_
          rw [hhourly, honly]
        rw [if_neg honly, after_get_bind, hfull]
        by_cases hcarpark : s.tProcess.gbcarparkfull = true
        · rw [if_pos hcarpark, if_neg hone]
          exact .of_keptOut hrefused fun h => hone (h.1.full hcarpark)
        rw [if_neg hcarpark]
        by_cases hpassback : seasonRet s sIU = 6 ∧ sIU.length > 10
        · rw [if_pos hpassback]
          exact .of_keptOut hcalls fun h => h.1.passback hpassback
        rw [if_neg hpassback]
        refine ⟨fun _ => hlet, fun h => absurd ⟨⟨fun _ => ?_, fun hfull => absurd hfull hcarpark,
          fun hfull => absurd hfull hcarpark, hpassback⟩, hreadable⟩ h⟩
        rw [hhourly, ne_eq, Option.some.injEq]
        exact honly

/-- The part of `PBSEntry` from the transaction type on. -/
theorem decides_byType (hentry : s.gtStation.iType = .tientry) (hIU : tEntry.sIUTKNo ≠ "")
    (hvcc : tEntry.vcc = s.tEntry.vcc) (htype : tEntry.iTransType = s.tEntry.iTransType)
    (sent : List Message) :
    Decides (toldType s sIU = 9 ∨ (¬Locked s ∧ BySeason s sIU ∧ Readable s sIU))
      (savedType s sIU (toldType s sIU)) s (after (do
        entryTransType sIU
        let s ← get
        if s.tEntry.iTransType = 9 then
          modify fun s => { s with tEntry.iStatus := 0 }
          saveEntry
          openbarrier 0
          return
        if s.tProcess.gbcarparkfull ∧ s.tParas.giFullAction = .iLock then return
        modify fun s => { s with tEntry.iVehicleType := (s.tEntry.iTransType - 1).tdiv 3 }
        admitBySeason sIU) { s with asked := s.asked + 2, tEntry := tEntry, sent := sent }) := by
  obtain ⟨tExit, hok⟩ := @entryTransType_eq s sIU _ hvcc htype sent
  rw [after_bind_of_ok hok, after_get_bind, savedType]
  by_cases hnine : toldType s sIU = 9
  · rw [if_pos hnine]
    dsimp only
    rw [if_pos hnine]
    refine ⟨fun _ => ?_, fun h => absurd (Or.inl hnine) h⟩
    have hin := letIn_authorised (t := { s with
      asked := seasonAsked s sIU
      tEntry := { tEntry with iTransType := toldType s sIU }
      tExit := tExit
      sent := sent }) hIU
    rw [← hnine]
    exact hin.of_calls rfl
  · rw [if_neg hnine]
    dsimp only
    rw [if_neg hnine]
    by_cases hlocked : s.tProcess.gbcarparkfull = true ∧ s.tParas.giFullAction = .iLock
    · rw [if_pos hlocked]
      exact .of_keptOut rfl fun h => (h.resolve_left hnine).1 hlocked
    · rw [if_neg hlocked, after_modify_bind]
      obtain ⟨hin, hout⟩ := @decides_admitBySeason s sIU { tEntry with
        iTransType := toldType s sIU
        iVehicleType := (toldType s sIU - 1).tdiv 3 } tExit sent hentry hIU
      refine ⟨fun h => ?_, fun h => ?_⟩
      · exact hin (h.resolve_left hnine).2
      · exact hout fun hseason => h (Or.inr ⟨hlocked, hseason⟩)

/-- `PBSEntry` follows the answers for the type it has in `tEntry`. -/
theorem decides_pbsEntry (hentry : s.gtStation.iType = .tientry) (hIU : sIU ≠ "") :
    Decides (Admits s sIU (toldType s sIU) ∧ (toldType s sIU = 9 ∨ Readable s sIU))
      (savedType s sIU (toldType s sIU)) s (after (pbsEntry sIU) s) := by
  have hrest (sent : List Message) := @decides_byType s sIU { s.tEntry with
    sIUTKNo := sIU, sEntryTime := s.env.now s.asked } hentry hIU rfl rfl sent
  rw [pbsEntry, after_ask_bind, after_modify_bind, if_neg hIU, after_get_bind, sendMsg2Server,
    after_send_bind, after_ask_bind]
  have hreach {sent : List Message} (hblack : blacklisted s sIU ≠ 0)
      (hblock : isBlocked s.env sIU = false) :
      Decides (Admits s sIU (toldType s sIU) ∧ (toldType s sIU = 9 ∨ Readable s sIU))
        (savedType s sIU (toldType s sIU)) s (after (do
          entryTransType sIU
          let s ← get
          if s.tEntry.iTransType = 9 then
            modify fun s => { s with tEntry.iStatus := 0 }
            saveEntry
            openbarrier 0
            return
          if s.tProcess.gbcarparkfull ∧ s.tParas.giFullAction = .iLock then return
          modify fun s => { s with tEntry.iVehicleType := (s.tEntry.iTransType - 1).tdiv 3 }
          admitBySeason sIU) { s with
            asked := s.asked + 2
            tEntry := { s.tEntry with sIUTKNo := sIU, sEntryTime := s.env.now s.asked }
            sent := sent }) := by
    refine ⟨fun h => (hrest sent).letIn ?_, fun h => (hrest sent).keptOut fun hadmitted => h ?_⟩
    · obtain ⟨hadmits, hread⟩ := h
      by_cases hnine : toldType s sIU = 9
      · exact Or.inl hnine
      · exact Or.inr ⟨(hadmits.authorised.resolve_left hnine).1,
          (hadmits.authorised.resolve_left hnine).2, hread.resolve_left hnine⟩
    · rcases hadmitted with hnine | ⟨hlocked, hseason, hread⟩
      · exact ⟨⟨hblack, hblock, Or.inl hnine⟩, Or.inl hnine⟩
      · exact ⟨⟨hblack, hblock, Or.inr ⟨hlocked, hseason⟩⟩, Or.inr hread⟩
  have hkept {s' : Station} (hcalls : s'.calls = s.calls)
      (hnot : ¬(blacklisted s sIU ≠ 0 ∧ isBlocked s.env sIU = false)) :
      Decides (Admits s sIU (toldType s sIU) ∧ (toldType s sIU = 9 ∨ Readable s sIU))
        (savedType s sIU (toldType s sIU)) s s' :=
    .of_keptOut hcalls fun h => hnot ⟨h.1.blacklist, h.1.block⟩
  dsimp only
  by_cases hzero : blacklisted s sIU = 0
  · have hnot : ¬(blacklisted s sIU ≠ 0 ∧ isBlocked s.env sIU = false) := fun h => h.1 hzero
    rw [blacklisted] at hzero
    rw [if_pos hzero.ge, if_pos hzero]
    exact hkept rfl hnot
  · have hblack := hzero
    rw [blacklisted] at hzero
    simp only [if_neg hzero]
    cases hblock : isBlocked s.env sIU
    · split
      · rw [sendMsg2Server, after_send_bind, after_get_bind]
        dsimp only
        rw [hblock, if_neg Bool.false_ne_true]
        exact hreach hblack hblock
      · rw [after_get_bind]
        dsimp only
        rw [hblock, if_neg Bool.false_ne_true]
        exact hreach hblack hblock
    · have hnot : ¬(blacklisted s sIU ≠ 0 ∧ isBlocked s.env sIU = false) := fun h => by
        rw [hblock] at h
        cases h.2
      split
      · rw [sendMsg2Server, after_send_bind, after_get_bind]
        dsimp only
        rw [hblock, if_pos rfl]
        exact hkept rfl hnot
      · rw [after_get_bind]
        dsimp only
        rw [hblock, if_pos rfl]
        exact hkept rfl hnot

end Outcome

/-! ## The right outcome -/

/-- The transaction type of a call that saves an entry. -/
def Call.entryType : Call → Option ℤ
  | .insertentrytrans tEntry _ => some tEntry.iTransType
  | _ => none

/-- The transaction types of the entries that have been saved, the last one first. -/
@[reducible] def savedEntries (s : Station) : List ℤ := s.calls.filterMap Call.entryType

section Right

variable {s s' : Station} {sIU : String}

instance : Frames savedEntries (call .clearme) := ⟨fun _ => List.filterMap_cons_none rfl⟩

instance (iReason : ℤ) : Frames savedEntries (call (.openBarrier iReason)) :=
  ⟨fun _ => List.filterMap_cons_none rfl⟩

instance : Frames savedEntries clearme := by
  unfold clearme
  infer_instance

instance (delay : ℕ) : Frames savedEntries (eepInq delay) := by
  unfold eepInq
  infer_instance

instance (obu : String) : Frames savedEntries (sendMsg2OBU obu) := by
  unfold sendMsg2OBU
  infer_instance

instance (processingResult : ℤ) : Frames savedEntries (endEEPprocess processingResult) := by
  unfold endEEPprocess
  dsimp only
  infer_instance

instance (iReason : ℤ) : Frames savedEntries (openbarrier iReason) := by
  unfold openbarrier
  infer_instance

theorem LetIn.saved {type : ℤ} (hin : LetIn type s s') : savedEntries s' = type :: savedEntries s := by
  obtain ⟨t, row, ret, hcalls, htype, rfl⟩ := hin
  rw [Frames.after_eq savedEntries, savedEntries, hcalls, ← htype]
  exact List.filterMap_cons_some rfl

theorem KeptOut.saved (hout : KeptOut s s') : savedEntries s' = savedEntries s :=
  congrArg (List.filterMap Call.entryType) hout

theorem LetIn.not_keptOut {type : ℤ} (hin : LetIn type s s') : ¬KeptOut s s' := by
  intro hout
  have hlength := congrArg List.length (hin.saved.symm.trans hout.saved)
  rw [List.length_cons] at hlength
  omega

theorem LetIn.unique {type type' : ℤ} (hin : LetIn type s s') (hin' : LetIn type' s s') :
    type = type' := by
  have hcons := hin.saved.symm.trans hin'.saved
  exact (List.cons.inj hcons).1

/-- Two ways to decide agree when they admit the same vehicles with the same type. -/
theorem Decides.iff {admitted code : Prop} {type saved : ℤ} (hcode : Decides code saved s s') :
    Decides admitted type s s' ↔ (admitted → code ∧ saved = type) ∧ (code → admitted) := by
  constructor
  · intro hright
    refine ⟨fun hadmitted => ?_, fun hadmits => ?_⟩
    · have hin := hright.letIn hadmitted
      have hadmits : code := by
        by_contra hnot
        exact hin.not_keptOut (hcode.keptOut hnot)
      exact ⟨hadmits, (hcode.letIn hadmits).unique hin⟩
    · by_contra hnot
      exact (hcode.letIn hadmits).not_keptOut (hright.keptOut hnot)
  · rintro ⟨hagree, hback⟩
    refine ⟨fun hadmitted => ?_, fun hnot => ?_⟩
    · obtain ⟨hadmits, htype⟩ := hagree hadmitted
      exact htype ▸ hcode.letIn hadmits
    · exact hcode.keptOut fun hadmits => hnot (hback hadmits)

/-- The answers are such that `PBSEntry` decides right.  With a type of its own in `tEntry`, an
admissible vehicle is authorised, or it has a valid season or is a car and the numbers can be read.
With the VCC of an OBU, the type that `tEntry` had before must do as well. -/
def Fits (s : Station) (sIU : String) : Prop :=
  if UsesVCC s sIU then
    (Admits s sIU (vehicleType s sIU) →
      (Admits s sIU s.tEntry.iTransType ∧ (s.tEntry.iTransType = 9 ∨ Readable s sIU)) ∧
        savedType s sIU s.tEntry.iTransType = ownType s sIU (vehicleType s sIU)) ∧
    (Admits s sIU s.tEntry.iTransType ∧ (s.tEntry.iTransType = 9 ∨ Readable s sIU) →
      Admits s sIU (vehicleType s sIU))
  else
    Admits s sIU (vehicleType s sIU) → vehicleType s sIU = 9 ∨
      (Readable s sIU ∧ (seasonRet s sIU = 1 ∨ vehicleType s sIU = 1))

theorem savedType_eq_ownType_iff (type : ℤ) :
    savedType s sIU type = ownType s sIU type ↔ type = 9 ∨ seasonRet s sIU = 1 ∨ type = 1 := by
  unfold savedType ownType
  split
  · simp only [true_iff]
    exact Or.inl ‹_›
  · rename_i hnine
    split
    · simp only [true_iff]
      exact Or.inr (Or.inl ‹_›)
    · rename_i hseason
      simp only [hnine, hseason, false_or]
      exact eq_comm

end Right

/-! ## An authorised vehicle under EEP -/

/-- An entry with a car on loop A. -/
def emptyEntry : Station where
  gtStation := { iType := .tientry }
  tEntry := clearedEntry {}

/-- The car park is full and locked, and an OBU with the VCC of an authorised vehicle is read. -/
def lockedEntry : Station where
  env := { getVehicleType := fun _ iuCode => if iuCode = "009" then 9 else 1 }
  gtStation := { iType := .tientry }
  tParas := { giEPS := 3, giFullAction := .iLock }
  tProcess := { gbcarparkfull := true }
  tEntry := { clearedEntry {} with vcc := "009" }

end LinuxPBS.Operation
