import Mathlib.Data.String.Basic
import Mathlib.Order.Fin.Basic
import Mathlib.Data.Fin.Tuple.Basic
import LinuxPBS.Db.Reload

/-!
# The tariff without an entry

A row of `X_Tariff` has five slots of the day and four cut-off times between them:

```text
slot 0   up to time 1
slot 1   up to time 2
slot 2   up to time 3
slot 3   up to time 4
slot 4   after time 4
```

`GetXTariff` compares the time with the four cut-offs and is left when one of them is
not before it.  There is no comparison for the last slot: after the fourth cut-off of a
row the loop goes on with the next row, and behind the last row nothing has been set.
-/

namespace LinuxPBS.Db

open CxxText

/-- `CE_Time::HMTimeString` -/
def hmTimeString (hour minute : ℕ) : String :=
  let twoDigits (n : ℕ) : List Char :=
    List.replicate (2 - (Nat.toDigits 10 n).length) '0' ++ Nat.toDigits 10 n
  String.ofList (twoDigits hour ++ ':' :: twoDigits minute)

namespace XTariff

variable (tariff : XTariff)

/-- `time[i]`, `autocharge[i]` and `fee[i]` -/
def slot (i : Fin 5) : XTariffSlot := tariff.slots.getD i {}

/-- The day index is one of those the row lists, all of them between commas. -/
def Lists (dayIndex : ℤ) : Prop :=
  ("," ++ toString dayIndex ++ ",").toList <:+: ("," ++ tariff.dayIndex ++ ",").toList

instance (dayIndex : ℤ) : Decidable (tariff.Lists dayIndex) :=
  inferInstanceAs (Decidable (_ <:+: _))

/-- The first of the slots 0 to 3 whose cut-off is not before the time. -/
def slotUpTo (currentTime : String) : Option (Fin 4) :=
  Fin.find? fun slot => currentTime ≤ (tariff.slot slot.succ).time

/-- The flag and the fee of a slot, none where one of them is no number. -/
def charge (i : Fin 5) : Option (ℤ × ℚ) :=
  match stoi (tariff.slot i).autocharge, stof (tariff.slot i).fee with
  | some selectedAutoDebit, some selectedAmount => some (selectedAutoDebit, selectedAmount)
  | _, _ => none

end XTariff

/-- The loop of `GetXTariff` over the rows; none where it is left with `0`. -/
def findXTariff (dayIndex : ℤ) (currentTime : String) : List XTariff → Option (ℤ × ℚ)
  | [] => none
  | tariff :: rest =>
      if tariff.Lists dayIndex then
        match tariff.slotUpTo currentTime with
        | some slot => tariff.charge slot.castSucc
        | none => findXTariff dayIndex currentTime rest
      else findXTariff dayIndex currentTime rest

/-- `GetXTariff`: what it returns, and its two variables afterwards. -/
def getXTariff (msxtariff : List XTariff) (dayType : ℤ) (currentTime : String) (vehicleType : ℤ)
    (autoDebit : Option ℤ) (amount : Option ℚ) : ℤ × Option ℤ × Option ℚ :=
  if dayType < 0 then (0, autoDebit, amount)
  else
    match findXTariff (dayType + vehicleType * 3) currentTime msxtariff with
    | some (selectedAutoDebit, selectedAmount) => (1, some selectedAutoDebit, some selectedAmount)
    | none => (0, autoDebit, amount)

/-! ## The slots of a day -/

namespace XTariff

variable (tariff : XTariff) (currentTime : String)

/-- The time is in the slot: after every cut-off before it, and not after its own. -/
def InSlot (i : Fin 5) : Prop :=
  (∀ slot : Fin 4, slot.castSucc < i → (tariff.slot slot.succ).time < currentTime) ∧
    ∀ slot : Fin 4, slot.castSucc = i → currentTime ≤ (tariff.slot slot.succ).time

variable {tariff currentTime}

theorem slotUpTo_eq_some_iff {slot : Fin 4} :
    tariff.slotUpTo currentTime = some slot ↔ tariff.InSlot currentTime slot.castSucc := by
  unfold slotUpTo InSlot
  simp only [Fin.find?_eq_some_iff, decide_eq_true_eq, decide_eq_false_iff_not, not_le,
    Fin.castSucc_lt_castSucc_iff, Fin.castSucc_inj, forall_eq, and_comm]

end XTariff

/-! ## The row that decides -/

/-- The row lists the day, and the time is not after its last cut-off. -/
def XTariff.Decides (dayIndex : ℤ) (currentTime : String) (tariff : XTariff) : Prop :=
  tariff.Lists dayIndex ∧ (tariff.slotUpTo currentTime).isSome = true

instance (dayIndex : ℤ) (currentTime : String) (tariff : XTariff) :
    Decidable (tariff.Decides dayIndex currentTime) :=
  inferInstanceAs (Decidable (_ ∧ _))

/-- The charge of the slot a row is left at. -/
def XTariff.chargeUpTo (currentTime : String) (tariff : XTariff) : Option (ℤ × ℚ) :=
  (tariff.slotUpTo currentTime).bind fun slot => tariff.charge slot.castSucc

/-- The rows that list the day but end before the time are passed over like the others. -/
theorem findXTariff_eq (dayIndex : ℤ) (currentTime : String) (msxtariff : List XTariff) :
    findXTariff dayIndex currentTime msxtariff =
      (msxtariff.find? fun tariff => tariff.Decides dayIndex currentTime).bind
        (XTariff.chargeUpTo currentTime) := by
  induction msxtariff with
  | nil => rfl
  | cons tariff rest ih =>
      unfold findXTariff
      by_cases hlists : tariff.Lists dayIndex
      · rw [if_pos hlists]
        cases hslot : tariff.slotUpTo currentTime with
        | none =>
            have hpassed : ¬tariff.Decides dayIndex currentTime := by
              rintro ⟨-, hsome⟩
              rw [hslot] at hsome
              cases hsome
            rw [List.find?_cons_of_neg (by simpa using hpassed)]
            exact ih
        | some slot =>
            have hdecides : tariff.Decides dayIndex currentTime := ⟨hlists, by rw [hslot]; rfl⟩
            rw [List.find?_cons_of_pos (by simpa using hdecides), Option.bind_some,
              XTariff.chargeUpTo, hslot, Option.bind_some]
      · have hpassed : ¬tariff.Decides dayIndex currentTime := fun hdecides => hlists hdecides.1
        rw [if_neg hlists, List.find?_cons_of_neg (by simpa using hpassed)]
        exact ih

section WholeDay

variable (msxtariff : List XTariff) (dayType : ℤ) (currentTime : String) (vehicleType : ℤ)

/-- When a row lists the day, `1` is returned with the flag and the fee of the slot of such a row
that the time is in. -/
def WholeDay : Prop :=
  0 ≤ dayType → (∃ tariff ∈ msxtariff, tariff.Lists (dayType + vehicleType * 3)) →
    ∃ tariff ∈ msxtariff, tariff.Lists (dayType + vehicleType * 3) ∧
      ∃ i selectedAutoDebit selectedAmount, tariff.InSlot currentTime i ∧
        tariff.charge i = some (selectedAutoDebit, selectedAmount) ∧
        ∀ autoDebit amount,
          getXTariff msxtariff dayType currentTime vehicleType autoDebit amount =
            (1, some selectedAutoDebit, some selectedAmount)

/-- The first row that lists the day and has a cut-off not before the time has numbers in the
slot up to this cut-off. -/
def Covered : Prop :=
  0 ≤ dayType ∧ ∃ tariff,
    (msxtariff.find? fun tariff => tariff.Decides (dayType + vehicleType * 3) currentTime) =
        some tariff ∧
      (tariff.chargeUpTo currentTime).isSome = true

instance : Decidable (Covered msxtariff dayType currentTime vehicleType) :=
  decidable_of_iff (0 ≤ dayType ∧
      ((msxtariff.find? fun tariff =>
        tariff.Decides (dayType + vehicleType * 3) currentTime).any
          fun tariff => (tariff.chargeUpTo currentTime).isSome) = true) <| by
    unfold Covered
    rw [Option.any_eq_true]

variable {msxtariff dayType currentTime vehicleType}

theorem covered_iff :
    Covered msxtariff dayType currentTime vehicleType ↔
      0 ≤ dayType ∧
        (findXTariff (dayType + vehicleType * 3) currentTime msxtariff).isSome = true := by
  rw [findXTariff_eq, Option.isSome_bind, Option.any_eq_true]
  rfl

/-- Both variables are set together, and only when `1` is returned. -/
theorem getXTariff_of_covered (hcovered : Covered msxtariff dayType currentTime vehicleType) :
    ∃ selectedAutoDebit selectedAmount,
      findXTariff (dayType + vehicleType * 3) currentTime msxtariff =
          some (selectedAutoDebit, selectedAmount) ∧
        ∀ autoDebit amount,
          getXTariff msxtariff dayType currentTime vehicleType autoDebit amount =
            (1, some selectedAutoDebit, some selectedAmount) := by
  obtain ⟨hday, hfound⟩ := covered_iff.mp hcovered
  obtain ⟨⟨selectedAutoDebit, selectedAmount⟩, hfind⟩ := Option.isSome_iff_exists.mp hfound
  refine ⟨selectedAutoDebit, selectedAmount, hfind, ?_⟩
  intro autoDebit amount
  rw [getXTariff, if_neg (not_lt.mpr hday), hfind]

theorem getXTariff_of_not_covered
    (huncovered : ¬Covered msxtariff dayType currentTime vehicleType)
    (autoDebit : Option ℤ) (amount : Option ℚ) :
    getXTariff msxtariff dayType currentTime vehicleType autoDebit amount =
      (0, autoDebit, amount) := by
  unfold getXTariff
  split_ifs with hday
  · rfl
  · have hnone : findXTariff (dayType + vehicleType * 3) currentTime msxtariff = none := by
      rw [← Option.not_isSome_iff_eq_none]
      exact fun hsome => huncovered (covered_iff.mpr ⟨not_lt.mp hday, hsome⟩)
    rw [hnone]

theorem wholeDay_iff :
    WholeDay msxtariff dayType currentTime vehicleType ↔
      Covered msxtariff dayType currentTime vehicleType ∨ dayType < 0 ∨
        ∀ tariff ∈ msxtariff, ¬tariff.Lists (dayType + vehicleType * 3) := by
  constructor
  · intro hwhole
    by_contra hnone
    push Not at hnone
    obtain ⟨huncovered, hday, tariff, hmem, hlists⟩ := hnone
    obtain ⟨_, -, -, _, _, _, -, -, hreturns⟩ := hwhole hday ⟨tariff, hmem, hlists⟩
    have hzero := getXTariff_of_not_covered huncovered none none
    rw [hreturns] at hzero
    cases hzero
  · rintro (hcovered | hnegative | hunlisted)
    · intro _ _
      obtain ⟨selectedAutoDebit, selectedAmount, hfind, hreturns⟩ :=
        getXTariff_of_covered hcovered
      obtain ⟨-, tariff, hfirst, -⟩ := hcovered
      rw [findXTariff_eq, hfirst, Option.bind_some, XTariff.chargeUpTo,
        Option.bind_eq_some_iff] at hfind
      obtain ⟨slot, hslot, hcharge⟩ := hfind
      have hdecides : tariff.Decides (dayType + vehicleType * 3) currentTime := by
        simpa using List.find?_some hfirst
      exact ⟨tariff, List.mem_of_find?_eq_some hfirst, hdecides.1, slot.castSucc,
        selectedAutoDebit, selectedAmount, XTariff.slotUpTo_eq_some_iff.mp hslot, hcharge, hreturns⟩
    · intro hday
      exact absurd hnegative (not_lt.mpr hday)
    · rintro _ ⟨tariff, hmem, hlists⟩
      exact absurd hlists (hunlisted tariff hmem)

end WholeDay

end LinuxPBS.Db
