import LinuxPBS.Tariff.CalFee

/-!
# The two tariff types

`CalFeeRAM2G` is the fee calculation the operation module calls.  A site has up to two
tariff types, one after the other; `gtarifftypeinfo` says from when to when each of
them applies.  The times are compared as texts.  A stay that begins in the first and
ends behind it is cut in two, and the fees of the two parts are added.

The value is an amount or one of the negative codes of `IsErrorCode`, and the sum does
not tell them apart.
-/

namespace LinuxPBS.Tariff

open CxxText

/-- `tariff_type_info_struct` -/
structure TariffTypeInfo where
  tariffType : String := ""
  startTime : String := ""
  endTime : String := ""
  deriving DecidableEq

/-- What `CalFeeRAM2G` reads besides the tables of `CalFeeRAM2GR`. -/
structure TypedTables extends Tables where
  gtarifftypeinfo : Fin 2 → TariffTypeInfo
  /-- `CE_Time::SetTime` of a text -/
  setTime : String → ℤ

/-- There are two tariff types. -/
instance neZeroTwo : NeZero 2 := ⟨two_ne_zero⟩

/-- "Determine which tariff type is used"; `none` for "Tariff type info Error." -/
def usedTariff (gtarifftypeinfo : Fin 2 → TariffTypeInfo) (entryTime payTime : String) :
    Option (Bool × Bool) :=
  let early := gtarifftypeinfo 0
  let late := gtarifftypeinfo 1
  if entryTime > early.startTime ∧ early.endTime > payTime then some (true, false)
  else if entryTime > early.startTime ∧ entryTime < early.endTime then some (true, true)
  else if entryTime ≤ late.startTime then some (false, false)
  else if late.endTime > payTime then some (false, true)
  else if entryTime < late.endTime then none
  else some (false, false)

namespace TypedTables

variable (tables : TypedTables)

/-- `stoi(gtarifftypeinfo[index].tariff_type) * kTariffTypeMultiplier` -/
def tariffTypeOffset (index : Fin 2) : Option ℤ :=
  (stoi (tables.gtarifftypeinfo index).tariffType).map (· * 40)

/-- `CalFeeRAM2GR` called by `CalFeeRAM2G`; the inner option is for an exception, the outer one for
the fuel. -/
def partFee (fuel : ℕ) (entryTime payTime : String) (iTransType : ℤ) (bNoGT : Bool) :
    Option (Option ℚ) :=
  calFeeRAM2GR tables.toTables fuel (tables.setTime entryTime) (tables.setTime payTime) iTransType
    bNoGT

/-- "Cross two tariff types"; the inner option is for an exception. -/
def crossFee (fuel : ℕ) (entryTime payTime : String) (transType : ℤ) : Option (Option ℚ) :=
  match stoi ((tables.gtariff transType 1).period 0).graceTime with
  | none => some none
  | some graceTime =>
      if diffmin (tables.setTime entryTime) (tables.setTime payTime) ≤ graceTime then some (some 0)
      else
        match tables.tariffTypeOffset 0 with
        | none => some none
        | some earlyOffset =>
            match tables.partFee fuel entryTime (tables.gtarifftypeinfo 0).endTime
                (transType + earlyOffset) true with
            | none => none
            | some none => some none
            | some (some totalFee) =>
                match tables.tariffTypeOffset 1 with
                | none => some none
                | some currentOffset =>
                    (tables.partFee fuel (tables.gtarifftypeinfo 1).startTime payTime
                      (transType + currentOffset) true).map
                        (·.map fun currentTariffFee => totalFee + currentTariffFee)

/-- "Use one tariff type" -/
def singleFee (fuel : ℕ) (index : Fin 2) (entryTime payTime : String) (transType : ℤ)
    (noGraceTime : Bool) : Option (Option ℚ) :=
  match tables.tariffTypeOffset index with
  | none => some none
  | some offset => tables.partFee fuel entryTime payTime (transType + offset) noGraceTime

/-- `CalFeeRAM2G`; the option is for the fuel. -/
def calFeeRAM2G (fuel : ℕ) (entryTime payTime : String) (transType : ℤ) (noGraceTime : Bool) :
    Option ℚ :=
  match usedTariff tables.gtarifftypeinfo entryTime payTime with
  | none => some (-4)
  | some used =>
      let totalFee :=
        if used = (true, true) then tables.crossFee fuel entryTime payTime transType
        else tables.singleFee fuel (if used.1 then 0 else 1) entryTime payTime transType noGraceTime
      totalFee.map (·.getD (-4))

/-- `fee` is what `CalFeeRAM2G` returns when the operation module calls it. -/
def Computes (fee : String → String → ℤ → ℚ) : Prop :=
  ∀ entryTime payTime transType,
    ∃ fuel, tables.calFeeRAM2G fuel entryTime payTime transType false =
      some (fee entryTime payTime transType)

end TypedTables

end LinuxPBS.Tariff
