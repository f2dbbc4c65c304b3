import Mathlib.Data.List.AList

/-!
# A table that is copied row by row

The rows of a source carry a flag that says whether the copy has them.  Whoever changes a row
takes its flag back; who copies reads the rows without a flag, stores what it needs of each and
sets the flag afterwards.  `Mirrored` is what the flags are for.

Every action but the flag keeps the mirror on its own.  The flag keeps it exactly if the row is
still the one that was stored (`mirrored_mark_iff`).
-/

namespace LinuxPBS

/-- A table of rows `ρ` with a flag, and a copy that holds a part `ν` of each. -/
structure Replica (κ ρ ν : Type*) where
  source : AList fun _ : κ => ρ × Bool
  copy : AList fun _ : κ => ν

namespace Replica

variable {κ ρ ν : Type*} [DecidableEq κ]

/-- The source gets a row, or changes it. -/
def edit (replica : Replica κ ρ ν) (key : κ) (row : ρ) : Replica κ ρ ν :=
  { replica with source := replica.source.insert key (row, false) }

/-- The source loses a row. -/
def withdraw (replica : Replica κ ρ ν) (key : κ) : Replica κ ρ ν :=
  { replica with source := replica.source.erase key }

/-- The copy gets a row, or changes it. -/
def store (replica : Replica κ ρ ν) (key : κ) (value : ν) : Replica κ ρ ν :=
  { replica with copy := replica.copy.insert key value }

/-- The flag of a row is set. -/
def mark (replica : Replica κ ρ ν) (key : κ) : Replica κ ρ ν :=
  match replica.source.lookup key with
  | some (row, _) => { replica with source := replica.source.insert key (row, true) }
  | none => replica

/-- The rows whose flag is not set. -/
def pending (replica : Replica κ ρ ν) : List (κ × ρ) :=
  replica.source.entries.filterMap fun entry =>
    if entry.2.2 then none else some (entry.1, entry.2.1)

/-- The flag of a row is set. -/
def Flagged (replica : Replica κ ρ ν) (key : κ) : Prop :=
  ∃ row, replica.source.lookup key = some (row, true)

/-- Of every row whose flag is set the copy has what it needs. -/
def Mirrored (read : ρ → ν) (replica : Replica κ ρ ν) : Prop :=
  ∀ key row, replica.source.lookup key = some (row, true) →
    replica.copy.lookup key = some (read row)

variable {read : ρ → ν} {replica : Replica κ ρ ν}

theorem mem_pending_iff {key : κ} {row : ρ} :
    (key, row) ∈ replica.pending ↔ replica.source.lookup key = some (row, false) := by
  rw [pending, List.mem_filterMap, ← Option.mem_def, AList.mem_lookup_iff]
  constructor
  · rintro ⟨⟨key', row', flag⟩, hmem, heq⟩
    cases flag with
    | true => cases heq
    | false =>
        obtain ⟨rfl, rfl⟩ := Prod.mk.inj (Option.some_inj.mp heq)
        exact hmem
  · exact fun hmem => ⟨_, hmem, rfl⟩

omit [DecidableEq κ] in
/-- A row is pending once. -/
theorem nodup_pending : (replica.pending.map Prod.fst).Nodup := by
  have hsub : (replica.pending.map Prod.fst).Sublist replica.source.keys := by
    rw [pending, AList.keys, List.keys]
    induction replica.source.entries with
    | nil => exact List.Sublist.slnil
    | cons entry rest ih =>
        rw [List.filterMap_cons, List.map_cons]
        split
        · exact List.Sublist.cons _ ih
        · next heq =>
            split at heq
            · cases heq
            · obtain rfl := Option.some_inj.mp heq
              exact List.Sublist.cons_cons _ ih
  exact replica.source.keys_nodup.sublist hsub

theorem flagged_edit {key other : κ} {row : ρ} :
    (replica.edit key row).Flagged other ↔ other ≠ key ∧ replica.Flagged other := by
  unfold Flagged edit
  by_cases hkey : other = key
  · subst hkey
    simp
  · simp [AList.lookup_insert_ne hkey, hkey]

theorem flagged_withdraw {key other : κ} :
    (replica.withdraw key).Flagged other ↔ other ≠ key ∧ replica.Flagged other := by
  unfold Flagged withdraw
  by_cases hkey : other = key
  · subst hkey
    simp
  · simp [AList.lookup_erase_ne hkey, hkey]

theorem lookup_mark_ne {key other : κ} (hne : other ≠ key) :
    (replica.mark key).source.lookup other = replica.source.lookup other := by
  unfold mark
  split
  · exact AList.lookup_insert_ne hne
  · rfl

theorem lookup_mark_self {key : κ} {row : ρ} {flag : Bool}
    (hrow : replica.source.lookup key = some (row, flag)) :
    (replica.mark key).source.lookup key = some (row, true) := by
  unfold mark
  rw [hrow]
  exact AList.lookup_insert _

theorem copy_mark (key : κ) : (replica.mark key).copy = replica.copy := by
  unfold mark
  split <;> rfl

theorem Mirrored.edit (hmirrored : replica.Mirrored read) (key : κ) (row : ρ) :
    (replica.edit key row).Mirrored read := by
  intro other row' hflag
  obtain ⟨hne, hbefore⟩ := flagged_edit.mp ⟨row', hflag⟩
  rw [Replica.edit, AList.lookup_insert_ne hne] at hflag
  exact hmirrored other row' hflag

theorem Mirrored.withdraw (hmirrored : replica.Mirrored read) (key : κ) :
    (replica.withdraw key).Mirrored read := by
  intro other row' hflag
  obtain ⟨hne, hbefore⟩ := flagged_withdraw.mp ⟨row', hflag⟩
  rw [Replica.withdraw, AList.lookup_erase_ne hne] at hflag
  exact hmirrored other row' hflag

/-- A row whose flag is not set can be stored in any form. -/
theorem Mirrored.store (hmirrored : replica.Mirrored read) {key : κ}
    (hpending : ¬ replica.Flagged key) (value : ν) : (replica.store key value).Mirrored read := by
  intro other row hflag
  have hne : other ≠ key := fun heq => hpending (heq ▸ ⟨row, hflag⟩)
  rw [Replica.store, AList.lookup_insert_ne hne]
  exact hmirrored other row hflag

/-- The flag of a row that was stored keeps the mirror exactly if the row is still the same, as far
as the copy needs it. -/
theorem mirrored_mark_iff (hmirrored : replica.Mirrored read) {key : κ} {value : ν}
    (hstored : replica.copy.lookup key = some value) :
    (replica.mark key).Mirrored read ↔
      ∀ row flag, replica.source.lookup key = some (row, flag) → read row = value := by
  constructor
  · intro hmarked row flag hrow
    have hcopy := hmarked key row (lookup_mark_self hrow)
    rw [copy_mark, hstored] at hcopy
    exact (Option.some_inj.mp hcopy).symm
  · intro hsame other row hflag
    rw [copy_mark]
    by_cases hkey : other = key
    · subst hkey
      cases hrow : replica.source.lookup other with
      | none =>
          have hmark : replica.mark other = replica := by
            unfold mark
            rw [hrow]
          rw [hmark, hrow] at hflag
          cases hflag
      | some before =>
          obtain ⟨row', flag⟩ := before
          rw [lookup_mark_self hrow] at hflag
          obtain ⟨rfl, -⟩ := Prod.mk.inj (Option.some_inj.mp hflag)
          rw [hstored, hsame row' flag hrow]
    · rw [lookup_mark_ne hkey] at hflag
      exact hmirrored other row hflag

end Replica

end LinuxPBS
