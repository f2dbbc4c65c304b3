import LinuxPBS.Db.Reload
import LinuxPBS.Library.Machine
import LinuxPBS.Library.Replica

/-!
# Downloading parameters and messages

`downloadparameter` and `downloadledmessage` turn over the central rows that the station has not
fetched yet:

```text
writeparameter2local     SELECT, then UPDATE or INSERT the local row of that name
UPDATE parameter_mst SET s<station>_fetched = 1 WHERE name = '…'
```

The PMS changes the rows meanwhile, and takes the flag of a row back when it does.  If it does so
between the two statements of a turn, the flag is set for a row the station does not have, and
nobody notices.  `mirrored_iff` says that this is the only way to get there, whatever fails and
however often; `complete_run` that an undisturbed download leaves nothing to be fetched.

A name stands for itself as the databases compare it, and the central table has one row a name.
-/

namespace LinuxPBS.Db

open Machine

/-- What the two downloads do with a row. -/
structure Master (ν : Type) where
  name : ReaderItem → String
  read : ReaderItem → ν

/-- The rows of `parameter_mst` that are for stations; the value of a station has a column. -/
def parameterMaster (stationId : ℕ) : Master String where
  name row := row.getDataItem 0
  read row := row.getDataItem (49 + stationId)

/-- The rows of `message_mst`: the text and the status are stored. -/
def messageMaster : Master (String × String) where
  name row := row.getDataItem 0
  read row := (row.getDataItem 2, row.getDataItem 3)

namespace Downloads

inductive Input
  /-- the PMS changes a row or adds it -/
  | edit (row : ReaderItem)
  /-- the PMS deletes a row -/
  | withdraw (name : String)
  /-- a call: the count, which is `none` if it fails and `some false` without a row, and the rows -/
  | select (count : Option Bool) (rows : Bool)
  /-- the local statements of a turn succeed -/
  | write (check write : Bool)
  /-- the central statement of a turn succeeds -/
  | mark (answer : Bool)
  deriving DecidableEq

structure State (ν : Type) where
  replica : Replica String ReaderItem ν
  /-- the rows of the call that are still to be turned over, by name -/
  batch : List (String × ReaderItem) := []
  /-- the first of them has been written -/
  written : Bool := false
  downloadCount : ℤ := 0
  localDbErrFlag : ℤ := 0
  remoteDbErrFlag : ℤ := 0
  /-- what the calls have returned -/
  returned : List ℤ := []

variable {ν : Type}

/-- No call is under way. -/
def State.init (replica : Replica String ReaderItem ν) : State ν := { replica := replica }

/-- The turn of the first row is over, and with the last one the call. -/
def State.next (state : State ν) : State ν :=
  match state.batch with
  | [] => state
  | [_] =>
      { state with
        batch := []
        written := false
        downloadCount := 0
        returned := state.returned ++ [state.downloadCount] }
  | _ :: rest => { state with batch := rest, written := false }

/-- The two `SELECT`s of a call. -/
def State.select (state : State ν) (count : Option Bool) (rows : Bool) : State ν :=
  match count, rows with
  | some true, true =>
      match state.replica.pending with
      | [] => { state with remoteDbErrFlag := 0, returned := state.returned ++ [0] }
      | row :: rest => { state with batch := row :: rest, remoteDbErrFlag := 0 }
  | some false, _ => { state with remoteDbErrFlag := 0, returned := state.returned ++ [-1] }
  | _, _ => { state with remoteDbErrFlag := 1, returned := state.returned ++ [-1] }

/-- `downloadparameter` and `downloadledmessage`, statement by statement, and the PMS. -/
def step (master : Master ν) (state : State ν) : Input → State ν
  | .edit row => { state with replica := state.replica.edit (master.name row) row }
  | .withdraw name => { state with replica := state.replica.withdraw name }
  | .select count rows => if state.batch = [] then state.select count rows else state
  | .write check write =>
      match state.batch with
      | (name, row) :: _ =>
          if state.written then state
          else if check && write then
            { state with
              replica := state.replica.store name (master.read row)
              written := true
              localDbErrFlag := 0 }
          else { state.next with localDbErrFlag := 1 }
      | [] => state
  | .mark answer =>
      match state.batch with
      | (name, _) :: _ =>
          if state.written then
            if answer then
              State.next
                { state with
                  replica := state.replica.mark name
                  downloadCount := state.downloadCount + 1
                  remoteDbErrFlag := 0 }
            else { state.next with remoteDbErrFlag := 2 }
          else state
      | [] => state

/-- The row whose flag is set is still the one that was stored, or it is gone. -/
def Current (master : Master ν) (state : State ν) : Input → Prop
  | .mark true =>
      state.written = true → ∀ first ∈ state.batch.head?,
        ∀ found ∈ state.replica.source.lookup first.1, master.read found.1 = master.read first.2
  | _ => True

instance [DecidableEq ν] (master : Master ν) (state : State ν) (input : Input) :
    Decidable (Current master state input) :=
  match input with
  | .mark true =>
      inferInstanceAs (Decidable (state.written = true → ∀ first ∈ state.batch.head?,
        ∀ found ∈ state.replica.source.lookup first.1, master.read found.1 = master.read first.2))
  | .mark false => inferInstanceAs (Decidable True)
  | .edit _ => inferInstanceAs (Decidable True)
  | .withdraw _ => inferInstanceAs (Decidable True)
  | .select _ _ => inferInstanceAs (Decidable True)
  | .write _ _ => inferInstanceAs (Decidable True)

/-- The rows of a batch have different names and no flag, and the first has been stored if it is
said to be. -/
structure Sound (master : Master ν) (state : State ν) : Prop where
  idle : state.batch = [] → state.written = false
  names : (state.batch.map Prod.fst).Nodup
  pending : ∀ name row, (name, row) ∈ state.batch → ¬ state.replica.Flagged name
  stored : state.written = true → ∀ name row, state.batch.head? = some (name, row) →
    state.replica.copy.lookup name = some (master.read row)

/-! ## One statement -/

@[simp] theorem next_batch (state : State ν) : state.next.batch = state.batch.tail := by
  unfold State.next
  split
  · next hbatch => rw [hbatch, List.tail_nil]
  · next hbatch => rw [hbatch, List.tail_cons]
  · next hbatch => rw [hbatch, List.tail_cons]

@[simp] theorem next_replica (state : State ν) : state.next.replica = state.replica := by
  unfold State.next
  split <;> rfl

theorem next_written {state : State ν} (hbatch : state.batch ≠ []) :
    state.next.written = false := by
  unfold State.next
  split
  · next hnil => exact absurd hnil hbatch
  · rfl
  · rfl

variable {master : Master ν} {state : State ν}

/-- The turn of the first row is over: what the others need is what they needed before. -/
theorem sound_next (hnonempty : state.batch ≠ []) (hnames : (state.batch.map Prod.fst).Nodup)
    (hpending : ∀ name row, (name, row) ∈ state.batch.tail → ¬ state.replica.Flagged name) :
    Sound master state.next where
  idle _ := next_written hnonempty
  names := by
    rw [next_batch, List.map_tail]
    exact hnames.sublist (List.tail_sublist _)
  pending := by
    rw [next_batch, next_replica]
    exact hpending
  stored hwritten := by
    rw [next_written hnonempty] at hwritten
    cases hwritten

theorem Sound.select (hsound : Sound master state) (hidle : state.batch = [])
    (count : Option Bool) (rows : Bool) : Sound master (state.select count rows) := by
  have hsame (remote : ℤ) (returned : List ℤ) :
      Sound master { state with remoteDbErrFlag := remote, returned := returned } :=
    ⟨hsound.idle, hsound.names, hsound.pending, hsound.stored⟩
  unfold State.select
  split
  · split
    · exact hsame _ _
    · next row rest hrows =>
        refine ⟨fun hnil => absurd hnil (List.cons_ne_nil _ _), ?_, fun name row' hmem => ?_,
          fun hwritten => ?_⟩
        · rw [← hrows]
          exact Replica.nodup_pending
        · rintro ⟨other, hflag⟩
          rw [← hrows] at hmem
          have hlookup := Replica.mem_pending_iff.mp hmem
          rw [hflag] at hlookup
          cases hlookup
        · rw [hsound.idle hidle] at hwritten
          cases hwritten
  · exact hsame _ _
  · exact hsame _ _

/-- A name in the rest of a batch is not that of the first row. -/
theorem name_ne {name other : String} {row row' : ReaderItem}
    {rest : List (String × ReaderItem)} (hnames : (((name, row) :: rest).map Prod.fst).Nodup)
    (hmem : (other, row') ∈ rest) : other ≠ name := by
  rintro rfl
  exact (List.nodup_cons.mp hnames).1 (List.mem_map.mpr ⟨_, hmem, rfl⟩)

theorem sound_step (hsound : Sound master state) (input : Input) :
    Sound master (step master state input) := by
  obtain ⟨hidle, hnames, hpending, hstored⟩ := hsound
  cases input with
  | edit row =>
      refine ⟨hidle, hnames, fun name row' hmem hflag => ?_, hstored⟩
      exact hpending name row' hmem (Replica.flagged_edit.mp hflag).2
  | withdraw gone =>
      refine ⟨hidle, hnames, fun name row' hmem hflag => ?_, hstored⟩
      exact hpending name row' hmem (Replica.flagged_withdraw.mp hflag).2
  | select count rows =>
      unfold step
      dsimp only
      split
      · next hnil => exact Sound.select ⟨hidle, hnames, hpending, hstored⟩ hnil count rows
      · exact ⟨hidle, hnames, hpending, hstored⟩
  | write check write =>
      unfold step
      dsimp only
      split
      · next name row rest hbatch =>
          rw [hbatch] at hnames
          split
          · next hwritten => exact ⟨hidle, hbatch ▸ hnames, hpending, hstored⟩
          · split
            · refine ⟨fun hnil => ?_, hbatch ▸ hnames, fun other row' hmem => ?_,
                fun _ other row' hhead => ?_⟩
              · rw [hbatch] at hnil
                cases hnil
              · exact hpending other row' hmem
              · rw [hbatch] at hhead
                obtain ⟨rfl, rfl⟩ := Prod.mk.inj (Option.some_inj.mp hhead)
                exact AList.lookup_insert _
            · have hnext : Sound master state.next := by
                refine sound_next (by rw [hbatch]; exact List.cons_ne_nil _ _) (hbatch ▸ hnames)
                  fun other row' hmem => hpending other row' (List.mem_of_mem_tail hmem)
              exact ⟨hnext.idle, hnext.names, hnext.pending, hnext.stored⟩
      · exact ⟨hidle, hnames, hpending, hstored⟩
  | mark answer =>
      unfold step
      dsimp only
      split
      · next name row rest hbatch =>
          have hnonempty : state.batch ≠ [] := by
            rw [hbatch]
            exact List.cons_ne_nil _ _
          split
          · split
            · refine sound_next hnonempty hnames fun other row' hmem => ?_
              have hrest : (other, row') ∈ rest := by
                rwa [hbatch, List.tail_cons] at hmem
              have hne := name_ne (hbatch ▸ hnames) hrest
              rintro ⟨row'', hflag⟩
              rw [Replica.lookup_mark_ne hne] at hflag
              exact hpending other row' (List.mem_of_mem_tail hmem) ⟨row'', hflag⟩
            · have hnext : Sound master state.next := sound_next hnonempty hnames
                fun other row' hmem => hpending other row' (List.mem_of_mem_tail hmem)
              exact ⟨hnext.idle, hnext.names, hnext.pending, hnext.stored⟩
          · exact ⟨hidle, hnames, hpending, hstored⟩
      · exact ⟨hidle, hnames, hpending, hstored⟩

/-- A statement keeps the mirror exactly if it does not set the flag of a changed row. -/
theorem mirrored_step_iff (hsound : Sound master state)
    (hmirrored : state.replica.Mirrored master.read) (input : Input) :
    (step master state input).replica.Mirrored master.read ↔ Current master state input := by
  cases input with
  | edit row => exact iff_of_true (hmirrored.edit _ _) trivial
  | withdraw name => exact iff_of_true (hmirrored.withdraw _) trivial
  | select count rows =>
      refine iff_of_true ?_ trivial
      have hsame : (step master state (.select count rows)).replica = state.replica := by
        unfold step State.select
        dsimp only
        repeat' split
        all_goals rfl
      rw [hsame]
      exact hmirrored
  | write check write =>
      refine iff_of_true ?_ trivial
      unfold step
      dsimp only
      split
      · next name row rest hbatch =>
          split
          · exact hmirrored
          · split
            · refine hmirrored.store (hsound.pending name row ?_) _
              rw [hbatch]
              exact List.mem_cons_self
            · rw [next_replica]
              exact hmirrored
      · exact hmirrored
  | mark answer =>
      cases hbatch : state.batch with
      | nil =>
          have hsame : step master state (.mark answer) = state := by
            simp only [step, hbatch]
          rw [hsame]
          refine iff_of_true hmirrored ?_
          cases answer with
          | false => trivial
          | true =>
              intro _ first hhead
              rw [hbatch] at hhead
              cases hhead
      | cons first rest =>
          obtain ⟨name, row⟩ := first
          have hhead : state.batch.head? = some (name, row) := by rw [hbatch, List.head?_cons]
          cases answer with
          | false =>
              refine iff_of_true ?_ trivial
              simp only [step, hbatch]
              split
              · rw [if_neg Bool.false_ne_true, next_replica]
                exact hmirrored
              · exact hmirrored
          | true =>
              by_cases hwritten : state.written = true
              · have hreplica : (step master state (.mark true)).replica =
                    state.replica.mark name := by
                  simp only [step, hbatch, hwritten, if_true, next_replica]
                rw [hreplica, Replica.mirrored_mark_iff hmirrored
                  (hsound.stored hwritten name row hhead)]
                constructor
                · intro hsame _ first hfirst found hfound
                  rw [hhead] at hfirst
                  obtain rfl := Option.some_inj.mp hfirst
                  exact hsame found.1 found.2 hfound
                · exact fun hcurrent row' flag hfound =>
                    hcurrent hwritten (name, row) hhead (row', flag) hfound
              · have hsame : step master state (.mark true) = state := by
                  simp only [step, hbatch, if_neg hwritten]
                rw [hsame]
                exact iff_of_true hmirrored fun hyes => absurd hyes hwritten

theorem sound_init (master : Master ν) (replica : Replica String ReaderItem ν) :
    Sound master (State.init replica) where
  idle _ := rfl
  names := List.nodup_nil
  pending _ _ hmem := by cases hmem
  stored hwritten := by cases hwritten

/-- After every statement of a run each row whose flag is set is in the local database, exactly if
the flag is never set for a row that was changed since it was read. -/
theorem mirrored_iff (master : Master ν) (replica : Replica String ReaderItem ν)
    (hmirrored : replica.Mirrored master.read) (inputs : List Input) :
    (∀ front, front <+: inputs →
        (run (step master) (State.init replica) front).replica.Mirrored master.read) ↔
      Meets (step master) (Current master) (State.init replica) inputs :=
  @always_iff _ _ (step master) (Current master) (Sound master)
    (fun state => state.replica.Mirrored master.read)
    (fun _ input hsound => sound_step hsound input)
    (fun _ input hsound hmirrored => mirrored_step_iff hsound hmirrored input)
    (State.init replica) (sound_init master replica) hmirrored inputs

/-! ## A download without a failure -/

/-- The statements of a download of so many rows. -/
def download (count : ℕ) : List Input :=
  .select (some true) true :: (List.replicate count [.write true true, .mark true]).flatten

/-- One turn: the row is stored, and its flag is set. -/
theorem turn_run {name : String} {row : ReaderItem} {rest : List (String × ReaderItem)}
    (hbatch : state.batch = (name, row) :: rest) (hwritten : state.written = false) :
    run (step master) state [.write true true, .mark true] = State.next
      { state with
        replica := (state.replica.store name (master.read row)).mark name
        written := true
        localDbErrFlag := 0
        downloadCount := state.downloadCount + 1
        remoteDbErrFlag := 0 } := by
  have hwrite : step master state (.write true true) =
      { state with
        replica := state.replica.store name (master.read row)
        written := true
        localDbErrFlag := 0 } := by
    simp only [step, hbatch, hwritten, Bool.false_eq_true, if_false, Bool.and_self, if_true]
  rw [run_cons, run_cons, run_nil, hwrite]
  simp only [step, hbatch, if_true]

/-- Turn by turn: nothing changes in the source but the flags of the rows in the batch. -/
theorem turns_run (batch : List (String × ReaderItem)) (state : State ν)
    (hbatch : state.batch = batch) (hwritten : state.written = false)
    (hnames : (batch.map Prod.fst).Nodup)
    (hrows : ∀ name row, (name, row) ∈ batch →
      state.replica.source.lookup name = some (row, false)) :
    let after := run (step master) state
      (List.replicate batch.length [.write true true, .mark true]).flatten
    after.batch = [] ∧
      (batch ≠ [] → after.returned = state.returned ++ [state.downloadCount + batch.length]) ∧
      (∀ name, name ∉ batch.map Prod.fst →
        after.replica.source.lookup name = state.replica.source.lookup name ∧
          after.replica.copy.lookup name = state.replica.copy.lookup name) ∧
      ∀ name row, (name, row) ∈ batch →
        after.replica.source.lookup name = some (row, true) ∧
          after.replica.copy.lookup name = some (master.read row) := by
  induction batch generalizing state with
  | nil =>
      refine ⟨hbatch, fun hne => absurd rfl hne, fun _ _ => ⟨rfl, rfl⟩, fun _ _ hmem => ?_⟩
      cases hmem
  | cons first rest ih =>
      obtain ⟨name, row⟩ := first
      obtain ⟨hnotMem, hrest⟩ := List.nodup_cons.mp hnames
      have hturn := @turn_run _ master state name row rest hbatch hwritten
      rw [List.length_cons, List.replicate_succ, List.flatten_cons, run_append, hturn]
      generalize hstored : State.mk ((state.replica.store name (master.read row)).mark name)
        state.batch true (state.downloadCount + 1) 0 0 state.returned = stored
      have hbatch' : stored.batch = (name, row) :: rest := by rw [← hstored]; exact hbatch
      have hreplica : stored.next.replica =
          (state.replica.store name (master.read row)).mark name := by
        rw [next_replica, ← hstored]
      have hother : ∀ other, other ≠ name →
          stored.next.replica.source.lookup other = state.replica.source.lookup other ∧
            stored.next.replica.copy.lookup other = state.replica.copy.lookup other := by
        intro other hne
        rw [hreplica, Replica.lookup_mark_ne hne, Replica.copy_mark]
        exact ⟨rfl, AList.lookup_insert_ne hne⟩
      obtain ⟨hdone, hreturned, hothers, hflags⟩ := ih stored.next
        (by rw [next_batch, hbatch', List.tail_cons])
        (next_written (by rw [hbatch']; exact List.cons_ne_nil _ _)) hrest
        fun other row' hmem => by
          rw [(hother other (name_ne hnames hmem)).1]
          exact hrows other row' (List.mem_cons_of_mem _ hmem)
      refine ⟨hdone, fun _ => ?_, fun other hnew => ?_, fun other row' hmem => ?_⟩
      · cases hlast : rest with
        | nil =>
            rw [hlast] at hbatch'
            have hnext : stored.next.returned =
                state.returned ++ [state.downloadCount + 1] := by
              unfold State.next
              rw [hbatch']
              dsimp only
              rw [← hstored]
            exact hnext
        | cons second others =>
            rw [hlast] at hbatch' hreturned
            have hnext : stored.next.returned = state.returned ∧
                stored.next.downloadCount = state.downloadCount + 1 := by
              unfold State.next
              rw [hbatch']
              dsimp only
              rw [← hstored]
              exact ⟨rfl, rfl⟩
            rw [hreturned (List.cons_ne_nil _ _), hnext.1, hnext.2, List.length_cons]
            push_cast
            rw [add_assoc, add_comm 1]
      · rw [List.map_cons, List.mem_cons, not_or] at hnew
        rw [(hothers other hnew.2).1, (hothers other hnew.2).2, (hother other hnew.1).1,
          (hother other hnew.1).2]
        exact ⟨rfl, rfl⟩
      · rcases List.mem_cons.mp hmem with hself | hmem
        · obtain ⟨rfl, rfl⟩ := Prod.mk.inj hself
          rw [(hothers other hnotMem).1, (hothers other hnotMem).2, hreplica, Replica.copy_mark]
          have hrow : (state.replica.store other (master.read row')).source.lookup other =
              some (row', false) := hrows other row' List.mem_cons_self
          exact ⟨Replica.lookup_mark_self hrow, AList.lookup_insert _⟩
        · exact hflags other row' hmem

/-- A download without a failure, and without a change meanwhile, returns the number of the rows
that were not fetched; then all rows are fetched, and the local database has them. -/
theorem complete_run (master : Master ν) (replica : Replica String ReaderItem ν)
    (hmirrored : replica.Mirrored master.read) :
    let after := run (step master) (State.init replica) (download replica.pending.length)
    after.returned = [(replica.pending.length : ℤ)] ∧
      ∀ name row flag, replica.source.lookup name = some (row, flag) →
        after.replica.source.lookup name = some (row, true) ∧
          after.replica.copy.lookup name = some (master.read row) := by
  have hfetched : ∀ name row flag, replica.source.lookup name = some (row, flag) →
      name ∉ replica.pending.map Prod.fst → flag = true := by
    intro name row flag hrow hnot
    cases flag with
    | true => rfl
    | false =>
        exact absurd (List.mem_map.mpr ⟨_, Replica.mem_pending_iff.mpr hrow, rfl⟩) hnot
  rw [download]
  cases hpending : replica.pending with
  | nil =>
      rw [hpending] at hfetched
      have hselect : run (step master) (State.init replica)
          (.select (some true) true :: (List.replicate 0 [.write true true, .mark true]).flatten) =
            { State.init replica with returned := [0] } := by
        simp only [List.replicate_zero, List.flatten_nil, run_cons, run_nil, step, State.init,
          if_true, State.select, hpending, List.nil_append]
      rw [List.length_nil, hselect]
      refine ⟨rfl, fun name row flag hrow => ?_⟩
      obtain rfl := hfetched name row flag hrow List.not_mem_nil
      exact ⟨hrow, hmirrored name row hrow⟩
  | cons first rest =>
      rw [hpending] at hfetched
      have hselect : step master (State.init replica) (.select (some true) true) =
          { State.init replica with batch := first :: rest } := by
        simp only [step, State.init, if_true, State.select, hpending]
      rw [run_cons, hselect]
      have hnames : ((first :: rest).map Prod.fst).Nodup := hpending ▸ Replica.nodup_pending
      have hrows : ∀ name row, (name, row) ∈ first :: rest →
          replica.source.lookup name = some (row, false) := by
        intro name row hmem
        rw [← hpending] at hmem
        exact Replica.mem_pending_iff.mp hmem
      obtain ⟨-, hreturned, hothers, hflags⟩ := @turns_run _ master (first :: rest)
        { State.init replica with batch := first :: rest } rfl rfl hnames hrows
      refine ⟨(hreturned (List.cons_ne_nil _ _)).trans ?_, fun name row flag hrow => ?_⟩
      · simp only [State.init, List.nil_append, zero_add]
      · by_cases hmem : name ∈ (first :: rest).map Prod.fst
        · obtain ⟨⟨name', row'⟩, hin, rfl⟩ := List.mem_map.mp hmem
          have hpendingRow := hrows name' row' hin
          rw [hrow] at hpendingRow
          obtain ⟨rfl, -⟩ := Prod.mk.inj (Option.some_inj.mp hpendingRow)
          exact hflags name' row hin
        · obtain rfl := hfetched name row flag hrow hmem
          rw [(hothers name hmem).1, (hothers name hmem).2]
          exact ⟨hrow, hmirrored name row hrow⟩

/-! ## Two runs of a station -/

/-- A parameter of the station with the number 1. -/
def grace (value : String) : ReaderItem := "GracePeriod" :: List.replicate 49 "" ++ [value]

/-- The central database when the station is set up. -/
def setUp : Replica String ReaderItem String :=
  (Replica.mk ∅ ∅).edit "GracePeriod" (grace "10")

theorem mirrored_setUp : setUp.Mirrored (parameterMaster 1).read := by
  have hempty : (Replica.mk ∅ ∅ : Replica String ReaderItem String).Mirrored
      (parameterMaster 1).read := by
    intro name row hrow
    rw [AList.lookup_empty] at hrow
    cases hrow
  exact hempty.edit _ _

/-- The first attempt fails; the parameter is changed before the second one, and again
afterwards. -/
theorem mirrored_iff_grace :
    let inputs : List Input := [.select (some true) true, .write true false, .edit (grace "15"),
      .select (some true) true, .write true true, .mark true, .edit (grace "20")]
    ∀ front, front <+: inputs → (run (step (parameterMaster 1)) (State.init setUp)
      front).replica.Mirrored (parameterMaster 1).read := by
  intro inputs
  refine (mirrored_iff (parameterMaster 1) setUp mirrored_setUp inputs).mpr ?_
  decide +kernel

/-- The station is set up. -/
theorem complete_run_setUp :
    (run (step (parameterMaster 1)) (State.init setUp) (download setUp.pending.length)).returned =
      [(setUp.pending.length : ℤ)] :=
  (complete_run (parameterMaster 1) setUp mirrored_setUp).1

/-- A parameter is changed between the two statements of its turn. -/
example : ¬ Meets (step (parameterMaster 1)) (Current (parameterMaster 1)) (State.init setUp)
    [.select (some true) true, .write true true, .edit (grace "15"), .mark true] := by
  decide +kernel

end Downloads

end LinuxPBS.Db
