import LinuxPBS.Eep.Settlement
import LinuxPBS.Library.Machine
import LinuxPBS.Library.Places

/-!
# The way of the settlement files to the server

Every deduction is a record of a settlement file on the disk of the station.  Records of the
frontend are collected in one file an hour, which the backup moves to the server on another day.
A record of the backend is a file of its own, which is moved as soon as it is written, and by the
backup if that fails.

The two threads of the file pool and the thread of the backup do all this at the same time, and
each action on the disk or the share may fail; `step` is one action of one task.  As long as no
two tasks have one file at the same time, and no file is written again that has been moved away,
every file stays whole (`transfer_run`): it is here or on the server, with everything that was
written to it, in the order of the writes.

Both conditions are needed.  The name of a backend file says the second; a second record in the
same second replaces the first one on the server (`replaced_run`).
-/

namespace LinuxPBS.Eep.Transfer

open Machine Settlement

/-! ## The tasks -/

/-- What a task does next to its file. -/
inductive Stage
  /-- the file has been looked for; `chunk` is what will be written, `none` if the header
  throws -/
  | opening (fresh isFrontendTx : Bool) (chunk : Option (List UInt8))
  | writing (fresh isFrontendTx : Bool) (chunk : List UInt8)
  | copying
  | removing
  deriving DecidableEq, Repr

structure FileTask where
  name : List UInt8
  stage : Stage
  deriving DecidableEq, Repr

/-- How the file system answers. -/
inductive Answer
  | success
  | failure
  /-- so many bytes are written -/
  | partly (count : ℕ)
  /-- a copy breaks off and leaves this -/
  | spoiled (content : List UInt8)
  deriving DecidableEq, Repr

/-- The files of the station and the share; file names are bytes. -/
abbrev Files := Places (List UInt8) UInt8

structure State where
  files : Files
  tasks : List FileTask := []

inductive FileInput
  /-- a call of `writeDSRCFeOrBeTxToCollFile`, up to the look for its file -/
  | record (isFrontendTx : Bool) (data : List UInt8) (site : Site) (clock : Readings)
  /-- the backup finds a file, on a day it writes so -/
  | backup (name todaySettlementDate : List UInt8)
  /-- a task goes on -/
  | proceed (index : ℕ) (answer : Answer)

/-- What is written by a call: the header, if the file is fresh, and the record. -/
def chunkOf (fresh isFrontendTx : Bool) (data : List UInt8) (site : Site) (clock : Readings) :
    Option (List UInt8) :=
  if fresh then (headerRecord isFrontendTx site clock).map (· ++ data) else some data

/-- How many bytes of a chunk are written. -/
def written (chunk : List UInt8) : Answer → List UInt8
  | .success => chunk
  | .partly count => chunk.take count
  | _ => []

/-- One action of `writeDSRCFeOrBeTxToCollFile`, `copyAndRemoveBEFile` or `copyAndRemoveFile`. -/
def proceed (files : Files) (name : List UInt8) (answer : Answer) : Stage → Files × Option Stage
  | .opening fresh isFrontendTx chunk =>
      if answer = .success then
        (if fresh then files.truncate name else files.touch name,
          -- an exception leaves the file open and empty
          chunk.map fun chunk => .writing fresh isFrontendTx chunk)
      else (files, none)
  | .writing fresh isFrontendTx chunk =>
      (if fresh then files.overwrite name (written chunk answer)
        else files.append name (written chunk answer),
        -- a record of the backend is transferred even if it could not be written
        if isFrontendTx then none else some .copying)
  | .copying =>
      match files.here name, answer with
      | some _, .success => (files.copy name, some .removing)
      | some _, .spoiled content => (files.spoil name content, none)
      | _, _ => (files, none)
  | .removing => (if answer = .success then files.remove name else files, none)

def contains (name piece : List UInt8) : Bool := decide (piece <:+: name)

/-- The filter of the backup for the settlement files. -/
def isDsrcFile (name todaySettlementDate : List UInt8) : Bool :=
  !contains name todaySettlementDate &&
    (contains name (bytesOf "FE_".toList) || contains name (bytesOf "BE_".toList))

/-- The tasks when one of them goes on or ends. -/
def goOn (tasks : List FileTask) (index : ℕ) (task : FileTask) : Option Stage → List FileTask
  | none => tasks.eraseIdx index
  | some stage => tasks.set index { task with stage := stage }

def step (state : State) : FileInput → State
  | .record isFrontendTx data site clock =>
      let name := settleFileName isFrontendTx site clock
      let fresh := (state.files.here name).isNone
      { state with
        tasks := state.tasks ++
          [⟨name, .opening fresh isFrontendTx (chunkOf fresh isFrontendTx data site clock)⟩] }
  | .backup name todaySettlementDate =>
      if (state.files.here name).isSome ∧ isDsrcFile name todaySettlementDate then
        { state with tasks := state.tasks ++ [⟨name, .copying⟩] }
      else state
  | .proceed index answer =>
      match state.tasks[index]? with
      | none => state
      | some task =>
          let (files, next) := proceed state.files task.name answer task.stage
          { files := files, tasks := goOn state.tasks index task next }

/-- What the station and the share hold when the program starts. -/
def State.init (here there : List UInt8 → Option (List UInt8)) : State where
  files :=
    { here := here
      there := there
      written := fun name => (here name <|> there name).getD [] }

/-! ## Files stay whole -/

namespace State

/-- No task has a file. -/
def Free (state : State) (name : List UInt8) : Prop := name ∉ state.tasks.map FileTask.name

instance (state : State) (name : List UInt8) : Decidable (state.Free name) :=
  inferInstanceAs (Decidable (name ∉ state.tasks.map FileTask.name))

/-- A file is here, or nowhere yet: it has not been moved away. -/
def Unmoved (state : State) (name : List UInt8) : Prop :=
  (state.files.here name).isSome ∨ (state.files.there name).isNone

instance (state : State) (name : List UInt8) : Decidable (state.Unmoved name) :=
  inferInstanceAs (Decidable (_ ∨ _))

/-- A task begins when no other has its file, and no record goes to a file that was moved away. -/
def Orderly (state : State) : FileInput → Prop
  | .record isFrontendTx _ site clock =>
      state.Free (settleFileName isFrontendTx site clock) ∧
        state.Unmoved (settleFileName isFrontendTx site clock)
  | .backup name _ => state.Free name
  | .proceed _ _ => True

instance (state : State) (input : FileInput) : Decidable (Orderly state input) :=
  match input with
  | .record isFrontendTx _ site clock =>
      inferInstanceAs (Decidable (state.Free (settleFileName isFrontendTx site clock) ∧
        state.Unmoved (settleFileName isFrontendTx site clock)))
  | .backup name _ => inferInstanceAs (Decidable (state.Free name))
  | .proceed _ _ => inferInstanceAs (Decidable True)

end State

/-- What a task can rely on before its next action. -/
def Staged (files : Files) (name : List UInt8) : Stage → Prop
  | .opening true _ _ => files.here name = none ∧ files.written name = []
  | .opening false _ _ => files.here name = some (files.written name)
  | .writing fresh _ _ =>
      files.here name = some (files.written name) ∧ (fresh = true → files.written name = [])
  | .copying => files.here name = some (files.written name)
  | .removing =>
      files.here name = some (files.written name) ∧
        files.there name = some (files.written name)

theorem Staged.whole {files : Files} {name : List UInt8} {stage : Stage}
    (hstaged : Staged files name stage) : files.Whole name := by
  cases stage with
  | opening fresh isFrontendTx chunk =>
      cases fresh with
      | true => exact Or.inr ⟨hstaged.1, Or.inr hstaged.2⟩
      | false => exact Or.inl hstaged
  | writing fresh isFrontendTx chunk => exact Or.inl hstaged.1
  | copying => exact Or.inl hstaged
  | removing => exact Or.inl hstaged.1

theorem Staged.same {files files' : Files} {name : List UInt8} {stage : Stage}
    (hstaged : Staged files name stage) (hsame : files.Same files' name) :
    Staged files' name stage := by
  obtain ⟨hhere, hthere, hwritten⟩ := hsame
  cases stage with
  | opening fresh isFrontendTx chunk =>
      cases fresh <;> simpa only [Staged, ← hhere, ← hwritten] using hstaged
  | _ => simpa only [Staged, ← hhere, ← hthere, ← hwritten] using hstaged

/-- An action is about one file. -/
theorem same_proceed (files : Files) {name other : List UInt8} (hne : other ≠ name)
    (answer : Answer) (stage : Stage) :
    files.Same (proceed files name answer stage).1 other := by
  have hrefl : files.Same files other := ⟨rfl, rfl, rfl⟩
  cases stage with
  | opening fresh isFrontendTx chunk =>
      unfold proceed
      dsimp only
      split
      · cases fresh
        · exact Places.same_touch hne
        · exact Places.same_truncate hne
      · exact hrefl
  | writing fresh isFrontendTx chunk =>
      cases fresh
      · exact Places.same_append _ hne
      · exact Places.same_overwrite _ hne
  | copying =>
      unfold proceed
      dsimp only
      split
      · exact Places.same_copy hne
      · exact Places.same_spoil _ hne
      · exact hrefl
  | removing =>
      unfold proceed
      dsimp only
      split
      · exact Places.same_remove hne
      · exact hrefl

/-- The file of an action stays whole, and the task finds it as its next action needs it. -/
theorem staged_proceed {files : Files} {name : List UInt8} {stage : Stage}
    (hstaged : Staged files name stage) (answer : Answer) :
    (proceed files name answer stage).1.Whole name ∧
      ∀ next, (proceed files name answer stage).2 = some next →
        Staged (proceed files name answer stage).1 name next := by
  cases stage with
  | opening fresh isFrontendTx chunk =>
      by_cases hanswer : answer = .success
      · have hopened : (if fresh then files.truncate name else files.touch name).here name =
            some ((if fresh then files.truncate name else files.touch name).written name) ∧
              (fresh = true →
                (if fresh then files.truncate name else files.touch name).written name = []) := by
          cases fresh with
          | true =>
              obtain ⟨-, hempty⟩ := hstaged
              have hwritten : (files.truncate name).written name = [] := hempty
              rw [if_pos rfl, Places.here_truncate, hwritten]
              exact ⟨rfl, fun _ => rfl⟩
          | false =>
              have hhere : files.here name = some (files.written name) := hstaged
              rw [if_neg Bool.false_ne_true, Places.here_touch, hhere]
              exact ⟨rfl, fun hfalse => absurd hfalse Bool.false_ne_true⟩
        unfold proceed
        dsimp only
        rw [if_pos hanswer]
        refine ⟨Or.inl hopened.1, fun next hnext => ?_⟩
        cases chunk with
        | none => cases hnext
        | some chunk =>
            cases hnext
            exact hopened
      · unfold proceed
        dsimp only
        rw [if_neg hanswer]
        exact ⟨hstaged.whole, fun next hnext => by cases hnext⟩
  | writing fresh isFrontendTx chunk =>
      obtain ⟨hhere, hempty⟩ := hstaged
      have hwrote : let after := (proceed files name answer (.writing fresh isFrontendTx chunk)).1
          after.here name = some (after.written name) := by
        cases fresh with
        | true =>
            rw [hempty rfl] at hhere
            unfold proceed
            dsimp only
            rw [if_pos rfl, Places.here_overwrite hhere, Places.written_overwrite, hempty rfl,
              List.nil_append]
        | false =>
            unfold proceed
            dsimp only
            rw [if_neg Bool.false_ne_true, Places.here_append hhere, Places.written_append]
      refine ⟨Or.inl hwrote, fun next hnext => ?_⟩
      cases isFrontendTx with
      | true => cases hnext
      | false =>
          cases hnext
          exact hwrote
  | copying =>
      have hhere : files.here name = some (files.written name) := hstaged
      unfold proceed
      dsimp only
      rw [hhere]
      cases answer with
      | success =>
          refine ⟨Or.inl hhere, fun next hnext => ?_⟩
          cases hnext
          exact ⟨hhere, Places.there_copy.trans hhere⟩
      | spoiled content => exact ⟨Or.inl hhere, fun next hnext => by cases hnext⟩
      | failure => exact ⟨Or.inl hhere, fun next hnext => by cases hnext⟩
      | partly count => exact ⟨Or.inl hhere, fun next hnext => by cases hnext⟩
  | removing =>
      obtain ⟨hhere, hthere⟩ := hstaged
      unfold proceed
      dsimp only
      split
      · exact ⟨Or.inr ⟨Places.here_remove, Or.inl hthere⟩, fun next hnext => by cases hnext⟩
      · exact ⟨Or.inl hhere, fun next hnext => by cases hnext⟩

/-! ## Every run -/

namespace State

/-- Every file is whole, no two tasks have one file, and each can go on. -/
structure Kept (state : State) : Prop where
  whole : ∀ name, state.files.Whole name
  alone : (state.tasks.map FileTask.name).Nodup
  staged : ∀ task ∈ state.tasks, Staged state.files task.name task.stage

theorem kept_init (here there : List UInt8 → Option (List UInt8)) : (init here there).Kept where
  whole name := by
    cases hhere : here name with
    | some content =>
        refine Or.inl (hhere.trans ?_)
        simp only [init, hhere]
        rfl
    | none =>
        refine Or.inr ⟨hhere, ?_⟩
        cases hthere : there name with
        | some content =>
            refine Or.inl (hthere.trans ?_)
            simp only [init, hhere, hthere]
            rfl
        | none =>
            refine Or.inr ?_
            simp only [init, hhere, hthere]
            rfl
  alone := List.nodup_nil
  staged _ hmem := by cases hmem

/-- A task begins with a file that no other has. -/
theorem Kept.begin {state : State} (hkept : state.Kept) {task : FileTask}
    (hfree : state.Free task.name) (hstaged : Staged state.files task.name task.stage) :
    Kept { state with tasks := state.tasks ++ [task] } where
  whole := hkept.whole
  alone := by
    rw [List.map_append]
    refine hkept.alone.append (List.nodup_singleton _) fun name hmem hname => hfree ?_
    rwa [← List.mem_singleton.mp hname]
  staged other hmem := by
    rcases List.mem_append.mp hmem with hold | hnew
    · exact hkept.staged other hold
    · rw [List.mem_singleton.mp hnew]
      exact hstaged

/-- A task whose action keeps its file whole and leaves the others alone goes on, or ends. -/
theorem Kept.advance {state : State} (hkept : state.Kept) {index : ℕ} {task : FileTask}
    (htask : state.tasks[index]? = some task) {files : Files} (next : Option Stage)
    (hothers : ∀ other, other ≠ task.name → state.files.Same files other)
    (hwhole : files.Whole task.name)
    (hnext : ∀ stage, next = some stage → Staged files task.name stage) :
    Kept { files := files, tasks := goOn state.tasks index task next } := by
  obtain ⟨hlt, hget⟩ := List.getElem?_eq_some_iff.mp htask
  have hsplit : state.tasks =
      state.tasks.take index ++ task :: state.tasks.drop (index + 1) := by
    rw [← hget, List.getElem_cons_drop, List.take_append_drop]
  have hset (stage : Stage) : state.tasks.set index { task with stage := stage } =
      state.tasks.take index ++ { task with stage := stage } :: state.tasks.drop (index + 1) := by
    rw [List.set_eq_take_append_cons_drop, if_pos hlt]
  have hgoOn : goOn state.tasks index task next = state.tasks.take index ++ match next with
      | none => state.tasks.drop (index + 1)
      | some stage => { task with stage := stage } :: state.tasks.drop (index + 1) := by
    cases next with
    | none => exact List.eraseIdx_eq_take_drop_succ _ _
    | some stage => exact hset stage
  rw [hgoOn]
  obtain ⟨hbefore, hstagedOf⟩ : (state.tasks.map FileTask.name).Nodup ∧
      ∀ other ∈ state.tasks, Staged state.files other.name other.stage :=
    ⟨hkept.alone, hkept.staged⟩
  rw [hsplit] at hbefore hstagedOf
  generalize state.tasks.take index = front at *
  generalize state.tasks.drop (index + 1) = back at *
  rw [List.map_append, List.map_cons] at hbefore
  have halone := List.nodup_middle.mp hbefore
  rw [← List.map_append] at halone
  obtain ⟨hgone, hrest⟩ := List.nodup_cons.mp halone
  have hwholes : ∀ name, files.Whole name := by
    intro name
    by_cases hname : name = task.name
    · rw [hname]
      exact hwhole
    · exact (hothers name hname).whole (hkept.whole name)
  -- the other tasks have other files
  have hstays : ∀ other ∈ front ++ back, Staged files other.name other.stage := by
    intro other hmem
    have hne : other.name ≠ task.name := fun hname =>
      hgone (List.mem_map.mpr ⟨other, hmem, hname⟩)
    refine (hstagedOf other ?_).same (hothers other.name hne)
    exact List.mem_append.mpr ((List.mem_append.mp hmem).imp id (List.mem_cons_of_mem _))
  cases next with
  | none => exact ⟨hwholes, hrest, hstays⟩
  | some stage =>
      refine ⟨hwholes, ?_, fun other hmem => ?_⟩
      · rw [List.map_append, List.map_cons]
        exact hbefore
      · rcases List.mem_append.mp hmem with hfront | hback
        · exact hstays other (List.mem_append_left _ hfront)
        · rcases List.mem_cons.mp hback with hself | hback
          · rw [hself]
            exact hnext stage rfl
          · exact hstays other (List.mem_append_right _ hback)

/-- Every orderly step keeps the files whole. -/
theorem Kept.step {state : State} (hkept : state.Kept) {input : FileInput}
    (horderly : Orderly state input) : (step state input).Kept := by
  cases input with
  | record isFrontendTx data site clock =>
      obtain ⟨hfree, hunmoved⟩ := horderly
      refine hkept.begin hfree ?_
      have hwhole := hkept.whole (settleFileName isFrontendTx site clock)
      cases hhere : state.files.here (settleFileName isFrontendTx site clock) with
      | none =>
          have hthere : state.files.there (settleFileName isFrontendTx site clock) = none := by
            rw [Unmoved, hhere] at hunmoved
            exact Option.isNone_iff_eq_none.mp (hunmoved.resolve_left Bool.false_ne_true)
          exact ⟨hhere, hwhole.written_eq_nil hhere hthere⟩
      | some content => exact hwhole.here_eq (by rw [hhere]; exact Option.some_ne_none content)
  | backup name todaySettlementDate =>
      unfold Transfer.step
      dsimp only
      split
      · next hfound =>
          refine hkept.begin horderly ?_
          exact (hkept.whole name).here_eq (Option.isSome_iff_ne_none.mp hfound.1)
      · exact hkept
  | proceed index answer =>
      unfold Transfer.step
      dsimp only
      cases htask : state.tasks[index]? with
      | none => exact hkept
      | some task =>
          have hmem : task ∈ state.tasks := List.mem_of_getElem? htask
          obtain ⟨hwhole, hnext⟩ := staged_proceed (hkept.staged task hmem) answer
          exact hkept.advance htask _
            (fun other hne => same_proceed state.files hne answer task.stage) hwhole hnext

end State

/-- In every run in which no two tasks have one file at a time and no record goes to a file that
was moved away, every file is whole: all that was ever written to it is on the station or on the
server, in the order of the writes.  The answers of the file system do not matter. -/
theorem transfer_run (here there : List UInt8 → Option (List UInt8)) {inputs : List FileInput}
    (horderly : Meets step State.Orderly (State.init here there) inputs) (name : List UInt8) :
    (run step (State.init here there) inputs).files.Whole name :=
  (run_invariant (fun _ _ hkept hstep => hkept.step hstep) (State.kept_init here there)
    horderly).whole name

/-! ## One call after the other -/

/-- A call that no other task disturbs does to its file what `writeDSRCFeOrBeTxToCollFile` does. -/
theorem record_alone {state : State} (hidle : state.tasks = []) (isFrontendTx : Bool)
    (data : List UInt8) (site : Site) (clock : Readings) :
    (run step state [.record isFrontendTx data site clock, .proceed 0 .success,
        .proceed 0 .success]).files.here (settleFileName isFrontendTx site clock) =
      some (writeDSRCFeOrBeTxToCollFile isFrontendTx data site clock
        (state.files.here (settleFileName isFrontendTx site clock))) := by
  obtain ⟨files, tasks⟩ := state
  subst hidle
  generalize hname : settleFileName isFrontendTx site clock = name
  cases hhere : files.here name with
  | none =>
      cases hheader : headerRecord isFrontendTx site clock with
      | none =>
          simp [run, step, proceed, chunkOf, goOn, hname, hhere, hheader,
            writeDSRCFeOrBeTxToCollFile]
      | some header =>
          simp [run, step, proceed, chunkOf, goOn, hname, hhere, hheader, written,
            writeDSRCFeOrBeTxToCollFile, Places.here_overwrite]
  | some file =>
      have htouched : (files.touch name).here name = some file := by
        rw [Places.here_touch, hhere]
        rfl
      simp [run, step, proceed, chunkOf, goOn, hname, hhere, written,
        writeDSRCFeOrBeTxToCollFile, Places.here_append htouched]

/-- A call for a record of the backend with its transfer, all of which succeeds. -/
def backendCall (data : List UInt8) (site : Site) (clock : Readings) : List FileInput :=
  .record false data site clock :: List.replicate 4 (.proceed 0 .success)

/-- The record is on the server, in a file of its own. -/
theorem backendCall_alone {state : State} (hidle : state.tasks = []) {site : Site}
    {clock : Readings} {header : List UInt8} (hheader : headerRecord false site clock = some header)
    (hhere : state.files.here (settleFileName false site clock) = none) (data : List UInt8) :
    let after := run step state (backendCall data site clock)
    after.tasks = [] ∧ after.files.here (settleFileName false site clock) = none ∧
      after.files.there (settleFileName false site clock) = some (header ++ data) ∧
      after.files.written (settleFileName false site clock) =
        state.files.written (settleFileName false site clock) ++ (header ++ data) := by
  obtain ⟨files, tasks⟩ := state
  subst hidle
  dsimp only at hhere ⊢
  generalize hname : settleFileName false site clock = name at hhere ⊢
  have hempty : (files.truncate name).here name = some [] := Places.here_truncate
  have hwrote := Places.here_overwrite hempty (header ++ data)
  have hafter : run step ⟨files, []⟩ (backendCall data site clock) =
      ⟨(((files.truncate name).overwrite name (header ++ data)).copy name).remove name, []⟩ := by
    simp [backendCall, List.replicate, run, step, proceed, chunkOf, goOn, hname, hhere, hheader,
      written, hwrote]
  rw [hafter]
  exact ⟨rfl, Places.here_remove, Places.there_copy.trans hwrote, Places.written_overwrite _⟩

theorem length_headerRecord_pos {isFrontendTx : Bool} {site : Site} {clock : Readings}
    {header : List UInt8} (hheader : headerRecord isFrontendTx site clock = some header) :
    0 < header.length := by
  unfold headerRecord at hheader
  dsimp only at hheader
  split at hheader
  · obtain rfl := Option.some_inj.mp hheader
    rw [List.length_append]
    refine Nat.add_pos_left ?_ _
    unfold headerStart
    simp only [List.append_assoc, List.singleton_append]
    exact Nat.succ_pos _
  · cases hheader

/-- Two records of the backend in one second, each transferred without a failure: on the server is
the second one alone, and the first is nowhere. -/
theorem replaced_run {state : State} (hidle : state.tasks = []) {site : Site}
    {clock clock' : Readings} (hsecond : clock'.date = clock.date) {header header' : List UInt8}
    (hheader : headerRecord false site clock = some header)
    (hheader' : headerRecord false site clock' = some header')
    (hnew : state.files.here (settleFileName false site clock) = none)
    (first second : List UInt8) :
    let after := run step state (backendCall first site clock ++ backendCall second site clock')
    after.files.here (settleFileName false site clock) = none ∧
      after.files.there (settleFileName false site clock) = some (header' ++ second) ∧
      ¬ after.files.Whole (settleFileName false site clock) := by
  have hname : settleFileName false site clock' = settleFileName false site clock := by
    unfold settleFileName
    rw [hsecond]
    rfl
  obtain ⟨htasks, hgone, -, hwritten⟩ := backendCall_alone hidle hheader hnew first
  obtain ⟨-, hgone', hthere', hwritten'⟩ := backendCall_alone htasks hheader'
    (hname ▸ hgone) second
  rw [hname] at hgone' hthere' hwritten'
  rw [run_append]
  refine ⟨hgone', hthere', ?_⟩
  rintro (hhere | ⟨-, hcopy | hempty⟩)
  · rw [hgone'] at hhere
    cases hhere
  · rw [hthere', hwritten', hwritten] at hcopy
    have hlength := congrArg List.length (Option.some_inj.mp hcopy)
    have hpos := length_headerRecord_pos hheader
    simp only [List.length_append] at hlength
    omega
  · rw [hwritten'] at hempty
    have hpos := length_headerRecord_pos hheader'
    have hnil := (List.append_eq_nil_iff.mp (List.append_eq_nil_iff.mp hempty).2).1
    rw [hnil] at hpos
    cases hpos

/-- Two records of the morning in one second. -/
theorem replaced_run_morning :
    let site := siteOf "00001"
    let after := run step (State.init (fun _ => none) fun _ => none)
      (backendCall [1] site readings ++ backendCall [2] site readings)
    ¬ after.files.Whole (settleFileName false site readings) := by
  have hheader : ∃ header, headerRecord false (siteOf "00001") readings = some header :=
    Option.isSome_iff_exists.mp (by decide +kernel)
  obtain ⟨header, hheader⟩ := hheader
  exact (replaced_run rfl rfl hheader hheader rfl [1] [2]).2.2

/-- A frontend record whose file the backup tries to move in vain, and a backend record that goes
to the server at once. -/
theorem transfer_run_day :
    let site := siteOf "00001"
    let inputs : List FileInput := [.record true [1] site readings, .proceed 0 .success,
      .record false [2] site readings, .proceed 1 .success, .proceed 0 .success,
      .proceed 0 .success, .backup (settleFileName true site readings) (bytesOf "20260902".toList),
      .proceed 1 (.spoiled []), .proceed 0 .success, .proceed 0 .success,
      .record true [3] site readings, .proceed 0 .success, .proceed 0 (.partly 0)]
    let after := run step (State.init (fun _ => none) fun _ => none) inputs
    after.files.Whole (settleFileName true site readings) ∧
      after.files.Whole (settleFileName false site readings) := by
  intro site inputs after
  have horderly : Meets step State.Orderly (State.init (fun _ => none) fun _ => none) inputs := by
    decide +kernel
  exact ⟨transfer_run _ _ horderly _, transfer_run _ _ horderly _⟩

end LinuxPBS.Eep.Transfer
