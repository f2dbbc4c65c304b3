import LinuxPBS.Lcsc.Client

/-!
# The order of the handlers in the client of the card reader

The handlers of the context run in the order in which they are posted, and the state
machine relies on that: a time-out that comes too late is still in front of the command that
would mistake it for its own.  `Ordered` says which kinds of handlers never stand in front
of which others, in each phase of a command, `Content` what is not queued at all, and
`Sorted` is the two together.  The lemmas say what becomes of a sorted queue when its first
handler is taken and another one is posted; nothing here looks at the rest of the client.
-/

namespace LinuxPBS.Lcsc

/-! ## Phases and kinds -/

/-- What the client does with a command. -/
inductive Phase
  | idle
  | sending
  | waiting
  deriving DecidableEq, Repr

/-- The phase of a state. -/
def State.phase : State → Phase
  | .idle => .idle
  | .sendingRequestAsync | .sendingChunkCommandRequestAsync => .sending
  | .waitingForResponse | .waitingForChunkCommandResponse => .waiting

/-- The kinds of handlers that the order in the queue matters for. -/
inductive Kind
  /-- takes a command from the queue -/
  | launch
  /-- has to do with a write -/
  | write
  /-- the response timer has expired, and the event of that -/
  | rspExpired
  | rspTimeout
  /-- a frame has been received -/
  | received
  /-- comes of a response, and ends the wait for it -/
  | settle
  /-- the completion of a read -/
  | read
  | other
  deriving DecidableEq, Repr

/-- The kind of an event. -/
def Event.kind : Event → Kind
  | .commandEnqueued | .chunkCommandEnqueued => .launch
  | .writeCompleted | .writeFailed | .writeTimeout => .write
  | .responseTimeout => .rspTimeout
  | .responseReceived => .received
  | .responseHandled | .responseRejected | .sendNextChunkCommand | .allChunkCommandCompleted
  | .chunkCommandError => .settle

/-- The kind of a handler. -/
def Handler.kind : Handler → Kind
  | .event raised => raised.kind
  | .expired .rsp => .rspExpired
  | .expired .serialWriteDelay | .expired .serialWrite | .writeEnd _ => .write
  | .readEnd _ _ | .readFailed => .read
  | .checkCommandQueue | .enqueueCommandOnIoThread _ => .other

/-- The first kind may stand in front of the second one. -/
def Ordered (phase : Phase) : Kind → Kind → Prop
  | .received, .received | .received, .settle => False
  | .read, .read | .read, .received => False
  | .settle, .settle | .settle, .rspExpired | .settle, .write => False
  | .rspExpired, .rspExpired | .rspExpired, .rspTimeout => False
  | .rspTimeout, .rspExpired | .rspTimeout, .rspTimeout => False
  | .launch, .write | .launch, .rspTimeout | .launch, .settle => phase ≠ .idle
  | .write, .launch | .write, .rspTimeout => phase ≠ .sending
  | _, _ => True

instance (phase : Phase) (first second : Kind) : Decidable (Ordered phase first second) := by
  unfold Ordered
  split <;> infer_instance

/-- What is not queued in a phase; the response timer runs while nothing of a response is there. -/
def Content (phase : Phase) (rspArmed : Bool) (kinds : List Kind) : Prop :=
  match phase with
  | .idle => rspArmed = false ∧ .rspExpired ∉ kinds
  | .sending => rspArmed = false ∧ .rspExpired ∉ kinds ∧ .settle ∉ kinds
  | .waiting => .launch ∉ kinds ∧
      (rspArmed = true → .rspExpired ∉ kinds ∧ .rspTimeout ∉ kinds ∧ .settle ∉ kinds)

/-- The queued handlers are in order and fit the phase, and one read is under way at most. -/
structure Sorted (phase : Phase) (rspArmed reading : Bool) (kinds : List Kind) : Prop where
  order : kinds.Pairwise (Ordered phase)
  content : Content phase rspArmed kinds
  reads : reading = true → .read ∉ kinds

section Sorted

variable {phase : Phase} {rspArmed reading : Bool} {kind : Kind} {kinds : List Kind}

theorem Content.tail (hcontent : Content phase rspArmed (kind :: kinds)) :
    Content phase rspArmed kinds := by
  cases phase <;> simp_all [Content]

theorem Sorted.tail (hsorted : Sorted phase rspArmed reading (kind :: kinds)) :
    Sorted phase rspArmed reading kinds :=
  ⟨hsorted.order.of_cons, hsorted.content.tail,
    fun hreading hmem => hsorted.reads hreading (List.mem_cons_of_mem _ hmem)⟩

/-- The first handler may stand in front of all the others. -/
theorem Sorted.head (hsorted : Sorted phase rspArmed reading (kind :: kinds)) {second : Kind}
    (hsecond : ¬ Ordered phase kind second) : second ∉ kinds :=
  fun hmem => hsecond (List.rel_of_pairwise_cons hsorted.order hmem)

/-- A handler is posted that all the others may stand in front of. -/
theorem Sorted.concat (hsorted : Sorted phase rspArmed reading kinds)
    (horder : ∀ front ∈ kinds, Ordered phase front kind)
    (hcontent : Content phase rspArmed (kinds ++ [kind])) (hread : kind ≠ .read) :
    Sorted phase rspArmed reading (kinds ++ [kind]) := by
  refine ⟨?_, hcontent, fun hreading hmem => ?_⟩
  · refine List.pairwise_append.mpr ⟨hsorted.order, List.pairwise_singleton _ _, ?_⟩
    intro front hmem last hlast
    rw [List.mem_singleton.mp hlast]
    exact horder front hmem
  · rcases List.mem_append.mp hmem with hold | hnew
    · exact hsorted.reads hreading hold
    · exact hread (List.mem_singleton.mp hnew).symm

theorem Sorted.other (hsorted : Sorted phase rspArmed reading kinds) :
    Sorted phase rspArmed reading (kinds ++ [.other]) := by
  refine hsorted.concat (fun front _ => ?_) ?_ (by decide)
  · cases front <;> trivial
  · have hcontent := hsorted.content
    cases phase <;> simpa [Content] using hcontent

/-- In `IDLE` the queue is looked at. -/
theorem Sorted.launch (hsorted : Sorted .idle rspArmed reading kinds) :
    Sorted .idle rspArmed reading (kinds ++ [.launch]) := by
  refine hsorted.concat (fun front _ => ?_) ?_ (by decide)
  · cases front <;> simp [Ordered]
  · simpa [Content] using hsorted.content

/-- A read completes. -/
theorem Sorted.read (hsorted : Sorted phase rspArmed true kinds) :
    Sorted phase rspArmed false (kinds ++ [.read]) := by
  have hread := hsorted.reads rfl
  refine ⟨?_, ?_, fun hreading => Bool.noConfusion hreading⟩
  · refine List.pairwise_append.mpr ⟨hsorted.order, List.pairwise_singleton _ _, ?_⟩
    intro front hmem last hlast
    rw [List.mem_singleton.mp hlast]
    cases front <;> trivial
  · have hcontent := hsorted.content
    cases phase <;> simpa [Content] using hcontent

/-- The next read is started. -/
theorem Sorted.readEnd (hsorted : Sorted phase rspArmed reading (.read :: kinds)) :
    Sorted phase rspArmed true kinds :=
  ⟨hsorted.order.of_cons, hsorted.content.tail, fun _ => hsorted.head (by simp [Ordered])⟩

/-- A frame has been received, and the last one has been handled. -/
theorem Sorted.received (hsorted : Sorted phase rspArmed reading kinds)
    (hnone : .received ∉ kinds) (hread : .read ∉ kinds) :
    Sorted phase rspArmed reading (kinds ++ [.received]) := by
  refine hsorted.concat (fun front hmem => ?_) ?_ (by decide)
  · cases front <;> trivial
  · have hcontent := hsorted.content
    cases phase <;> simpa [Content] using hcontent

theorem Sorted.write (hsorted : Sorted .sending rspArmed reading kinds) :
    Sorted .sending rspArmed reading (kinds ++ [.write]) := by
  have hsettle : .settle ∉ kinds := hsorted.content.2.2
  refine hsorted.concat (fun front hmem => ?_) ?_ (by decide)
  · cases front <;> trivial
  · simpa [Content] using hsorted.content

theorem Sorted.writes (hsorted : Sorted .sending rspArmed reading kinds) {newer : List Kind}
    (hwrites : ∀ kind ∈ newer, kind = .write) :
    Sorted .sending rspArmed reading (kinds ++ newer) := by
  induction newer generalizing kinds with
  | nil => simpa using hsorted
  | cons kind newer ih =>
      have hkind : kind = .write := hwrites kind List.mem_cons_self
      subst hkind
      rw [← List.concat_append, List.concat_eq_append]
      exact ih hsorted.write fun last hmem => hwrites last (List.mem_cons_of_mem _ hmem)

/-- The response timer expires. -/
theorem Sorted.rspExpires (hsorted : Sorted phase true reading kinds) :
    Sorted phase false reading (kinds ++ [.rspExpired]) := by
  have hcontent := hsorted.content
  cases phase with
  | idle => exact absurd hcontent.1 (by simp)
  | sending => exact absurd hcontent.1 (by simp)
  | waiting =>
      obtain ⟨hlaunch, hnone⟩ := hcontent
      obtain ⟨hexpired, htimeout, hsettle⟩ := hnone rfl
      have hunarmed : Sorted .waiting false reading kinds :=
        ⟨hsorted.order, ⟨hlaunch, fun harmed => Bool.noConfusion harmed⟩, hsorted.reads⟩
      refine hunarmed.concat (fun front hmem => ?_) ?_ (by decide)
      · cases front <;> trivial
      · simpa [Content] using hlaunch

/-- The handler of the response timer raises its event. -/
theorem Sorted.rspExpired (hsorted : Sorted phase rspArmed reading (.rspExpired :: kinds)) :
    Sorted phase rspArmed reading (kinds ++ [.rspTimeout]) := by
  have hexpired : .rspExpired ∉ kinds := hsorted.head (by simp [Ordered])
  have htimeout : .rspTimeout ∉ kinds := hsorted.head (by simp [Ordered])
  have hcontent := hsorted.content
  cases phase with
  | idle => exact absurd List.mem_cons_self hcontent.2
  | sending => exact absurd List.mem_cons_self hcontent.2.1
  | waiting =>
      obtain ⟨hlaunch, hnone⟩ := hcontent
      have hunarmed : rspArmed = false :=
        Bool.eq_false_iff.mpr fun harmed => (hnone harmed).1 List.mem_cons_self
      refine hsorted.tail.concat (fun front hmem => ?_) ?_ (by decide)
      · cases front <;> trivial
      · rw [List.mem_cons, not_or] at hlaunch
        simp [Content, hlaunch.2, hunarmed]

/-- A command is taken up; nothing of the one before is left but what is ignored. -/
theorem Sorted.begin (hsorted : Sorted .idle rspArmed reading (.launch :: kinds)) :
    Sorted .sending rspArmed reading kinds ∧ .write ∉ kinds := by
  have hwrite : .write ∉ kinds := hsorted.head (by simp [Ordered])
  have hsettle : .settle ∉ kinds := hsorted.head (by simp [Ordered])
  obtain ⟨hunarmed, hexpired⟩ := hsorted.content.tail
  refine ⟨⟨?_, ⟨hunarmed, hexpired, hsettle⟩, hsorted.tail.reads⟩, hwrite⟩
  refine hsorted.order.of_cons.imp_of_mem fun {first second} hfirst hsecond hordered => ?_
  cases first <;> cases second <;> trivial

/-- A frame has been written. -/
theorem Sorted.complete (hsorted : Sorted .sending rspArmed reading (.write :: kinds)) :
    Sorted .waiting true reading kinds := by
  have hlaunch : .launch ∉ kinds := hsorted.head (by simp [Ordered])
  have htimeout : .rspTimeout ∉ kinds := hsorted.head (by simp [Ordered])
  obtain ⟨-, hexpired, hsettle⟩ := hsorted.content.tail
  refine ⟨?_, ⟨hlaunch, fun _ => ⟨hexpired, htimeout, hsettle⟩⟩, hsorted.tail.reads⟩
  refine hsorted.order.of_cons.imp_of_mem fun {first second} hfirst hsecond hordered => ?_
  cases first <;> cases second <;> trivial

/-- Without a command to be taken up the order of an idle client is that of any. -/
theorem Sorted.idle (hsorted : Sorted phase rspArmed reading kinds) (hunarmed : rspArmed = false)
    (hlaunch : .launch ∉ kinds) (hexpired : .rspExpired ∉ kinds) :
    Sorted .idle rspArmed reading kinds := by
  refine ⟨?_, ⟨hunarmed, hexpired⟩, hsorted.reads⟩
  refine hsorted.order.imp_of_mem fun {first second} hfirst hsecond hordered => ?_
  cases first <;> cases second <;> trivial

/-- A write has failed. -/
theorem Sorted.fail (hsorted : Sorted .sending rspArmed reading (.write :: kinds)) :
    Sorted .idle rspArmed reading kinds := by
  have hlaunch : .launch ∉ kinds := hsorted.head (by simp [Ordered])
  obtain ⟨hunarmed, hexpired, -⟩ := hsorted.content.tail
  exact hsorted.tail.idle hunarmed hlaunch hexpired

/-- The wait for a response ends. -/
theorem Sorted.end (hsorted : Sorted .waiting rspArmed reading (kind :: kinds))
    (hkind : kind = .rspTimeout ∨ kind = .settle) : Sorted .idle rspArmed reading kinds := by
  obtain ⟨hlaunch, hnone⟩ := hsorted.content
  rw [List.mem_cons, not_or] at hlaunch
  have hunarmed : rspArmed = false := by
    refine Bool.eq_false_iff.mpr fun harmed => ?_
    obtain ⟨-, htimeout, hsettle⟩ := hnone harmed
    rcases hkind with rfl | rfl
    · exact htimeout List.mem_cons_self
    · exact hsettle List.mem_cons_self
  have hexpired : .rspExpired ∉ kinds := by
    refine hsorted.head ?_
    rcases hkind with rfl | rfl <;> simp [Ordered]
  exact hsorted.tail.idle hunarmed hlaunch.2 hexpired

/-- The next chunk is sent. -/
theorem Sorted.next (hsorted : Sorted .waiting rspArmed reading (.settle :: kinds)) :
    Sorted .sending rspArmed reading kinds ∧ .write ∉ kinds := by
  obtain ⟨hlaunch, hnone⟩ := hsorted.content
  have hunarmed : rspArmed = false :=
    Bool.eq_false_iff.mpr fun harmed => (hnone harmed).2.2 List.mem_cons_self
  have hwrite : .write ∉ kinds := hsorted.head (by simp [Ordered])
  have hsettle : .settle ∉ kinds := hsorted.head (by simp [Ordered])
  have hexpired : .rspExpired ∉ kinds := hsorted.head (by simp [Ordered])
  refine ⟨⟨?_, ⟨hunarmed, hexpired, hsettle⟩, hsorted.tail.reads⟩, hwrite⟩
  refine hsorted.order.of_cons.imp_of_mem fun {first second} hfirst hsecond hordered => ?_
  cases first <;> cases second <;> trivial

/-- A response is handled, and the event that ends the wait for it is posted. -/
theorem Sorted.settle (hsorted : Sorted .waiting rspArmed reading (.received :: kinds)) :
    Sorted .waiting false reading (kinds ++ [.settle]) := by
  have hreceived : .received ∉ kinds := hsorted.head (by simp [Ordered])
  have hsettle : .settle ∉ kinds := hsorted.head (by simp [Ordered])
  obtain ⟨hlaunch, -⟩ := hsorted.content.tail
  have hunarmed : Sorted .waiting false reading kinds :=
    ⟨hsorted.tail.order, ⟨hlaunch, fun harmed => Bool.noConfusion harmed⟩, hsorted.tail.reads⟩
  refine hunarmed.concat (fun front hmem => ?_) ?_ (by decide)
  · cases front <;> trivial
  · simpa [Content] using hlaunch

end Sorted

end LinuxPBS.Lcsc
