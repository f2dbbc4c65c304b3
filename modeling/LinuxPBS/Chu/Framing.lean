import Mathlib.Data.List.GetD
import LinuxPBS.Operation.Devices

/-!
# The messages of the CHU on a byte stream

The CHU sends `[..|..|cmd|data|]` over TCP.  `AppTcpClient` hands on what one read
returns, `CHUClient::handleReceivedData` makes an event of it, and `processCHU` takes
the text of the event for one message: it looks for the first start delimiter, takes the
fields up to the end delimiter, or up to the end of the text where there is none, and reads
the fields 2 and 3.

```text
the read holds                                processCHU gets
no '['                                        nothing
'[' and the message up to its data            the message
'[' and less of the message                   nothing, or the message with its data cut off
'[' of two messages                           the first message
```

`processed_iff` is the exact condition on the reads.
-/

namespace LinuxPBS.Chu

open CxxText Common Operation

/-! ## The messages -/

/-- A message of the CHU.  The texts hold no delimiter, and no end of a C string. -/
structure Message where
  station : List Char
  id : List Char
  cmd : List Char
  data : List Char
  plain : ∀ c ∈ station ++ id ++ cmd ++ data, c ∉ ['[', ']', '|', '\x00']

namespace Message

/-- What stands in front of the closing `|]`. -/
def body (message : Message) : List Char :=
  message.station ++ '|' :: (message.id ++ '|' :: (message.cmd ++ '|' :: message.data))

/-- The bytes of a message. -/
def wire (message : Message) : List Char := '[' :: (message.body ++ ['|', ']'])

/-- What `processCHU` reads of a message: its command and its data. -/
def read (message : Message) : String × String :=
  (String.ofList message.cmd, String.ofList message.data)

end Message

/-- The bytes of a sequence of messages. -/
def wires (messages : List Message) : List Char := (messages.map Message.wire).flatten

/-! ## The code -/

/-- `CHUClient::handleReceivedData`: the text of the event for one read. -/
def handleReceivedData (stopping success : Bool) (data : List Char) : Option String :=
  if stopping then none else if success then some (String.ofList data) else none

/-- The fields 2 and 3 of the text of an event; `none` for "Invalid data format". -/
def chuMessage (eventData : String) : Option (String × String) :=
  let fields := parseData '[' ']' '|' eventData
  if fields.length < 4 then none else some (fields.getD 2 "", fields.getD 3 "")

/-- What `processCHU` does with the fields it has read. -/
def processFields (enableCashcard : Bool → Op Unit) (cmd data : String) : Op Unit := do
  let rxcmd ← orThrow (stoi cmd)
  let tmpStr := split ',' data
  let iRC ← orThrow (stoi (← index tmpStr 0))
  -- `ChuRC_CNNBroken`
  if iRC = 24 then
    modify fun s => { s with tProcess.fiLastCHUCmd := .iInit }
    sendMsg2Server "90" ",,,,,CHU Connection Down"
    return
  if chuCode (← get).tProcess.fiLastCHUCmd + 1 = rxcmd then
    modify fun s => { s with tProcess.fiLastCHUCmd := .iInit }
    if rxcmd = 101 then chuInquired enableCashcard iRC tmpStr
    else if rxcmd = 103 then chuDebited enableCashcard iRC tmpStr
  else if rxcmd = 103 ∧ iRC = 12 then
    chuLateDebit tmpStr

/-- The text of an event counts for `processCHU` only by the message in it. -/
theorem processCHU_eq (enableCashcard : Bool → Op Unit) (eventData : String) :
    processCHU enableCashcard eventData = (do
      if (← get).tProcess.gbBarrierOpened then return
      if let some (cmd, data) := chuMessage eventData then
        processFields enableCashcard cmd data) := by
  unfold processCHU chuMessage
  by_cases hfields : (parseData '[' ']' '|' eventData).length < 4
  · simp only [if_pos hfields]
  · simp only [if_neg hfields]
    rfl

/-! ## Taking a read apart -/

variable {separator : Char} {before payload : List Char}

/-- Where a text ends that begins a field and may go on behind it. -/
theorem prefix_field {text field behind : List Char}
    ( hprefix : text <+: field ++ separator :: behind) :
    text <+: field ∨ ∃ more, text = field ++ separator :: more ∧ more <+: behind := by
  obtain ⟨left, hleft⟩ := hprefix
  obtain ⟨more, rfl, hmore⟩ | ⟨more, rfl, hmore⟩ := List.append_eq_append_iff.mp hleft
  · exact Or.inl ⟨more, rfl⟩
  · cases more with
    | nil => exact Or.inl ⟨[], by simp⟩
    | cons c more =>
        obtain ⟨rfl, hbehind⟩ := List.cons.inj hmore
        exact Or.inr ⟨more, rfl, left, hbehind.symm⟩

/-- The fields 2 and 3 of a payload. -/
def readPayload (payload : List Char) : Option (String × String) :=
  let fields := splitChars '|' payload
  if fields.length < 4 then none
  else some (String.ofList (fields.getD 2 []), String.ofList (fields.getD 3 []))

/-- The text of a read is cut at its first start delimiter and at the end delimiter behind it. -/
theorem chuMessage_ofList (hbefore : '[' ∉ before) (hpayload : ']' ∉ payload) {after : List Char}
    (hafter : after = [] ∨ ∃ more, after = ']' :: more) :
    chuMessage (String.ofList (before ++ '[' :: (payload ++ after))) = readPayload payload := by
  have hdrop : (before ++ '[' :: (payload ++ after)).dropWhile (· ≠ '[') =
      '[' :: (payload ++ after) := by
    rw [List.dropWhile_append_of_pos fun c hc =>
      decide_eq_true (ne_of_mem_of_not_mem hc hbefore)]
    simp
  have htake : (payload ++ after).takeWhile (· ≠ ']') = payload := by
    have hall : ∀ c ∈ payload, decide (c ≠ ']') = true := fun c hc =>
      decide_eq_true (ne_of_mem_of_not_mem hc hpayload)
    rw [List.takeWhile_append_of_pos hall]
    obtain rfl | ⟨more, rfl⟩ := hafter <;> simp
  have hparse : parseData '[' ']' '|' (String.ofList (before ++ '[' :: (payload ++ after))) =
      if payload = [] then [] else (splitChars '|' payload).map String.ofList := by
    simp only [parseData, String.toList_ofList, hdrop, htake]
  unfold chuMessage readPayload
  rw [hparse]
  by_cases hempty : payload = []
  · subst hempty
    rfl
  · simp only [if_neg hempty, List.length_map]
    rw [show "" = String.ofList [] from rfl, List.getD_map, List.getD_map]

/-- Without a start delimiter there is no message. -/
theorem chuMessage_of_notMem {text : List Char} (htext : '[' ∉ text) :
    chuMessage (String.ofList text) = none := by
  have hdrop : text.dropWhile (· ≠ '[') = [] := by
    exact List.dropWhile_eq_nil_iff.mpr fun c hc =>
      decide_eq_true (ne_of_mem_of_not_mem hc htext)
  simp only [chuMessage, parseData, String.toList_ofList, hdrop]
  rfl

namespace Message

variable (message : Message)

theorem notMem_fields {c : Char} (hc : c ∈ ['[', ']', '|', '\x00']) :
    c ∉ message.station ∧ c ∉ message.id ∧ c ∉ message.cmd ∧ c ∉ message.data := by
  have hplain : c ∉ message.station ++ message.id ++ message.cmd ++ message.data :=
    fun hmem => message.plain c hmem hc
  simp only [List.mem_append, not_or] at hplain
  exact ⟨hplain.1.1.1, hplain.1.1.2, hplain.1.2, hplain.2⟩

theorem notMem_body {c : Char} (hc : c ∈ ['[', ']']) : c ∉ message.body := by
  have hfields := message.notMem_fields (c := c) (by
    simp only [List.mem_cons, List.not_mem_nil, or_false] at hc ⊢
    tauto)
  have hne : c ≠ '|' := by
    rintro rfl
    exact absurd hc (by decide)
  simp only [body, List.mem_append, List.mem_cons, not_or]
  exact ⟨hfields.1, hne, hfields.2.1, hne, hfields.2.2.1, hne, hfields.2.2.2⟩

/-- The fields of a message whose data is `data`. -/
theorem splitChars_upToData {data : List Char} (hdata : '|' ∉ data) :
    splitChars '|' (message.station ++ '|' :: (message.id ++ '|' :: (message.cmd ++ '|' :: data))) =
      [message.station, message.id, message.cmd, data] := by
  obtain ⟨hstation, hid, hcmd, -⟩ := message.notMem_fields (c := '|') (by decide)
  rw [splitChars_append, splitChars_append, splitChars_append, splitChars_of_notMem hstation,
    splitChars_of_notMem hid, splitChars_of_notMem hcmd, splitChars_of_notMem hdata]
  rfl

/-- A prefix of the body has fewer than four fields, or it reaches into the data. -/
theorem readPayload_of_prefix {text : List Char} ( hprefix : text <+: message.body) :
    readPayload text = none ∨
      ∃ data missing, message.data = data ++ missing ∧ message.body = text ++ missing ∧
        readPayload text = some (String.ofList message.cmd, String.ofList data) := by
  obtain ⟨hstation, hid, hcmd, hdata⟩ := message.notMem_fields (c := '|') (by decide)
  -- a prefix of a field without a separator is one field
  have hone : ∀ {field piece : List Char}, '|' ∉ field → piece <+: field →
      splitChars '|' piece = [piece] := fun hfield hpiece =>
    splitChars_of_notMem fun hmem => hfield (hpiece.subset hmem)
  have hshort : ∀ {piece : List Char}, (splitChars '|' piece).length < 4 →
      readPayload piece = none := fun hlength => by simp only [readPayload, if_pos hlength]
  rcases prefix_field hprefix with hin | ⟨text₁, rfl, hprefix₁⟩
  · exact Or.inl (hshort (by rw [hone hstation hin]; simp))
  rcases prefix_field hprefix₁ with hin | ⟨text₂, rfl, hprefix₂⟩
  · refine Or.inl (hshort ?_)
    rw [splitChars_append, splitChars_of_notMem hstation, hone hid hin]
    simp
  rcases prefix_field hprefix₂ with hin | ⟨text₃, rfl, hprefix₃⟩
  · refine Or.inl (hshort ?_)
    rw [splitChars_append, splitChars_append, splitChars_of_notMem hstation,
      splitChars_of_notMem hid, hone hcmd hin]
    simp
  · obtain ⟨missing, hmissing⟩ := hprefix₃
    refine Or.inr ⟨text₃, missing, hmissing.symm, ?_, ?_⟩
    · rw [body, ← hmissing]
      simp
    · have hpiece : '|' ∉ text₃ := fun hmem => hdata (hmissing ▸ List.mem_append_left _ hmem)
      rw [readPayload, message.splitChars_upToData hpiece]
      rfl

theorem readPayload_body : readPayload message.body = some message.read := by
  obtain ⟨-, -, -, hdata⟩ := message.notMem_fields (c := '|') (by decide)
  rw [readPayload, body, message.splitChars_upToData hdata]
  rfl

/-- With its separator behind it the body has a fifth field, which is not read. -/
theorem readPayload_body_separator : readPayload (message.body ++ ['|']) = some message.read := by
  obtain ⟨-, -, -, hdata⟩ := message.notMem_fields (c := '|') (by decide)
  have hfields : splitChars '|' (message.body ++ ['|']) =
      [message.station, message.id, message.cmd, message.data, []] := by
    rw [splitChars_append, body, message.splitChars_upToData hdata]
    rfl
  rw [readPayload, hfields]
  rfl

/-- A read that holds the beginning `first` of a message gives the message exactly when at most the
closing `|]` is left for later reads. -/
theorem chuMessage_first_iff (hbefore : '[' ∉ before) {first left : List Char}
    (hfirst : first ≠ []) (hwire : message.wire = first ++ left) :
    chuMessage (String.ofList (before ++ first)) = some message.read ↔ left.length ≤ 2 := by
  obtain ⟨c, text, rfl⟩ := List.exists_cons_of_ne_nil hfirst
  rw [wire, List.cons_append] at hwire
  obtain ⟨rfl, htext⟩ := List.cons.inj hwire
  have hbody : ']' ∉ message.body := message.notMem_body (by decide)
  obtain ⟨more, rfl, hmore⟩ | ⟨more, hmore, rfl⟩ := List.append_eq_append_iff.mp htext
  · -- the whole body is there, and a part of the closing `|]`
    have hleft : left.length ≤ 2 := by
      have hlength := congrArg List.length hmore
      simp only [List.length_append, List.length_cons, List.length_nil] at hlength
      omega
    refine iff_of_true ?_ hleft
    rcases more with _ | ⟨separator, _ | ⟨final, more⟩⟩
    · have hread := chuMessage_ofList hbefore hbody (Or.inl rfl)
      rw [hread]
      exact message.readPayload_body
    · obtain ⟨rfl, -⟩ := List.cons.inj hmore
      have hpayload : ']' ∉ message.body ++ ['|'] := by simpa using hbody
      have hread := chuMessage_ofList hbefore hpayload (Or.inl rfl)
      rw [List.append_nil] at hread
      rw [hread]
      exact message.readPayload_body_separator
    · obtain ⟨rfl, hfinal⟩ := List.cons.inj hmore
      obtain ⟨rfl, -⟩ := List.cons.inj hfinal
      have hpayload : ']' ∉ message.body ++ ['|'] := by simpa using hbody
      have hread := chuMessage_ofList hbefore hpayload (Or.inr ⟨more, rfl⟩)
      rw [List.append_assoc] at hread
      rw [← message.readPayload_body_separator, ← hread]
      rfl
  · -- the read ends inside of the body
    have hpayload : ']' ∉ text := fun hmem => hbody (hmore ▸ List.mem_append_left _ hmem)
    have hread := chuMessage_ofList hbefore hpayload (Or.inl rfl)
    rw [List.append_nil] at hread
    rw [hread]
    have hleft : (more ++ ['|', ']']).length ≤ 2 ↔ more = [] := by
      simp
    rw [hleft]
    constructor
    · intro hmessage
      rcases message.readPayload_of_prefix ⟨more, hmore.symm⟩ with
        hnone | ⟨data, missing, hdata, hmissing, hsome⟩
      · rw [hnone] at hmessage
        cases hmessage
      · rw [hsome] at hmessage
        have hsame := (Prod.mk.inj (Option.some.inj hmessage)).2
        have hall : data = message.data := by simpa using congrArg String.toList hsame
        have hempty : missing = [] := by simpa [hall] using hdata
        rw [hmore, hempty, List.append_nil] at hmissing
        simpa using hmissing
    · rintro rfl
      rw [List.append_nil] at hmore
      rw [← hmore]
      exact message.readPayload_body

end Message

/-! ## The reads of a stream -/

/-- The fields `processCHU` gets of one read. -/
def readMessage (chunk : List Char) : Option (String × String) :=
  (handleReceivedData false true chunk).bind chuMessage

/-- The fields `processCHU` gets of a sequence of reads. -/
def processed (chunks : List (List Char)) : List (String × String) := chunks.filterMap readMessage

/-- Wherever a read ends inside of a message, it ends in front of the message, or it leaves at most
the closing `|]`.  The bytes of `pending` stand in front of the messages. -/
def CutsLate (pending : List Char) (messages : List Message) (chunks : List (List Char)) : Prop :=
  ∀ before after, chunks = before ++ after → ∀ done message todo,
    messages = done ++ message :: todo → ∀ first left, message.wire = first ++ left →
      before.flatten = pending ++ (wires done ++ first) → first = [] ∨ left.length ≤ 2

/-- No read holds the beginnings of two messages, and none ends inside of a message in front of the
end of its data. -/
structure WholeReads (messages : List Message) (chunks : List (List Char)) : Prop where
  apart : ∀ chunk ∈ chunks, chunk.count '[' ≤ 1
  late : CutsLate [] messages chunks

section Reads

variable {pending chunk : List Char} {messages : List Message} {chunks : List (List Char)}

@[simp] theorem wires_cons (message : Message) (messages : List Message) :
    wires (message :: messages) = message.wire ++ wires messages := rfl

theorem processed_cons (chunk : List Char) (chunks : List (List Char)) :
    processed (chunk :: chunks) =
      (chuMessage (String.ofList chunk)).toList ++ processed chunks := by
  have hread : readMessage chunk = chuMessage (String.ofList chunk) := rfl
  rw [processed, List.filterMap_cons, hread]
  cases chuMessage (String.ofList chunk) <;> rfl

/-- Every message that is processed stands behind a start delimiter of its own. -/
theorem length_processed_le (chunks : List (List Char)) :
    (processed chunks).length ≤ chunks.flatten.count '[' := by
  induction chunks with
  | nil => exact Nat.le_refl 0
  | cons chunk chunks ih =>
      have hfirst : (chuMessage (String.ofList chunk)).toList.length ≤ chunk.count '[' := by
        by_cases hmem : '[' ∈ chunk
        · have hpos := List.count_pos_iff.mpr hmem
          have hone := Option.length_toList_le (o := chuMessage (String.ofList chunk))
          omega
        · rw [chuMessage_of_notMem hmem]
          exact Nat.zero_le _
      rw [processed_cons, List.length_append, List.flatten_cons, List.count_append]
      omega

theorem Message.notMem_of_wire (message : Message) {first left : List Char} (hfirst : first ≠ [])
    (hwire : message.wire = first ++ left) : '[' ∉ left ∧ first.count '[' = 1 := by
  obtain ⟨c, text, rfl⟩ := List.exists_cons_of_ne_nil hfirst
  rw [Message.wire, List.cons_append] at hwire
  obtain ⟨rfl, htext⟩ := List.cons.inj hwire
  have hbody : '[' ∉ message.body ++ ['|', ']'] := by
    simpa using message.notMem_body (c := '[') (by decide)
  rw [htext, List.mem_append, not_or] at hbody
  exact ⟨hbody.2, by rw [List.count_cons_self, List.count_eq_zero.mpr hbody.1]⟩

theorem Message.count_wire (message : Message) : message.wire.count '[' = 1 := by
  have hne : message.wire ≠ [] := List.cons_ne_nil _ _
  exact (message.notMem_of_wire hne (List.append_nil message.wire).symm).2

theorem count_wires (messages : List Message) : (wires messages).count '[' = messages.length := by
  induction messages with
  | nil => rfl
  | cons message messages ih =>
      rw [wires_cons, List.count_append, message.count_wire, ih, List.length_cons, Nat.add_comm]

/-! ### One read more -/

/-- A read that ends in what is pending. -/
theorem cutsLate_pending {more : List Char} :
    CutsLate (chunk ++ more) messages (chunk :: chunks) ↔ CutsLate more messages chunks := by
  constructor
  · intro hlate before after hchunks done message todo hmessages first left hwire hbefore
    refine hlate (chunk :: before) after (by rw [hchunks]; rfl) done message todo hmessages first
      left hwire ?_
    rw [List.flatten_cons, hbefore, List.append_assoc]
  · intro hlate before after hchunks done message todo hmessages first left hwire hbefore
    cases before with
    | nil =>
        have hempty := (List.append_eq_nil_iff.mp hbefore.symm).2
        exact Or.inl (List.append_eq_nil_iff.mp hempty).2
    | cons other before =>
        obtain ⟨rfl, hrest⟩ := List.cons.inj hchunks
        rw [List.flatten_cons, List.append_assoc] at hbefore
        exact hlate before after hrest done message todo hmessages first left hwire
          (List.append_cancel_left hbefore)

/-- A read that ends inside of the first message. -/
theorem cutsLate_first {message : Message} {first left : List Char} (hfirst : first ≠ [])
    (hwire : message.wire = first ++ left) :
    CutsLate pending (message :: messages) ((pending ++ first) :: chunks) ↔
      left.length ≤ 2 ∧ CutsLate left messages chunks := by
  constructor
  · intro hlate
    constructor
    · have hcut := hlate [pending ++ first] chunks rfl [] message messages rfl first left hwire
        (by simp [wires])
      exact hcut.resolve_left hfirst
    · intro before after hchunks done other todo hmessages begun rest hother hbefore
      refine hlate ((pending ++ first) :: before) after (by rw [hchunks]; rfl) (message :: done)
        other todo (by rw [hmessages]; rfl) begun rest hother ?_
      rw [List.flatten_cons, hbefore, wires_cons, hwire]
      simp only [List.append_assoc]
  · rintro ⟨hleft, hlate⟩ before after hchunks done other todo hmessages begun rest hother hbefore
    cases before with
    | nil =>
        have hempty := (List.append_eq_nil_iff.mp hbefore.symm).2
        exact Or.inl (List.append_eq_nil_iff.mp hempty).2
    | cons read before =>
        obtain ⟨rfl, hrest⟩ := List.cons.inj hchunks
        rw [List.flatten_cons, List.append_assoc] at hbefore
        have hbefore := List.append_cancel_left hbefore
        cases done with
        | nil =>
            -- the message itself, cut once more
            obtain ⟨rfl, -⟩ := List.cons.inj hmessages
            have hbegun : first ++ before.flatten = begun := by simpa [wires] using hbefore
            rw [hwire, ← hbegun, List.append_assoc] at hother
            have hlength := congrArg List.length (List.append_cancel_left hother)
            rw [List.length_append] at hlength
            exact Or.inr (by omega)
        | cons opened done =>
            obtain ⟨rfl, hlater⟩ := List.cons.inj hmessages
            rw [wires_cons, hwire, List.append_assoc, List.append_assoc] at hbefore
            exact hlate before after hrest done other todo hlater begun rest hother
              (List.append_cancel_left hbefore)

theorem mem_of_wires {text rest : List Char} (htext : text ≠ [])
    (hwires : wires messages = text ++ rest) : '[' ∈ text := by
  cases messages with
  | nil => exact absurd (List.append_eq_nil_iff.mp hwires.symm).1 htext
  | cons message messages =>
      obtain ⟨c, text, rfl⟩ := List.exists_cons_of_ne_nil htext
      exact (List.cons.inj hwires).1 ▸ List.mem_cons_self

/-- A read with the beginning of one message counts for that message. -/
theorem processed_first_iff {message : Message} {first left : List Char} (hpending : '[' ∉ pending)
    (hfirst : first ≠ []) (hwire : message.wire = first ++ left)
    (hflatten : chunks.flatten = left ++ wires messages) :
    processed ((pending ++ first) :: chunks) = (message :: messages).map Message.read ↔
      left.length ≤ 2 ∧ processed chunks = messages.map Message.read := by
  rw [processed_cons, List.map_cons, ← message.chuMessage_first_iff hpending hfirst hwire]
  have hbound : (processed chunks).length ≤ messages.length := by
    have hle := length_processed_le chunks
    have hleft := List.count_eq_zero.mpr (message.notMem_of_wire hfirst hwire).1
    rwa [hflatten, List.count_append, hleft, count_wires, Nat.zero_add] at hle
  cases hmessage : chuMessage (String.ofList (pending ++ first)) with
  | none =>
      -- what is left holds too few messages to make up for this one
      refine iff_of_false (fun heq => ?_) fun hread => by cases hread.1
      have hlength := congrArg List.length heq
      simp only [Option.toList_none, List.nil_append, List.length_cons, List.length_map] at hlength
      omega
  | some read =>
      rw [Option.toList_some, List.singleton_append, List.cons.injEq, Option.some.injEq]

/-- The fields that are processed are those of the messages exactly when the reads leave the
messages whole. -/
theorem processed_iff_of_pending (hpending : '[' ∉ pending)
    (hflatten : chunks.flatten = pending ++ wires messages) :
    processed chunks = messages.map Message.read ↔
      (∀ chunk ∈ chunks, chunk.count '[' ≤ 1) ∧ CutsLate pending messages chunks := by
  induction chunks generalizing pending messages with
  | nil =>
      cases messages with
      | nil =>
          refine iff_of_true rfl ⟨fun chunk hchunk => absurd hchunk List.not_mem_nil, ?_⟩
          intro before after hchunks done message todo hmessages
          cases done <;> cases hmessages
      | cons message messages =>
          have hempty := (List.append_eq_nil_iff.mp hflatten.symm).2
          cases hempty
  | cons chunk chunks ih =>
      rw [List.flatten_cons] at hflatten
      -- the read ends in front of the next message
      have hinside : ∀ more, pending = chunk ++ more → chunks.flatten = more ++ wires messages →
          (processed (chunk :: chunks) = messages.map Message.read ↔
            (∀ read ∈ chunk :: chunks, read.count '[' ≤ 1) ∧
              CutsLate pending messages (chunk :: chunks)) := by
        rintro more rfl hrest
        rw [List.mem_append, not_or] at hpending
        have hnone : chunk.count '[' ≤ 1 := by
          rw [List.count_eq_zero.mpr hpending.1]
          exact Nat.zero_le 1
        rw [processed_cons, chuMessage_of_notMem hpending.1, cutsLate_pending, List.forall_mem_cons,
          Option.toList_none, List.nil_append]
        simpa only [hnone, true_and] using ih hpending.2 hrest
      obtain ⟨more, hmore, hrest⟩ | ⟨text, rfl, hrest⟩ := List.append_eq_append_iff.mp hflatten
      · exact hinside more hmore hrest
      by_cases htext : text = []
      · subst htext
        exact hinside [] (by simp) (by simpa using hrest.symm)
      cases messages with
      | nil => exact absurd (List.append_eq_nil_iff.mp hrest.symm).1 htext
      | cons message messages =>
          rw [wires_cons] at hrest
          have hcount : (pending ++ text).count '[' = text.count '[' := by
            rw [List.count_append, List.count_eq_zero.mpr hpending, Nat.zero_add]
          -- the read ends inside of the first message, or with it
          have hfirst : ∀ left, message.wire = text ++ left →
              chunks.flatten = left ++ wires messages →
              (processed ((pending ++ text) :: chunks) = (message :: messages).map Message.read ↔
                (∀ read ∈ (pending ++ text) :: chunks, read.count '[' ≤ 1) ∧
                  CutsLate pending (message :: messages) ((pending ++ text) :: chunks)) := by
            intro left hwire hleft
            obtain ⟨hfree, hone⟩ := message.notMem_of_wire htext hwire
            rw [processed_first_iff hpending htext hwire hleft, cutsLate_first htext hwire,
              List.forall_mem_cons, ih hfree hleft, hcount, hone]
            simp only [Nat.le_refl, true_and]
            tauto
          obtain ⟨more, rfl, hmore⟩ | ⟨left, hwire, hleft⟩ := List.append_eq_append_iff.mp hrest
          · by_cases hempty : more = []
            · subst hempty
              exact hfirst [] (by simp) hmore.symm
            · -- the beginning of the next message stands in the same read
              have hmany : 1 ≤ more.count '[' ∧
                  more.count '[' + chunks.flatten.count '[' = messages.length := by
                refine ⟨List.one_le_count_iff.mpr (mem_of_wires hempty hmore), ?_⟩
                rw [← List.count_append, ← hmore, count_wires]
              have hwire := message.count_wire
              have hbound := length_processed_le chunks
              refine iff_of_false (fun heq => ?_) fun hreads => ?_
              · have hone := Option.length_toList_le
                  (o := chuMessage (String.ofList (pending ++ (message.wire ++ more))))
                have hlength := congrArg List.length heq
                rw [processed_cons, List.length_append, List.length_map, List.length_cons] at hlength
                omega
              · have hle := hreads.1 _ List.mem_cons_self
                rw [hcount, List.count_append] at hle
                omega
          · exact hfirst left hwire hleft

/-- The messages `processCHU` gets are those the CHU has sent exactly when every read holds the
beginning of at most one message, and with it the message up to the end of its data. -/
theorem processed_iff (hflatten : chunks.flatten = wires messages) :
    processed chunks = messages.map Message.read ↔ WholeReads messages chunks := by
  rw [processed_iff_of_pending List.not_mem_nil hflatten]
  exact ⟨fun ⟨hapart, hlate⟩ => ⟨hapart, hlate⟩, fun ⟨hapart, hlate⟩ => ⟨hapart, hlate⟩⟩

end Reads

/-! ## Two debits -/

/-- A debit that went well. -/
def firstDebit : Message where
  station := "CHU".toList
  id := "1".toList
  cmd := "103".toList
  data := "12,0,1234567890,150,1111222233334444,0,5000,1,0,20260101100000".toList
  plain := by simp

/-- Another one. -/
def secondDebit : Message where
  station := "CHU".toList
  id := "1".toList
  cmd := "103".toList
  data := "12,0,1234567891,200,5555666677778888,0,3000,1,0,20260101100001".toList
  plain := by simp

/-- Two messages in three reads; the second read holds only the closing `]` of the first. -/
theorem processed_iff_debits :
    processed [firstDebit.wire.dropLast, [']'], secondDebit.wire] =
        [firstDebit, secondDebit].map Message.read ↔
      WholeReads [firstDebit, secondDebit] [firstDebit.wire.dropLast, [']'], secondDebit.wire] :=
  processed_iff (by decide +kernel)

/-- Two messages in one read: the second one is lost.  One message in two reads: its data is cut
off. -/
theorem not_processed :
    let merged := [firstDebit.wire ++ secondDebit.wire]
    let cut := [firstDebit.wire.take 28, firstDebit.wire.drop 28]
    (merged.flatten = wires [firstDebit, secondDebit] ∧ processed merged = [firstDebit.read] ∧
      processed merged ≠ [firstDebit, secondDebit].map Message.read) ∧
    cut.flatten = wires [firstDebit] ∧ processed cut = [("103", "12,0,1234567890,1")] ∧
      processed cut ≠ [firstDebit].map Message.read := by
  decide +kernel

end LinuxPBS.Chu
